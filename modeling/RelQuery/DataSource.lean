import RelQuery.Compiler
import RelQuery.Value.Decode

/-!
# Data sources

A data source compiles a query, sends the statement to a database and decodes
what comes back.  The database is reached through a transport, which takes a
statement that returns rows or one that returns a count.

A call is planned before anything is sent (`plan`).  A plan is one `Job` or an
error, so a call sends one command or none.  A query whose kind does not fit
the call is refused before it is compiled.
-/

namespace RelQuery

/-! ## Commands and jobs -/

/-- A statement on its way to a database. -/
inductive Command where
  /-- A statement that returns rows. -/
  | fetch (sql : String)
  /-- A statement that returns the number of rows it touched. -/
  | execute (sql : String)
  deriving DecidableEq, Repr

/-- How a database is reached. -/
structure Transport where
  /-- The rows that a statement returns. -/
  fetch : String → Except Error (List RawRow)
  /-- The number of rows that a statement touched. -/
  execute : String → Except Error Nat

/-- What a call does once it is planned. -/
inductive Job where
  /-- Fetches rows and decodes them by a schema. -/
  | fetch (sql : String) (schema : Schema)
  /-- Executes a statement. -/
  | execute (sql : String)

/-- What running a query produced. -/
inductive Outcome where
  /-- The rows of a read. -/
  | rows (rows : List Row)
  /-- How many rows a write touched. -/
  | affected (count : Nat)

/-- The methods of a data source. -/
inductive Call where
  /-- A read, of a query that reads. -/
  | read
  /-- A write, of any other query. -/
  | write
  /-- Either, as the query says. -/
  | run
  deriving DecidableEq, Repr

/-- The command of a job. -/
def Job.command : Job → Command
  | fetch sql _ => .fetch sql
  | execute sql => .execute sql

/-- What a job produces by a transport. -/
def Job.perform (transport : Transport) : Job → Except Error Outcome
  | fetch sql schema => do return .rows (← Value.decodeRows schema (← transport.fetch sql))
  | execute sql => do return .affected (← transport.execute sql)

/-! ## Calls -/

namespace DataSource

/-- Whether a call takes a query of a kind. -/
def checkKind (call : Call) (kind : Kind) : Except Error Unit :=
  match call with
  | .read => if kind = .read then .ok () else .error (.readExpected kind)
  | .write => if kind = .read then .error .writeExpected else .ok ()
  | .run => .ok ()

/-- The job of a query whose statement is compiled.  A read decodes by the
schema of its model. -/
def jobOf (c : Compiler) (resolver : Resolver) (q : Query) (sql : String) :
    Except Error Job × Compiler :=
  if q.kind = .read then
    match q.model with
    | none => (.error (.noModel q.kind), c)
    | some model =>
      let (schema, c) := c.schemaFor resolver model.name
      (schema.map (.fetch sql), c)
  else (.ok (.execute sql), c)

/-- The job of a call, and the compiler after it. -/
def plan (c : Compiler) (resolver : Resolver) (call : Call) (q : Query) :
    Except Error Job × Compiler :=
  match checkKind call q.kind with
  | .error e => (.error e, c)
  | .ok () =>
    match c.compile resolver q with
    | (.error e, c) => (.error e, c)
    | (.ok sql, c) => jobOf c resolver q sql

/-- What a call gave and did. -/
structure Exchange where
  /-- The result or the failure. -/
  outcome : Except Error Outcome
  /-- The commands that were sent, in order. -/
  sent : List Command
  /-- The compiler after the call. -/
  compiler : Compiler

/-- A call by a transport. -/
def call (c : Compiler) (resolver : Resolver) (transport : Transport) (method : Call)
    (q : Query) : Exchange :=
  match plan c resolver method q with
  | (.error e, c) => ⟨.error e, [], c⟩
  | (.ok job, c) => ⟨job.perform transport, [job.command], c⟩

end DataSource

end RelQuery
