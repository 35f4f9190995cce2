import RelQuery.DataSource
import RelQuery.Proofs.Session
import RelQuery.Proofs.Sql.Shape

/-!
# Exchanges with a database

A data source answers one request after another.  A request is a call of a method with
a query, and by then the resolver and the database may not be what they were.

What a request sends follows from whether its method takes the query and from what
compiling gives (`Request.Answered`).

* A query that the method does not take is refused, and the compiler stays as it is.
* A query that does not compile ends in the error of compiling.
* Any other query sends one command, whose text is what compiling gives.

A read looks up the schema of its model once more after compiling.  Compiling has
looked it up as well (`Sql.exists_target_of_select`) and a cache keeps what it was
answered, so this time there is an entry, and no resolver is asked
(`Compiler.exists_entry_of_compile`).
-/

namespace RelQuery

/-! ## The look-ups of a read -/

namespace Sql

variable {ctx : Context}

theorem mem_asked_target {kind : Kind} {model : Option Entity} {t : Target}
    (h : (ctx.target kind model).outcome = .ok t) :
    t.model.name ∈ (ctx.target kind model).asked := by
  obtain ⟨rfl, hschema⟩ := target_eq_ok_iff.mp h
  rw [Context.target, Lookups.asked_bind_of_ok hschema]
  exact .head _

/-- A read that is written has looked up the schema of its model, and there is one. -/
theorem exists_target_of_select {depth : Nat} {q : Query} {pieces : List Piece}
    (h : (select ctx depth q).outcome = .ok pieces) :
    ∃ t : Target, (ctx.target q.kind q.model).outcome = .ok t ∧
      t.model.name ∈ (select ctx depth q).asked := by
  rw [outcome_select] at h
  obtain ⟨_, hdepth, h⟩ := bind_eq_ok_iff.mp h
  obtain ⟨t, ht, -⟩ := bind_eq_ok_iff.mp h
  refine ⟨t, ht, ?_⟩
  cases q
  have hchecked : (Lookups.ofExcept (ctx.checkDepth depth)).outcome = .ok () := hdepth
  rw [select, Lookups.asked_bind_of_ok hchecked, Lookups.asked_bind_of_ok ht]
  exact List.mem_append_right _ (List.mem_append_left _ (mem_asked_target ht))

end Sql

namespace Compiler

variable {c : Compiler} {resolver : Resolver} {q : Query}

/-- A read that compiles has a model, and compiling leaves an entry of this model with
the schema that the statement was compiled by. -/
theorem exists_entry_of_compile {sql : String} (hkind : q.kind = .read)
    (h : (c.compile resolver q).1 = .ok sql) :
    ∃ model entry, q.model = some model ∧
      (c.compile resolver q).2.cache.find? model.name = some entry ∧
      (c.context resolver).schemas model.name = .ok entry.schema := by
  have hstatement : Sql.statement (c.context resolver) q =
      Sql.select (c.context resolver) 0 q := by
    simp only [Sql.statement, hkind]
  have houtcome : (Sql.compile c.generator (c.context resolver) q).outcome = .ok sql := h
  rw [Sql.outcome_compile, hstatement] at houtcome
  obtain ⟨pieces, hpieces, -⟩ := map_eq_ok_iff.mp houtcome
  obtain ⟨t, ht, hasked⟩ := Sql.exists_target_of_select hpieces
  obtain ⟨hmodel, hschema⟩ := Sql.target_eq_ok_iff.mp ht
  rw [← hstatement, ← Sql.asked_compile c.generator] at hasked
  obtain ⟨entry, hfind, hentry⟩ := SchemaCache.exists_find?_lookUpAll hasked hschema
  exact ⟨t.model, entry, hmodel, hfind, by rw [hentry, hschema]⟩

/-- A model that has an entry is answered by it, whatever the resolver. -/
theorem schemaFor_of_find? {model : String} {entry : CachedSchema}
    (h : c.cache.find? model = some entry) (later : Resolver) :
    c.schemaFor later model = (.ok entry.schema, c) := by
  have hlookUp : c.cache.lookUp later model = (.ok entry, c.cache) :=
    SchemaCache.lookUp_of_eq_some h
  simp only [schemaFor, SchemaCache.schemaFor, learn, SchemaCache.lookUpAll, hlookUp]
  rfl

end Compiler

/-! ## Requests -/

/-- Whether a method takes queries of a kind. -/
def Call.Takes : Call → Kind → Prop
  | .read, kind => kind = .read
  | .write, kind => kind ≠ .read
  | .run, _ => True

namespace DataSource

/-- A call of a method, with what the resolver and the database are like by then. -/
structure Request where
  /-- The method. -/
  method : Call
  /-- The query that it is called with. -/
  query : Query
  /-- Where schemas come from. -/
  resolver : Resolver
  /-- How the database is reached. -/
  transport : Transport

/-- What compiling the query of a request gives, and the compiler after it. -/
def Request.compiled (before : Compiler) (r : Request) : Except Error String × Compiler :=
  before.compile r.resolver r.query

/-- The requests that a data source gets, one after another. -/
def exchanges (c : Compiler) : List Request → List Exchange
  | [] => []
  | r :: rs =>
    let x := call c r.resolver r.transport r.method r.query
    x :: exchanges x.compiler rs

/-- How a request is answered by a compiler as it stands before. -/
structure Request.Answered (before : Compiler) (r : Request) (x : Exchange) : Prop where
  /-- A read of a query that does not read is refused. -/
  read_refused : r.method = .read → r.query.kind ≠ .read →
    x = ⟨.error (.readExpected r.query.kind), [], before⟩
  /-- A write of a query that reads is refused. -/
  write_refused : r.method = .write → r.query.kind = .read →
    x = ⟨.error .writeExpected, [], before⟩
  /-- A query that does not compile sends nothing. -/
  failed : r.method.Takes r.query.kind → ∀ e, (r.compiled before).1 = .error e →
    x = ⟨.error e, [], (r.compiled before).2⟩
  /-- A query that does not read executes its statement. -/
  executed : r.method.Takes r.query.kind → ∀ sql, (r.compiled before).1 = .ok sql →
    r.query.kind ≠ .read →
    x = ⟨(r.transport.execute sql).map .affected, [.execute sql], (r.compiled before).2⟩
  /-- A query that reads fetches its rows.  They are decoded by the entry that compiling
  has left, which any look-up from then on gives. -/
  fetched : r.method.Takes r.query.kind → ∀ sql, (r.compiled before).1 = .ok sql →
    r.query.kind = .read → ∃ model entry, r.query.model = some model ∧
      (r.compiled before).2.cache.find? model.name = some entry ∧
      (before.context r.resolver).schemas model.name = .ok entry.schema ∧
      (∀ later : Resolver, (r.compiled before).2.schemaFor later model.name =
        (.ok entry.schema, (r.compiled before).2)) ∧
      x = ⟨do return .rows (← Value.decodeRows entry.schema (← r.transport.fetch sql)),
        [.fetch sql], (r.compiled before).2⟩

/-- Requests with their exchanges, each answered by the compiler that the one before has
left. -/
inductive Transcript : Compiler → List Request → List Exchange → Prop
  /-- There is no request. -/
  | nil {c : Compiler} : Transcript c [] []
  /-- A request is answered, and then the others. -/
  | cons {c : Compiler} {r : Request} {rs : List Request} {x : Exchange} {xs : List Exchange}
      (head : r.Answered c x) (tail : Transcript x.compiler rs xs) :
      Transcript c (r :: rs) (x :: xs)

/-! ## Calls -/

variable {c : Compiler} {resolver : Resolver} {transport : Transport} {method : Call} {q : Query}

/-- A method takes a query when the check of its kind passes. -/
theorem checkKind_eq_ok_iff {kind : Kind} : checkKind method kind = .ok () ↔ method.Takes kind := by
  cases method with
  | read => by_cases h : kind = .read <;> simp [checkKind, Call.Takes, h]
  | write => by_cases h : kind = .read <;> simp [checkKind, Call.Takes, h]
  | run => exact iff_of_true rfl trivial

theorem call_of_refused {e : Error} (h : checkKind method q.kind = .error e) :
    call c resolver transport method q = ⟨.error e, [], c⟩ := by
  simp only [call, plan, h]

theorem call_of_failed {e : Error} (hkind : method.Takes q.kind)
    (h : (c.compile resolver q).1 = .error e) :
    call c resolver transport method q = ⟨.error e, [], (c.compile resolver q).2⟩ := by
  have hcompile : c.compile resolver q = (.error e, (c.compile resolver q).2) := Prod.ext h rfl
  simp only [call, plan, checkKind_eq_ok_iff.mpr hkind]
  rw [hcompile]

/-- What compiles is performed as the job that it makes. -/
theorem call_of_compiled {sql : String} {job : Job} {after : Compiler}
    (hkind : method.Takes q.kind) (h : (c.compile resolver q).1 = .ok sql)
    (hjob : jobOf (c.compile resolver q).2 resolver q sql = (.ok job, after)) :
    call c resolver transport method q = ⟨job.perform transport, [job.command], after⟩ := by
  have hcompile : c.compile resolver q = (.ok sql, (c.compile resolver q).2) := Prod.ext h rfl
  have hplan : plan c resolver method q = jobOf (c.compile resolver q).2 resolver q sql := by
    simp only [plan, checkKind_eq_ok_iff.mpr hkind]
    rw [hcompile]
  simp only [call, hplan, hjob]

theorem answered_call (c : Compiler) (r : Request) :
    r.Answered c (call c r.resolver r.transport r.method r.query) where
  read_refused hmethod hkind := call_of_refused (by simp only [checkKind, hmethod, if_neg hkind])
  write_refused hmethod hkind := call_of_refused (by simp only [checkKind, hmethod, if_pos hkind])
  failed hkind _ h := call_of_failed hkind h
  executed htakes sql h hkind := by
    have hjob : jobOf (r.compiled c).2 r.resolver r.query sql =
        (.ok (.execute sql), (r.compiled c).2) := by
      simp only [jobOf, if_neg hkind]
    rw [call_of_compiled htakes h hjob]
    simp only [Job.perform, Job.command]
    cases r.transport.execute sql <;> rfl
  fetched htakes sql h hkind := by
    obtain ⟨model, entry, hmodel, hfind, hschema⟩ := Compiler.exists_entry_of_compile hkind h
    have hlater := Compiler.schemaFor_of_find? hfind
    have hjob : jobOf (r.compiled c).2 r.resolver r.query sql =
        (.ok (.fetch sql entry.schema), (r.compiled c).2) := by
      simp only [jobOf, if_pos hkind, hmodel]
      rw [Request.compiled, hlater r.resolver]
      rfl
    exact ⟨model, entry, hmodel, hfind, hschema, hlater, call_of_compiled htakes h hjob⟩

/-! ## Series of requests -/

theorem call_run : call c resolver transport .run q =
    call c resolver transport (if q.kind = .read then .read else .write) q := by
  have hcheck : checkKind .run q.kind =
      checkKind (if q.kind = .read then .read else .write) q.kind := by
    by_cases h : q.kind = .read <;> simp [checkKind, h]
  simp only [call, plan, hcheck]

/-- A data source sends what compiles, and sends it once.  In any series of requests,
with resolvers and databases that may change from one to the next, every request is
answered by the compiler that the requests before it have left, and the method that
takes every query is the one that takes its kind. -/
theorem transcript_exchanges (c : Compiler) (requests : List Request) :
    Transcript c requests (exchanges c requests) ∧
    ∀ (before : Compiler) (resolver : Resolver) (transport : Transport) (q : Query),
      call before resolver transport .run q =
        call before resolver transport (if q.kind = .read then .read else .write) q := by
  refine ⟨?_, fun before resolver transport q => call_run⟩
  induction requests generalizing c with
  | nil => exact .nil
  | cons r rs ih => exact .cons (answered_call c r) (ih _)

end DataSource

end RelQuery
