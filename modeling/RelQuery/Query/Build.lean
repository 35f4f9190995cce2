import RelQuery.Query.Basic

/-!
# Building queries

Queries made in code, one step at a time.  `setFields` and `setConditions`
replace what was there.  `addJoin`, `addOrder` and `set` add to it, and `set`
keeps the position of a field that is already written.
-/

namespace RelQuery.Query

/-! ## A query on a model -/

/-- A query of a kind on a model. -/
def on (kind : Kind) (model : Entity) : Query := { kind := kind, model := some model }

/-- A query to be joined on a constraint. -/
def joinOn (model : Entity) (constraint : String) : Query :=
  { on .read model with constraint := some constraint }

/-! ## Steps -/

/-- The query that selects these fields. -/
def setFields (q : Query) (fields : List String) : Query := { q with fields := fields }

/-- The query for the rows that a condition admits. -/
def setConditions (q : Query) (conditions : Condition) : Query :=
  { q with conditions := some conditions }

/-- The query with a join after its others. -/
def addJoin (q join : Query) : Query := { q with joins := q.joins ++ [join] }

/-- The query joined in a way of its own. -/
def setJoinKind (q : Query) (kind : JoinKind) : Query := { q with joinKind := some kind }

/-- The query for a number of rows at most. -/
def setLimit (q : Query) (n : UInt32) : Query := { q with limit := some n }

/-- The query after a number of rows. -/
def setOffset (q : Query) (n : UInt32) : Query := { q with offset := some n }

/-- The query with an order term after its others. -/
def addOrder (q : Query) (term : OrderTerm) : Query := { q with order := q.order ++ [term] }

/-- The query with one field of its payload written. -/
def set (q : Query) (field : String) (value : Value) : Query :=
  { q with payload := some (Entries.put field value (q.payload.getD [])) }

end RelQuery.Query
