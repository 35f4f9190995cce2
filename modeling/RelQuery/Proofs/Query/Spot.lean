import RelQuery.Sql.Clause

/-!
# Spots of scalars

A *spot* is a query with one scalar taken out: the value of a test, an element
of a list, or the value of a field of the payload, at any depth of groups, lists,
joins and inner queries.  Filling the spot with a value gives a query.

The types of values, conditions and queries are mutual, so their spots are too.
A spot holds everything around the scalar.  The types of fields at the spot are
those of the query that is nearest around it (`Query.Spot.tag`).

What is filled in changes no clause but those that write values: a condition
with a spot is never blank (`Condition.Spot.isBlank_fill`), and a spot inside a
join does not show in the clause of the join (`Query.Spot.joined_fill`).
-/

namespace RelQuery

/-! ## Spots -/

mutual

/-- A value with one scalar taken out. -/
inductive Value.Spot where
  /-- The scalar itself. -/
  | here
  /-- An element of a list. -/
  | item (before : List Value) (spot : Value.Spot) (after : List Value)
  /-- A query. -/
  | query (spot : Query.Spot)

/-- A condition with one scalar taken out. -/
inductive Condition.Spot where
  /-- The value of a test. -/
  | leaf (field : String) (op : Operator) (spot : Value.Spot)
  /-- A member of a group. -/
  | member (connective : Connective) (before : List Condition) (spot : Condition.Spot)
      (after : List Condition)

/-- A query with one scalar taken out. -/
inductive Query.Spot where
  /-- In the condition.  The rest is that of `q`. -/
  | condition (q : Query) (spot : Condition.Spot)
  /-- In the payload.  The rest is that of `q`. -/
  | payload (q : Query) (before : Entries Value) (field : String) (spot : Value.Spot)
      (after : Entries Value)
  /-- In a join.  The rest is that of `q`. -/
  | join (q : Query) (before : List Query) (spot : Query.Spot) (after : List Query)

end

mutual

/-- The value with the scalar put back. -/
def Value.Spot.fill (v : Value) : Value.Spot → Value
  | .here => v
  | .item before spot after => .list (before ++ spot.fill v :: after)
  | .query spot => .query (spot.fill v)

/-- The condition with the scalar put back. -/
def Condition.Spot.fill (v : Value) : Condition.Spot → Condition
  | .leaf field op spot => .leaf field op (spot.fill v)
  | .member connective before spot after => .group connective (before ++ spot.fill v :: after)

/-- The query with the scalar put back. -/
def Query.Spot.fill (v : Value) : Query.Spot → Query
  | .condition q spot => { q with conditions := some (spot.fill v) }
  | .payload q before field spot after =>
    { q with payload := some (before ++ (field, spot.fill v) :: after) }
  | .join q before spot after => { q with joins := before ++ spot.fill v :: after }

end

/-- The query around a spot, with anything in the part that holds the spot. -/
def Query.Spot.around : Query.Spot → Query
  | .condition q _ => q
  | .payload q .. => q
  | .join q .. => q

theorem Query.Spot.kind_fill (v : Value) (spot : Query.Spot) :
    (spot.fill v).kind = spot.around.kind := by
  cases spot <;> rfl

theorem Query.Spot.model_fill (v : Value) (spot : Query.Spot) :
    (spot.fill v).model = spot.around.model := by
  cases spot <;> rfl

/-! ## Types -/

/-- The type of a field of a model, untyped where there is no schema. -/
def Context.typeOf (ctx : Context) (model : Option Entity) (field : String) : TypeTag :=
  match model with
  | none => .untyped
  | some model =>
    match ctx.schemas model.name with
    | .ok schema => Target.typeOf ⟨model, schema⟩ field
    | .error _ => .untyped

mutual

/-- The type that a scalar has at the spot, in a field of a type. -/
def Value.Spot.tag (ctx : Context) (tag : TypeTag) : Value.Spot → TypeTag
  | .here => tag
  | .item _ spot _ => spot.tag ctx tag
  | .query spot => spot.tag ctx

/-- The type that a scalar has at the spot, where fields have given types. -/
def Condition.Spot.tag (ctx : Context) (typeOf : String → TypeTag) : Condition.Spot → TypeTag
  | .leaf field _ spot => spot.tag ctx (typeOf field)
  | .member _ _ spot _ => spot.tag ctx typeOf

/-- The type that a scalar has at the spot. -/
def Query.Spot.tag (ctx : Context) : Query.Spot → TypeTag
  | .condition q spot => spot.tag ctx (ctx.typeOf q.model)
  | .payload q _ field spot _ => spot.tag ctx (ctx.typeOf q.model field)
  | .join _ _ spot _ => spot.tag ctx

end

/-- The types of fields are those of the target. -/
theorem Context.typeOf_eq {ctx : Context} {kind : Kind} {model : Option Entity} {t : Target}
    (h : (ctx.target kind model).outcome = .ok t) : ctx.typeOf model = t.typeOf := by
  funext field
  cases model with
  | none => cases h
  | some model =>
    rw [target, Lookups.outcome_bind, Lookups.outcome_schemaOf] at h
    rw [typeOf]
    cases hschema : ctx.schemas model.name with
    | error e =>
      rw [hschema] at h
      cases h
    | ok schema =>
      rw [hschema] at h
      cases h
      rfl

/-! ## What does not depend on the scalar -/

theorem Condition.allBlank_append (cs ds : List Condition) :
    allBlank (cs ++ ds) = (allBlank cs && allBlank ds) := by
  induction cs with
  | nil => rfl
  | cons c cs ih => rw [List.cons_append, allBlank, allBlank, ih, Bool.and_assoc]

/-- A condition with a spot holds a test. -/
theorem Condition.Spot.isBlank_fill (v : Value) :
    ∀ spot : Condition.Spot, (spot.fill v).isBlank = false
  | .leaf field op spot => rfl
  | .member connective before spot after => by
    rw [fill, Condition.isBlank, Condition.allBlank_append, Condition.allBlank,
      isBlank_fill v spot]
    simp

/-- What the clauses of a join depend on. -/
theorem Clause.joined_congr {ctx : Context} {depth : Nat} {q r : Query} (hmodel : q.model = r.model)
    (hconstraint : q.constraint = r.constraint) (hkind : q.joinKind = r.joinKind)
    (hjoins : joins ctx (depth + 1) q.joins = joins ctx (depth + 1) r.joins) :
    joined ctx depth q = joined ctx depth r := by
  cases q
  cases r
  simp only at hmodel hconstraint hkind hjoins
  subst hmodel hconstraint hkind
  rw [joined.eq_def, joined.eq_def]
  simp only [hjoins]

/-- Joins are written alike when one of them changes to a join that is written
like it. -/
theorem Clause.joins_congr {ctx : Context} {depth : Nat} {q r : Query}
    (h : joined ctx depth q = joined ctx depth r) (before after : List Query) :
    joins ctx depth (before ++ q :: after) = joins ctx depth (before ++ r :: after) := by
  induction before with
  | nil => rw [List.nil_append, List.nil_append, joins, joins, h]
  | cons b before ih => rw [List.cons_append, List.cons_append, joins, joins, ih]

/-- The clause of a join holds no value. -/
theorem Query.Spot.joined_fill (ctx : Context) (v w : Value) : ∀ (spot : Query.Spot) (depth : Nat),
    Clause.joined ctx depth (spot.fill v) = Clause.joined ctx depth (spot.fill w)
  | .condition .., _ => Clause.joined_congr rfl rfl rfl rfl
  | .payload .., _ => Clause.joined_congr rfl rfl rfl rfl
  | .join _ before spot after, depth =>
    Clause.joined_congr rfl rfl rfl
      (Clause.joins_congr (joined_fill ctx v w spot (depth + 1)) before after)

end RelQuery
