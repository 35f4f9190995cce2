import RelQuery.Query.Basic
import RelQuery.Schema.Basic

/-!
# The registry of models

A registry holds the definitions of models: the table behind each, its primary
key and its fields.  It serves two ends.

* It is a resolver.  A model that is not registered has no fields.
* It *binds* the models of a query.  A model that is given by its bare name,
  which is to say that its table has the name of the model, takes the table and
  key of its definition.  Binding reaches the query itself, its joins, and the
  queries that tests compare with.  It does not look into lists or payloads.
-/

namespace RelQuery

/-! ## Definitions -/

/-- The definition of a model. -/
structure ModelDef where
  /-- The table.  Without one, the table has the name of the model. -/
  source : Option String := none
  /-- The primary key.  Without one, it is `id`. -/
  key : Option String := none
  /-- The fields with their types. -/
  fields : Entries TypeTag := []
  deriving DecidableEq, Repr

/-- Definitions of models by their names. -/
structure Registry where
  /-- The definitions, in order. -/
  models : Entries ModelDef := []
  deriving DecidableEq, Repr

namespace Registry

/-- The registry with one more model on a table. -/
def addModel (registry : Registry) (name source : String) (fields : List (String × TypeTag)) :
    Registry :=
  ⟨Entries.put name ⟨some source, none, Entries.settle fields⟩ registry.models⟩

/-- A registered model with its table and key. -/
def entity? (registry : Registry) (name : String) : Option Entity :=
  (Entries.find? name registry.models).map fun m => Entity.ofParts name m.source m.key

/-- The fields of a model, in order. -/
def fieldsOf (registry : Registry) (model : String) : List String :=
  ((Entries.find? model registry.models).map fun m => Entries.keys m.fields).getD []

/-- The type of a field of a model. -/
def typeOf (registry : Registry) (model field : String) : TypeTag :=
  ((Entries.find? model registry.models).bind fun m => Entries.find? field m.fields).getD .untyped

/-- The registry as a source of schemas, which never fails. -/
def resolver (registry : Registry) : Resolver where
  fieldsFor model := .ok (registry.fieldsOf model)
  typeOf model field := .ok (registry.typeOf model field)

/-! ## Binding -/

/-- A model with the table and key of its definition, if it is given by its bare
name and registered. -/
def bindEntity (registry : Registry) (model : Entity) : Entity :=
  if model.source = model.name then (registry.entity? model.name).getD model else model

mutual

/-- The query with its models bound. -/
def bind (registry : Registry) : Query → Query
  | ⟨kind, model, fields, conditions, joins, constraint, joinKind, limit, offset, order, payload⟩ =>
    ⟨kind, model.map registry.bindEntity, fields, bindOptional registry conditions,
      bindJoins registry joins, constraint, joinKind, limit, offset, order, payload⟩

/-- The joins with their models bound. -/
def bindJoins (registry : Registry) : List Query → List Query
  | [] => []
  | q :: qs => bind registry q :: bindJoins registry qs

/-- The condition of a query, if it has one, with its models bound. -/
def bindOptional (registry : Registry) : Option Condition → Option Condition
  | none => none
  | some c => some (bindCondition registry c)

/-- The condition with the models of its queries bound. -/
def bindCondition (registry : Registry) : Condition → Condition
  | .leaf field op value => .leaf field op (bindValue registry value)
  | .group connective members => .group connective (bindMembers registry members)
  | .raw sql => .raw sql

/-- The members of a group with the models of their queries bound. -/
def bindMembers (registry : Registry) : List Condition → List Condition
  | [] => []
  | c :: cs => bindCondition registry c :: bindMembers registry cs

/-- The value of a test, bound if it is a query. -/
def bindValue (registry : Registry) : Value → Value
  | .query q => .query (bind registry q)
  | value => value

end

end Registry

end RelQuery
