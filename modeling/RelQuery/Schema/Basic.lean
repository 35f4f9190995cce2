import RelQuery.Entries
import RelQuery.Error

/-!
# Schemas

A schema is what is declared about one model: its fields in order, each with
its type.  A field that is not declared is untyped.

Schemas come from a *resolver*, which answers two questions: which fields a
model has, and which type a field has.  Either may fail.  `Schema.resolve` asks
the first once and the second for every field, in order, and stops at the first
failure.
-/

namespace RelQuery

/-! ## The fields of a model -/

/-- The declared fields of a model with their types, in order. -/
structure Schema where
  /-- The fields. -/
  fields : Entries TypeTag := []
  deriving DecidableEq, Repr

namespace Schema

/-- Whether a field is declared. -/
def contains (schema : Schema) (field : String) : Bool := (Entries.find? field schema.fields).isSome

/-- The type of a field. -/
def typeOf (schema : Schema) (field : String) : TypeTag :=
  (Entries.find? field schema.fields).getD .untyped

/-- The names of the declared fields, in order. -/
def fieldNames (schema : Schema) : List String := Entries.keys schema.fields

/-- Whether no field is declared. -/
def isEmpty (schema : Schema) : Bool := schema.fields.isEmpty

/-- The schema of pairs of a field and its type.  A field that is repeated keeps
its first position and its last type. -/
def ofList (fields : List (String × TypeTag)) : Schema := ⟨Entries.settle fields⟩

end Schema

/-! ## Resolvers -/

/-- A source of schemas. -/
structure Resolver where
  /-- The fields of a model, in order. -/
  fieldsFor : String → Except Error (List String)
  /-- The type of a field of a model. -/
  typeOf : String → String → Except Error TypeTag

namespace Schema

/-- The types of some fields, added to those that are known. -/
def resolveFields (resolver : Resolver) (model : String) (known : Entries TypeTag) :
    List String → Except Error (Entries TypeTag)
  | [] => .ok known
  | field :: fields => do
    let tag ← resolver.typeOf model field
    resolveFields resolver model (Entries.put field tag known) fields

/-- The schema of a model. -/
def resolve (resolver : Resolver) (model : String) : Except Error Schema := do
  let fields ← resolver.fieldsFor model
  let typed ← resolveFields resolver model [] fields
  return ⟨typed⟩

end Schema

end RelQuery
