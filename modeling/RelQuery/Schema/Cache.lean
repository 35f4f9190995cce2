import RelQuery.Schema.Basic

/-!
# The schema cache

A cache keeps the schemas that a resolver has answered.  Looking up a model
takes at most two steps.

* `find?` answers from the entries and changes nothing.
* `fill` looks again, and on a miss asks the resolver.  An answer is kept and a
  failure is not, so the next look-up asks again.

`clear` forgets the entries.  The cache counts how often it has asked, and every
entry bears the number of the question that it answers, so two look-ups that
give one number give one entry.
-/

namespace RelQuery

/-- A schema that has been resolved. -/
structure CachedSchema where
  /-- The schema. -/
  schema : Schema
  /-- The number of the question it answers. -/
  serial : Nat
  deriving DecidableEq, Repr

/-- The schemas that have been resolved, by the names of their models. -/
structure SchemaCache where
  /-- The entries. -/
  entries : Entries CachedSchema := []
  /-- How often the resolver has been asked. -/
  asked : Nat := 0
  deriving DecidableEq, Repr

namespace SchemaCache

/-! ## Steps -/

/-- The entry of a model, if there is one. -/
def find? (cache : SchemaCache) (model : String) : Option CachedSchema :=
  Entries.find? model cache.entries

/-- The entry of a model, asking the resolver if there is none. -/
def fill (resolver : Resolver) (cache : SchemaCache) (model : String) :
    Except Error CachedSchema × SchemaCache :=
  match cache.find? model with
  | some entry => (.ok entry, cache)
  | none =>
    match Schema.resolve resolver model with
    | .ok schema =>
      let entry : CachedSchema := ⟨schema, cache.asked⟩
      (.ok entry, ⟨Entries.put model entry cache.entries, cache.asked + 1⟩)
    | .error e => (.error e, { cache with asked := cache.asked + 1 })

/-- The cache without its entries. -/
def clear (cache : SchemaCache) : SchemaCache := { cache with entries := [] }

/-! ## Look-ups -/

/-- The entry of a model: from the entries, or else by a question. -/
def lookUp (resolver : Resolver) (cache : SchemaCache) (model : String) :
    Except Error CachedSchema × SchemaCache :=
  match cache.find? model with
  | some entry => (.ok entry, cache)
  | none => cache.fill resolver model

/-- The schema of a model as the cache would answer now. -/
def schemaFor (resolver : Resolver) (cache : SchemaCache) (model : String) : Except Error Schema :=
  (cache.lookUp resolver model).1.map CachedSchema.schema

/-- The cache after look-ups of several models. -/
def lookUpAll (resolver : Resolver) (cache : SchemaCache) : List String → SchemaCache
  | [] => cache
  | model :: models => lookUpAll resolver (cache.lookUp resolver model).2 models

/-- How many entries there are. -/
def size (cache : SchemaCache) : Nat := cache.entries.length

end SchemaCache

end RelQuery
