import RelQuery.Error
import RelQuery.Schema.Registry
import RelQuery.Toml.Document

/-!
# Schema files

A registry is written as a JSON or a TOML document: an object with the entry
`models`, in which every entry is the definition of a model.  A definition is an
object with the entries `source`, `key` and `fields`, and the last is an object
with the type of each field.

* Every entry may be left out.  A definition has no source and no key, too,
  where these are null.
* An object of this list of keys may be an array of its values in that order.
  More values than keys are a fault in JSON and are skipped in TOML.
* Other entries are skipped.  A key of the list may stand only once, while a
  model or a field that is repeated keeps its first position and last value.
-/

namespace RelQuery

open Json (Outline)

/-! ## Objects with given keys -/

/-- Whether an entry is well formed as far as it can be told without knowing
what is in the values of the given keys. -/
def admitsEntry (keys : List String) : Option String × Outline → Bool
  | (none, _) => false
  | (some key, value) => keys.contains key || value.isClosed

/-- The value of a key that stands at most once: `none` when it is repeated. -/
def onlyValue? (entries : List (Option String × Outline)) (key : String) :
    Option (Option Outline) :=
  match entries.filter fun e => e.1 == some key with
  | [] => some none
  | [(_, value)] => some (some value)
  | _ => none

/-- The values of some keys, from an object or from an array of the values. -/
def valuesOf? (surplus : Bool) (keys : List String) : Outline → Option (List (Option Outline))
  | .object entries =>
    if entries.all (admitsEntry keys) then keys.mapM (onlyValue? entries) else none
  | .array items =>
    if items.length ≤ keys.length ∨ surplus = true then
      some ((List.range keys.length).map fun i => items[i]?)
    else none
  | _ => none

/-- The entries of an object, each value read by a reader, with every key once. -/
def entriesOf? {α : Type} (read : Outline → Option α) : Option Outline → Option (Entries α)
  | none => some []
  | some (.object entries) => (entries.mapM entryOf?).map Entries.settle
  | some _ => none
where
  /-- A key with the value that is read. -/
  entryOf? (entry : Option String × Outline) : Option (String × α) := do
    return (← entry.1, ← read entry.2)

/-- A text that may be left out or null. -/
def textOf? : Option Outline → Option (Option String)
  | none => some none
  | some .null => some none
  | some (.string (some s)) => some (some s)
  | some _ => none

/-- The type that a value names. -/
def TypeTag.ofOutline? : Outline → Option TypeTag
  | .string (some s) => some (TypeTag.ofName s)
  | _ => none

/-! ## Definitions and registries -/

/-- The definition of a model. -/
def ModelDef.ofOutline? (surplus : Bool) (value : Outline) : Option ModelDef := do
  match ← valuesOf? surplus ["source", "key", "fields"] value with
  | [source, key, fields] =>
    return ⟨← textOf? source, ← textOf? key, ← entriesOf? TypeTag.ofOutline? fields⟩
  | _ => none

namespace Registry

/-- The registry of a document. -/
def ofOutline? (surplus : Bool) (value : Outline) : Option Registry := do
  match ← valuesOf? surplus ["models"] value with
  | [models] => return ⟨← entriesOf? (ModelDef.ofOutline? surplus) models⟩
  | _ => none

/-- The registry, or the failure of a text that is none. -/
def orUnreadable : Option Registry → Except Error Registry
  | some registry => .ok registry
  | none => .error .schemaUnreadable

/-- The registry of a JSON text. -/
def ofJson (text : String) : Except Error Registry :=
  orUnreadable (ofOutline? false (Outline.ofWholeText text))

/-- The registry of a TOML text. -/
def ofToml (text : String) : Except Error Registry :=
  orUnreadable do ofOutline? true (.object (Toml.outlineEntries (← Toml.ofText? text)))

/-! ## Checks -/

/-- The registry of both forms of a text. -/
def both (json toml : String) : Option Registry × Option Registry :=
  ((ofJson json).toOption, (ofToml toml).toOption)

example :
    both "\x7b\"models\": \x7b\"A\": [\"s\", null, \x7b\"x\": \"int\"\x7d]\x7d\x7d"
      "models.A.source = \"s\"" =
    (some ⟨[("A", ⟨some "s", none, [("x", .integer)]⟩)]⟩,
      some ⟨[("A", ⟨some "s", none, []⟩)]⟩) := by
  decide +kernel

example : both "\x7b\"models\": null\x7d" "[models.A]\nfields = []" = (none, none) := by
  decide +kernel

example : both "[\x7b\x7d, 1]" "[models]\nA = [\"s\", \"k\", \x7b\x7d, 1]" =
    (none, some ⟨[("A", ⟨some "s", some "k", []⟩)]⟩) := by
  decide +kernel

end Registry

end RelQuery
