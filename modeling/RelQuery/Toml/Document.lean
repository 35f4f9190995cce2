import RelQuery.Json.Outline
import RelQuery.Toml.Line

/-!
# TOML documents

A document is read line by line.  Every header names the table that the entries
after it belong to, and the entries before the first header belong to the
document itself.
-/

namespace RelQuery.Toml

/-! ## From lines to a table -/

/-- A document that is being read. -/
structure Draft where
  /-- What has been read. -/
  root : Entries Toml := []
  /-- The path of the table that the last header opened. -/
  place : List String := []

/-- The draft after a line, if the line may stand there. -/
def Draft.add (d : Draft) : Line → Option Draft
  | .table path key => do
    let root ← change .passage (fun _ => openTable key) .header d.root path
    some ⟨root, path ++ [key]⟩
  | .item path key => do
    let root ← change .passage (fun _ => openItem key) .header d.root path
    some ⟨root, path ++ [key]⟩
  | .entry path key value => do
    let root ← change .passage (fun o t => assignAt o t path key value) .header d.root d.place
    some ⟨root, d.place⟩

/-- The characters without a byte order mark at the start. -/
def dropMark : List Char → List Char
  | '\ufeff' :: cs => cs
  | cs => cs

/-- The table of a text. -/
def ofText? (text : String) : Option (Entries Toml) := do
  let cs := dropMark text.toList
  let lines ← readLines (cs.length + 1) cs
  let draft ← lines.foldlM Draft.add {}
  some draft.root

/-! ## Outlines -/

/-- The key under which a date or time stands where a table is due. -/
def momentKey : String := "$__toml_private_datetime"

open Json (Outline)

mutual

/-- A value as an outline.  A number that JSON does not have keeps its place, and
a date or time is an object with one entry. -/
def outline : Toml → Outline
  | string s => .string (some s)
  | integer n => .number (some (.ofInt64 n))
  | float x => .number (Json.Number.ofBinary64? false x)
  | bool b => .bool b
  | moment text => .object [(some momentKey, .string (some text))]
  | array items => .array (outlines items)
  | inline entries => .object (outlineEntries entries)
  | table _ entries => .object (outlineEntries entries)
  | tables earlier last => .array (outlineTables earlier ++ [.object (outlineEntries last)])

/-- The outlines of several values. -/
def outlines : List Toml → List Outline
  | [] => []
  | item :: items => outline item :: outlines items

/-- The outlines of entries. -/
def outlineEntries : List (String × Toml) → List (Option String × Outline)
  | [] => []
  | (key, value) :: entries => (some key, outline value) :: outlineEntries entries

/-- The outlines of several tables. -/
def outlineTables : List (List (String × Toml)) → List Outline
  | [] => []
  | entries :: rest => .object (outlineEntries entries) :: outlineTables rest

end

/-! ## Checks -/

/-- The keys of the document of a text. -/
def keysOf? (text : String) : Option (List String) := (ofText? text).map Entries.keys

example : keysOf? "b = 1 # c\n\r\n[a.c]\n[d]\n[a]\nx.y = \"z\"\nx.w = [1,\n 2,]\n" =
    some ["b", "d", "a"] := by
  decide +kernel

example : keysOf? "[a]\n[a]" = none ∧ keysOf? "a = 1\na = 2" = none ∧
    keysOf? "a = 1 b = 2" = none := by
  decide +kernel

example : keysOf? "[[a]]\n[[a]]\n[a.b]\n[[a]]\n[a.b]" = some ["a"] ∧
    keysOf? "[a]\n[[a]]" = none := by
  decide +kernel

example : keysOf? "a.b = 1\n[a]" = none ∧ keysOf? "a = \x7bb = 1\x7d\n[a.c]" = none := by
  decide +kernel

end RelQuery.Toml
