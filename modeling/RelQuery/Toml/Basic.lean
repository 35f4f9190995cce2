import RelQuery.Binary64.Basic
import RelQuery.Entries

/-!
# TOML tables

A TOML document is a table.  It is written as lines, and each line adds to the
table: a header opens a table or one more table of an array, and an entry gives
a key its value.  What a line may add to depends on how a table came about.

* A table with a header of its own takes entries under that header only, and has
  one header.  A dotted key passes it only where it is the last of an array.
* A table that only stands on the way of a header to another may still get a
  header of its own.  It then moves behind its neighbours.
* A table made by a dotted key takes entries by dotted keys only.
* A table written in braces takes nothing.

The document is refused when a line adds where it may not, or gives a key a
second value.  Entries keep the order of their lines.
-/

namespace RelQuery

/-! ## Values -/

/-- How a table came about. -/
inductive Toml.Origin where
  /-- It has a header of its own, or is the document. -/
  | header
  /-- It stands on the way of a header to another table. -/
  | passage
  /-- A dotted key made it. -/
  | dotted
  deriving DecidableEq, Repr

/-- A TOML value. -/
inductive Toml where
  /-- A string. -/
  | string (s : String)
  /-- A whole number. -/
  | integer (n : Int64)
  /-- A number with places. -/
  | float (x : Binary64)
  /-- A truth value. -/
  | bool (b : Bool)
  /-- A date, a time or both, as it is written. -/
  | moment (text : String)
  /-- An array. -/
  | array (items : List Toml)
  /-- A table in braces. -/
  | inline (entries : List (String × Toml))
  /-- A table that lines add to. -/
  | table (origin : Toml.Origin) (entries : List (String × Toml))
  /-- An array of tables with headers, the last one apart. -/
  | tables (earlier : List (List (String × Toml))) (last : List (String × Toml))

namespace Toml

/-! ## Reaching a table -/

/-- Whether a table that stands alone in the way of a key may be passed.  A dotted
key does not pass a table with a header. -/
def passes (way stands : Origin) : Bool := decide ¬(way = .dotted ∧ stands = .header)

/-- The entries of a table after a change to the table at a path.  A table that
is missing on the way is made as `way` says, and of an array of tables the last
one is meant. -/
def change (way : Origin) (f : Origin → Entries Toml → Option (Entries Toml)) (origin : Origin)
    (entries : Entries Toml) : List String → Option (Entries Toml)
  | [] => f origin entries
  | key :: path =>
    match Entries.find? key entries with
    | none => (change way f way [] path).map fun below => Entries.put key (.table way below) entries
    | some (.table stands below) =>
      if passes way stands then
        (change way f stands below path).map fun below =>
          Entries.put key (.table stands below) entries
      else none
    | some (.tables earlier last) =>
      (change way f .header last path).map fun last =>
        Entries.put key (.tables earlier last) entries
    | some _ => none

/-! ## What lines add -/

/-- The entries with a table that a header opens. -/
def openTable (key : String) (entries : Entries Toml) : Option (Entries Toml) :=
  match Entries.find? key entries with
  | none => some (entries ++ [(key, .table .header [])])
  | some (.table .passage below) =>
    some (entries.filter (fun e => e.1 != key) ++ [(key, .table .header below)])
  | some _ => none

/-- The entries with one more table in the array of a key. -/
def openItem (key : String) (entries : Entries Toml) : Option (Entries Toml) :=
  match Entries.find? key entries with
  | none => some (entries ++ [(key, .tables [] [])])
  | some (.tables earlier last) => some (Entries.put key (.tables (earlier ++ [last]) []) entries)
  | some _ => none

/-- The entries with a key that has no value yet.  A dotted key writes into a
table that dotted keys made, and a plain key into any other. -/
def assign (dotted : Bool) (key : String) (value : Toml) (origin : Origin)
    (entries : Entries Toml) : Option (Entries Toml) :=
  if decide (origin = .dotted) = dotted ∧ (Entries.find? key entries).isNone then
    some (entries ++ [(key, value)])
  else none

/-- The entries of a table with the value of a key, which may be dotted. -/
def assignAt (origin : Origin) (entries : Entries Toml) (path : List String) (key : String)
    (value : Toml) : Option (Entries Toml) :=
  change .dotted (assign (!path.isEmpty) key value) origin entries path

/-! ## Checks -/

example : (openTable "a" [("a", .table .passage []), ("b", .bool true)]).map Entries.keys =
    some ["b", "a"] := by
  decide +kernel

example : ((assignAt .header [] ["a"] "x" (.bool true)).bind fun es =>
    assignAt .header es ["a"] "y" (.bool true)).isSome = true := by
  decide +kernel

example : (assignAt .header [("b", .tables [] [])] ["b", "c"] "x" (.bool true)).isSome = true := by
  decide +kernel

example : (assignAt .header [("b", .tables [] [])] ["b"] "x" (.bool true)).isNone = true := by
  decide +kernel

example : ((openTable "a" []).bind (openTable "a")).isNone = true := by decide +kernel

end Toml

end RelQuery
