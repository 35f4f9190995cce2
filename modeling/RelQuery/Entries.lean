/-!
# Entries in insertion order

An object of a document, the fields of a schema and the payload of a query are
lists of entries, a key and a value each.  The order is the order of first
insertion.

* `put` overwrites the value of a key where the key stands, or appends.
* `settle` puts the entries one after another, so a repeated key keeps its
  first position and its last value.
-/

namespace RelQuery

/-- Keys with values, in insertion order. -/
abbrev Entries (α : Type) := List (String × α)

namespace Entries

variable {α β : Type}

/-- The value of a key. -/
def find? (key : String) : Entries α → Option α
  | [] => none
  | (k, v) :: rest => if k = key then some v else find? key rest

/-- The keys, in order. -/
def keys (entries : Entries α) : List String := entries.map Prod.fst

/-- The entries with the value of one key set. -/
def put (key : String) (value : α) : Entries α → Entries α
  | [] => [(key, value)]
  | (k, v) :: rest => if k = key then (k, value) :: rest else (k, v) :: put key value rest

/-- The entries put into `settled` one after another. -/
def putAll (settled : Entries α) : Entries α → Entries α
  | [] => settled
  | (k, v) :: rest => putAll (put k v settled) rest

/-- The entries with every key once. -/
def settle (entries : Entries α) : Entries α := putAll [] entries

/-! ## Laws -/

/-- A key has the value that was put last. -/
theorem find?_put (key key' : String) (value : α) (entries : Entries α) :
    find? key (put key' value entries) = if key' = key then some value else find? key entries := by
  induction entries with
  | nil => simp [put, find?]
  | cons e rest ih =>
    obtain ⟨k, v⟩ := e
    by_cases h : k = key'
    · subst h
      by_cases hk : k = key <;> simp [put, find?, hk]
    · by_cases hk : k = key
      · subst hk
        simp [put, find?, h, Ne.symm h]
      · simp [put, find?, h, hk, ih]

/-- The value of a key in two lists of entries is that in the first, if it has one. -/
theorem find?_append (key : String) (entries others : Entries α) :
    find? key (entries ++ others) = (find? key entries).or (find? key others) := by
  induction entries with
  | nil => rfl
  | cons e rest ih =>
    obtain ⟨k, v⟩ := e
    by_cases h : k = key <;> simp [find?, h, ih]

theorem find?_map (f : α → β) (key : String) (entries : Entries α) :
    find? key (entries.map fun e => (e.1, f e.2)) = (find? key entries).map f := by
  induction entries with
  | nil => rfl
  | cons e rest ih =>
    obtain ⟨k, v⟩ := e
    by_cases h : k = key <;> simp [find?, h, ih]

/-! ## Checks -/

example : settle [("a", 1), ("b", 2), ("a", 3)] = [("a", 3), ("b", 2)] := by decide

end Entries

end RelQuery
