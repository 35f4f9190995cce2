import RelQuery.Proofs.Query.Inner
import RelQuery.Proofs.Text.Case

/-!
# The two forms of a group

What stands under a connective is an object or an array.  An object has its members in
its entries.  An array has them in its items, and an item that is an object is a member
by its entries: a single condition stands for itself, several are a conjunction, and none
is no member.

So an object may be written as the array of its entries, each an object of its own.  An
item with one entry makes the member that the entry makes, whether that is a test, a
group, a conjunction of operators or nothing, and it fails as the entry fails
(`Condition.memberOf_singleton`).  Both forms read the entries in the same order, so they
give the same condition or stop at the same entry (`ofJson_object_eq_listed`).
-/

namespace RelQuery

/-- The entries of an object as an array, with an object for each. -/
def Json.listed (entries : List (String × Json)) : Json :=
  .array (entries.map fun entry => .object [entry])

namespace Condition

/-- An item with one entry makes the member that the entry makes. -/
theorem memberOf_singleton (key : String) (entry : String × Json) :
    memberOf key (.object [entry]) = (ofEntry entry.1 entry.2).map Option.toList := by
  rw [memberOf, listOfEntries_cons]
  cases ofEntry entry.1 entry.2 with
  | error e => rfl
  | ok c => cases c <;> rfl

/-- Objects of one entry each are read like one object of all the entries. -/
theorem membersOf_singletons (key : String) (entries : List (String × Json)) :
    membersOf key (entries.map fun entry => .object [entry]) = listOfEntries entries := by
  induction entries with
  | nil => rfl
  | cons entry entries ih =>
    rw [List.map_cons, membersOf, memberOf_singleton, listOfEntries_cons, ih]
    cases ofEntry entry.1 entry.2 <;> rfl

/-- Under a key in any case of a connective, an object is read like its entries in an
array. -/
theorem ofEntry_listed {connective : Connective} {key : String}
    (hkey : Text.IsAnyCaseOf connective.keyword key) (entries : List (String × Json)) :
    ofEntry key (Json.listed entries) = ofEntry key (.object entries) := by
  simp only [ofEntry, Connective.ofKey?_eq_some_iff.mpr hkey, ofGroup, Json.listed,
    membersOf_singletons]

/-- Entries are read alike if they differ in one that is read alike. -/
theorem listOfEntries_congr {key : String} {value value' : Json}
    (h : ofEntry key value = ofEntry key value') (before after : List (String × Json)) :
    listOfEntries (before ++ (key, value) :: after) =
      listOfEntries (before ++ (key, value') :: after) := by
  induction before with
  | nil => rw [List.nil_append, List.nil_append, listOfEntries_cons, listOfEntries_cons, h]
  | cons entry before ih =>
    rw [List.cons_append, List.cons_append, listOfEntries_cons, listOfEntries_cons, ih]

end Condition

/-- A group may be written as an object or as the array of its entries, each an object of
its own.  The document with the one has the condition of the document with the other, or
the same failure, whatever other entries stand before and after the group. -/
theorem ofJson_object_eq_listed {connective : Connective} {key : String}
    (hkey : Text.IsAnyCaseOf connective.keyword key)
    (before entries after : List (String × Json)) :
    Condition.ofJson (.object (before ++ (key, .object entries) :: after)) =
      Condition.ofJson (.object (before ++ (key, Json.listed entries) :: after)) := by
  have hentry := (Condition.ofEntry_listed hkey entries).symm
  rw [Condition.ofJson, Condition.ofJson, Condition.listOfEntries_congr hentry]

/-- Entries of a group: a range, an empty group, a group in capitals and a list. -/
def visitEntries : List (String × Json) :=
  [("visits", .object [(">", .string "3"), (" <= ", .string "9")]), ("and", .object []),
    ("AND", .object [("city", .string "Rome")]), ("tags", .array [])]

theorem ofJson_object_eq_listed_visitEntries :
    Text.IsAnyCaseOf Connective.or.keyword "oR" ∧
    Condition.ofJson (.object [("oR", .object visitEntries)]) =
      Condition.ofJson (.object [("oR", Json.listed visitEntries)]) ∧
    Condition.ofJson (.object [("oR", Json.listed visitEntries)]) =
      .ok (some (.group .and
        [.group .or
          [.group .and [.leaf "visits" .gt (.string "3"), .leaf "visits" .le (.string "9")],
            .group .and [.leaf "city" .eq (.string "Rome")],
            .leaf "tags" .eq (.list [])]])) := by
  have hkey : Text.IsAnyCaseOf Connective.or.keyword "oR" :=
    Connective.ofKey?_eq_some_iff.mp rfl
  exact ⟨hkey, ofJson_object_eq_listed hkey [] visitEntries [], rfl⟩

end RelQuery
