import Mathlib.Data.List.Forall2
import RelQuery.Proofs.Outcome
import RelQuery.Query.Document

/-!
# Queries inside conditions

A test may compare a field with a query, and a list in a test may hold queries
too.  This module lists the queries of a condition in their order, and on the
other side the parts of a JSON value that the reader of conditions takes for
queries.  The two lists agree one by one (`reads_of_condition`).

What a part of a JSON value stands for follows from what the whole stands for
and from the keys on the way to it (`Json.Role`), so a single recursion lists the
queries in conditions, in the tests of a field and in values.
-/

namespace RelQuery

/-! ## Queries of a condition -/

mutual

/-- The queries of a value, each with whether the value is the query itself. -/
def Value.queries (direct : Bool) : Value → List (Bool × Query)
  | .query q => [(direct, q)]
  | .list items => Value.listedQueries items
  | _ => []

/-- The queries of the items of a list. -/
def Value.listedQueries : List Value → List (Bool × Query)
  | [] => []
  | item :: items => item.queries false ++ Value.listedQueries items

end

mutual

/-- The queries of a condition, each with whether a test compares with it
directly and not with a list that holds it. -/
def Condition.queries : Condition → List (Bool × Query)
  | .leaf _ _ value => value.queries true
  | .group _ members => Condition.allQueries members
  | .raw _ => []

/-- The queries of several conditions. -/
def Condition.allQueries : List Condition → List (Bool × Query)
  | [] => []
  | c :: cs => c.queries ++ Condition.allQueries cs

end

namespace Condition

theorem allQueries_append (cs ds : List Condition) :
    allQueries (cs ++ ds) = allQueries cs ++ allQueries ds := by
  induction cs with
  | nil => rfl
  | cons c cs ih => rw [List.cons_append, allQueries, ih, allQueries, List.append_assoc]

theorem allQueries_singleton (c : Condition) : allQueries [c] = c.queries := by
  rw [allQueries, allQueries, List.append_nil]

/-- A group has the queries of its members. -/
theorem allQueries_groupOf? (connective : Connective) (cs : List Condition) :
    allQueries (groupOf? connective cs).toList = allQueries cs := by
  cases cs with
  | nil => rfl
  | cons c cs =>
    show allQueries [.group connective (c :: cs)] = _
    rw [allQueries_singleton, queries]

/-- The member that conditions make has their queries. -/
theorem allQueries_branch (cs : List Condition) : allQueries (branch cs) = allQueries cs := by
  match cs with
  | [] => rfl
  | [c] => rfl
  | c :: d :: cs =>
    show allQueries [.group .and (c :: d :: cs)] = _
    rw [allQueries_singleton, queries]

end Condition

/-! ## Queries of a JSON value -/

namespace Json

/-- What a JSON value inside a condition stands for. -/
inductive Role where
  /-- A condition, or the members of a group. -/
  | condition
  /-- The tests of a field. -/
  | tests
  /-- A value. -/
  | value
  deriving DecidableEq

/-- What the items of an array stand for. -/
def Role.item : Role → Role
  | condition => condition
  | _ => value

/-- What the value of a key stands for. -/
def Role.entry (key : String) : Role → Role
  | condition => if (Connective.ofKey? key).isSome then condition else tests
  | _ => value

mutual

/-- The parts of a JSON value that are queries. -/
def queries (role : Role) : Json → List Json
  | array items => itemQueries role.item items
  | object entries =>
    if role ≠ .condition ∧ isQueryObject entries = true then entries.map Prod.snd
    else entryQueries role entries
  | _ => []

/-- The parts of the items of an array that are queries. -/
def itemQueries (role : Role) : List Json → List Json
  | [] => []
  | item :: items => item.queries role ++ itemQueries role items

/-- The parts of the entries of an object that are queries. -/
def entryQueries (role : Role) : List (String × Json) → List Json
  | [] => []
  | (key, value) :: entries => value.queries (role.entry key) ++ entryQueries role entries

end

end Json

/-! ## Both agree -/

/-- Whether a JSON value is read as a query, wherever the query stands. -/
def Json.Reads (d : Json) (inner : Bool × Query) : Prop := Query.ofJson d = .ok inner.2

/-- An object that is a value is the query in it. -/
theorem Value.of_ofEntries_eq_ok {entries : List (String × Json)} {value : Value}
    (h : Value.ofEntries entries = .ok value) :
    ∃ d q, entries = [(queryKey, d)] ∧ Query.ofJson d = .ok q ∧ value = .query q := by
  match entries with
  | [] => cases h
  | [(key, d)] =>
    rw [Value.ofEntries] at h
    split at h
    next hkey =>
      split at h
      next q hq =>
        cases h
        exact ⟨d, q, by rw [hkey], hq, rfl⟩
      next => cases h
    next => cases h
  | _ :: _ :: _ => cases h

/-- An object that is a value holds one query. -/
theorem reads_of_entries {entries : List (String × Json)} {value : Value} {role : Json.Role}
    (hrole : role ≠ .condition) (h : Value.ofEntries entries = .ok value) (direct : Bool) :
    List.Forall₂ Json.Reads ((Json.object entries).queries role) (value.queries direct) := by
  obtain ⟨d, q, rfl, hq, rfl⟩ := Value.of_ofEntries_eq_ok h
  have hobject : isQueryObject [(queryKey, d)] = true := by simp [isQueryObject]
  rw [Json.queries, if_pos ⟨hrole, hobject⟩, Value.queries]
  exact .cons hq .nil

mutual

/-- The queries of a JSON value that is a value. -/
theorem reads_of_value : ∀ {d : Json} {value : Value} (direct : Bool),
    Value.ofJson d = .ok value → List.Forall₂ Json.Reads (d.queries .value) (value.queries direct)
  | .null, _, _, h => by
    cases h
    exact .nil
  | .bool _, _, _, h => by
    cases h
    exact .nil
  | .number n, _, _, h => by
    rw [Value.ofJson] at h
    cases hn : n.toInt64? <;> rw [hn] at h <;> cases h <;> exact .nil
  | .string _, _, _, h => by
    cases h
    exact .nil
  | .array items, _, _, h => by
    rw [Value.ofJson, map_eq_ok_iff] at h
    obtain ⟨values, hvalues, rfl⟩ := h
    exact reads_of_values hvalues
  | .object _, _, direct, h => by
    rw [Value.ofJson] at h
    exact reads_of_entries (by decide) h direct

theorem reads_of_values : ∀ {items : List Json} {values : List Value},
    Value.listOfItems items = .ok values →
      List.Forall₂ Json.Reads (Json.itemQueries .value items) (Value.listedQueries values)
  | [], _, h => by
    cases h
    exact .nil
  | item :: items, _, h => by
    rw [Value.listOfItems, bind_eq_ok_iff] at h
    obtain ⟨value, hvalue, h⟩ := h
    obtain ⟨values, hvalues, h⟩ := bind_eq_ok_iff.mp h
    cases h
    exact List.rel_append (reads_of_value false hvalue) (reads_of_values hvalues)

end

/-- The queries of the tests by the entries of an object of operators. -/
theorem reads_of_testsOf {field : String} {entries : List (String × Json)} {tests : List Condition}
    (h : Condition.testsOf field entries = .ok tests) :
    List.Forall₂ Json.Reads (Json.entryQueries .tests entries) (Condition.allQueries tests) := by
  induction entries generalizing tests with
  | nil =>
    cases h
    exact .nil
  | cons entry entries ih =>
    obtain ⟨key, value⟩ := entry
    rw [Condition.testsOf] at h
    split at h
    next => cases h
    next op _ =>
      obtain ⟨v, hv, h⟩ := bind_eq_ok_iff.mp h
      obtain ⟨vs, hvs, h⟩ := bind_eq_ok_iff.mp h
      cases h
      exact List.rel_append (reads_of_value true hv) (ih hvs)

/-- The queries of the tests of a field. -/
theorem reads_of_field {field : String} {d : Json} {c : Option Condition}
    (h : Condition.ofField field d = .ok c) :
    List.Forall₂ Json.Reads (d.queries .tests) (Condition.allQueries c.toList) := by
  cases d with
  | object entries =>
    rw [Condition.ofField] at h
    split at h
    next hquery =>
      -- The object is no object of operators but a query, compared for equality.
      obtain ⟨value, hvalue, rfl⟩ := map_eq_ok_iff.mp h
      rw [Option.toList_some, Condition.allQueries_singleton, Condition.queries]
      exact reads_of_entries (by decide) hvalue true
    next hquery =>
      obtain ⟨tests, htests, rfl⟩ := map_eq_ok_iff.mp h
      rw [Condition.allQueries_groupOf?, Json.queries, if_neg fun hand => hquery hand.2]
      exact reads_of_testsOf htests
  | array items =>
    rw [Condition.ofField, map_eq_ok_iff] at h
    obtain ⟨values, hvalues, rfl⟩ := h
    rw [Option.toList_some, Condition.allQueries_singleton, Condition.queries]
    exact reads_of_values hvalues
  | number n =>
    rw [Condition.ofField] at h
    cases hn : n.toInt64? <;> rw [hn] at h <;> cases h <;> exact .nil
  | _ =>
    cases h
    exact .nil

/-- The condition of one entry of an object. -/
def Condition.ofEntry (key : String) (value : Json) : Except Error (Option Condition) :=
  match Connective.ofKey? key with
  | some connective => Condition.ofGroup key connective value
  | none => Condition.ofField key value

/-- The entries of an object are read one after another. -/
theorem Condition.listOfEntries_cons (key : String) (value : Json)
    (entries : List (String × Json)) :
    Condition.listOfEntries ((key, value) :: entries) = do
      let c ← Condition.ofEntry key value
      let cs ← Condition.listOfEntries entries
      return c.toList ++ cs := by
  rw [Condition.listOfEntries, Condition.ofEntry]
  cases Connective.ofKey? key <;> rfl

mutual

/-- The queries of a JSON value that is a condition. -/
theorem reads_of_condition : ∀ {d : Json} {c : Option Condition}, Condition.ofJson d = .ok c →
    List.Forall₂ Json.Reads (d.queries .condition) (Condition.allQueries c.toList)
  | .null, _, h => by
    cases h
    exact .nil
  | .bool _, _, h => by
    cases h
    exact .nil
  | .number _, _, h => by
    cases h
    exact .nil
  | .string s, _, h => by
    rw [Condition.ofJson] at h
    cases h
    cases Text.isBlankText s <;> exact .nil
  | .array _, _, h => by
    rw [Condition.ofJson, map_eq_ok_iff] at h
    obtain ⟨cs, hcs, rfl⟩ := h
    rw [Condition.allQueries_groupOf?]
    exact reads_of_items hcs
  | .object _, _, h => by
    rw [Condition.ofJson, map_eq_ok_iff] at h
    obtain ⟨cs, hcs, rfl⟩ := h
    rw [Condition.allQueries_groupOf?]
    exact reads_of_listOfEntries hcs

theorem reads_of_items : ∀ {items : List Json} {cs : List Condition},
    Condition.listOfItems items = .ok cs →
      List.Forall₂ Json.Reads (Json.itemQueries .condition items) (Condition.allQueries cs)
  | [], _, h => by
    cases h
    exact .nil
  | _ :: _, _, h => by
    rw [Condition.listOfItems, bind_eq_ok_iff] at h
    obtain ⟨c, hc, h⟩ := h
    obtain ⟨cs, hcs, h⟩ := bind_eq_ok_iff.mp h
    cases h
    rw [Condition.allQueries_append]
    exact List.rel_append (reads_of_condition hc) (reads_of_items hcs)

/-- The queries of the entries of an object of conditions. -/
theorem reads_of_listOfEntries : ∀ {entries : List (String × Json)} {cs : List Condition},
    Condition.listOfEntries entries = .ok cs →
      List.Forall₂ Json.Reads (Json.entryQueries .condition entries) (Condition.allQueries cs)
  | [], _, h => by
    cases h
    exact .nil
  | (key, value) :: _, _, h => by
    rw [Condition.listOfEntries_cons, bind_eq_ok_iff] at h
    obtain ⟨c, hc, h⟩ := h
    obtain ⟨cs, hcs, h⟩ := bind_eq_ok_iff.mp h
    cases h
    rw [Condition.allQueries_append, Json.entryQueries]
    refine List.rel_append ?_ (reads_of_listOfEntries hcs)
    rw [Condition.ofEntry] at hc
    rw [Json.Role.entry]
    cases hkey : Connective.ofKey? key with
    | some connective =>
      simp only [hkey] at hc
      exact reads_of_group hc
    | none =>
      simp only [hkey] at hc
      exact reads_of_field hc

/-- The queries of the group under a key. -/
theorem reads_of_group {key : String} {connective : Connective} :
    ∀ {d : Json} {c : Option Condition}, Condition.ofGroup key connective d = .ok c →
      List.Forall₂ Json.Reads (d.queries .condition) (Condition.allQueries c.toList)
  | .null, _, h => by simp [Condition.ofGroup] at h
  | .bool _, _, h => by simp [Condition.ofGroup] at h
  | .number _, _, h => by simp [Condition.ofGroup] at h
  | .string _, _, h => by simp [Condition.ofGroup] at h
  | .array _, _, h => by
    rw [Condition.ofGroup, map_eq_ok_iff] at h
    obtain ⟨cs, hcs, rfl⟩ := h
    rw [Condition.allQueries_groupOf?]
    exact reads_of_members hcs
  | .object _, _, h => by
    rw [Condition.ofGroup, map_eq_ok_iff] at h
    obtain ⟨cs, hcs, rfl⟩ := h
    rw [Condition.allQueries_groupOf?]
    exact reads_of_listOfEntries hcs

theorem reads_of_members {key : String} : ∀ {items : List Json} {cs : List Condition},
    Condition.membersOf key items = .ok cs →
      List.Forall₂ Json.Reads (Json.itemQueries .condition items) (Condition.allQueries cs)
  | [], _, h => by
    cases h
    exact .nil
  | _ :: _, _, h => by
    rw [Condition.membersOf, bind_eq_ok_iff] at h
    obtain ⟨member, hmember, h⟩ := h
    obtain ⟨members, hmembers, h⟩ := bind_eq_ok_iff.mp h
    cases h
    rw [Condition.allQueries_append]
    exact List.rel_append (reads_of_member hmember) (reads_of_members hmembers)

theorem reads_of_member {key : String} : ∀ {d : Json} {cs : List Condition},
    Condition.memberOf key d = .ok cs →
      List.Forall₂ Json.Reads (d.queries .condition) (Condition.allQueries cs)
  | .null, _, h => by simp [Condition.memberOf] at h
  | .bool _, _, h => by simp [Condition.memberOf] at h
  | .number _, _, h => by simp [Condition.memberOf] at h
  | .array _, _, h => by simp [Condition.memberOf] at h
  | .string s, _, h => by
    rw [Condition.memberOf] at h
    split at h
    next => cases h
    next =>
      cases h
      exact .nil
  | .object _, _, h => by
    rw [Condition.memberOf, map_eq_ok_iff] at h
    obtain ⟨cs, hcs, rfl⟩ := h
    rw [Condition.allQueries_branch]
    exact reads_of_listOfEntries hcs

end

end RelQuery
