import Mathlib.Order.Bounds.Basic
import Mathlib.Order.MinMax
import RelQuery.Proofs.Query.Place

/-!
# How deeply queries are nested

A *chain* leads from a query down to the queries inside it: first through tests
that compare with a query directly, and then through joins of joins.  It does not
go on from a join to the condition of the join, and it does not enter lists.

The *nesting* of a query is the length of its longest chain
(`Query.isGreatest_nesting`).  A query with neither joins nor tests of queries has
the nesting zero.
-/

namespace RelQuery

/-! ## Nesting -/

mutual

/-- How deeply joins are nested in a join, with the join itself. -/
def Query.joinedNesting : Query → Nat
  | ⟨_, _, _, _, joins, _, _, _, _, _, _⟩ => Query.joinsNesting joins + 1

/-- How deeply joins are nested. -/
def Query.joinsNesting : List Query → Nat
  | [] => 0
  | q :: qs => max q.joinedNesting (Query.joinsNesting qs)

end

mutual

/-- How deeply queries are nested in a query. -/
def Query.nesting : Query → Nat
  | ⟨_, _, _, conditions, joins, _, _, _, _, _, _⟩ =>
    max (Query.joinsNesting joins) (Condition.optionalNesting conditions)

/-- How deeply queries are nested in a condition that may be absent. -/
def Condition.optionalNesting : Option Condition → Nat
  | none => 0
  | some c => c.nesting

/-- How deeply queries are nested in a condition. -/
def Condition.nesting : Condition → Nat
  | .leaf _ _ value => value.nesting
  | .group _ members => Condition.allNesting members
  | .raw _ => 0

/-- How deeply queries are nested in several conditions. -/
def Condition.allNesting : List Condition → Nat
  | [] => 0
  | c :: cs => max c.nesting (Condition.allNesting cs)

/-- How deeply queries are nested in the value of a test. -/
def Value.nesting : Value → Nat
  | .query q => q.nesting + 1
  | _ => 0

end

namespace Query

theorem joinedNesting_eq (q : Query) : q.joinedNesting = joinsNesting q.joins + 1 := by
  cases q
  rfl

theorem nesting_eq (q : Query) :
    q.nesting = max (joinsNesting q.joins) (Condition.optionalNesting q.conditions) := by
  cases q
  rfl

theorem joinedNesting_le_of_mem {q : Query} {qs : List Query} (h : q ∈ qs) :
    q.joinedNesting ≤ joinsNesting qs := by
  induction qs with
  | nil => cases h
  | cons p qs ih =>
    rw [joinsNesting]
    rcases List.mem_cons.mp h with rfl | h
    · exact le_max_left _ _
    · exact le_max_of_le_right (ih h)

/-! ## Chains -/

/-- Whether joins of joins lead down a number of levels. -/
def HasJoins (q : Query) (n : Nat) : Prop :=
  ∃ joins : List Nat, n = joins.length ∧ ∃ found, q.at? (joins.map Step.join) = some (true, found)

/-- Whether a chain of a length leads down from a query. -/
def HasChain (q : Query) (n : Nat) : Prop :=
  ∃ tests joins : List Nat, n = tests.length + joins.length ∧
    ∃ found, q.at? (tests.map Step.test ++ joins.map Step.join) = some (true, found)

theorem HasJoins.hasChain {q : Query} {n : Nat} (h : q.HasJoins n) : q.HasChain n := by
  obtain ⟨joins, rfl, hfound⟩ := h
  exact ⟨[], joins, by simp, hfound⟩

theorem at?_join_cons {q : Query} {i : Nat} {place : Place} {found : Bool × Query} :
    q.at? (.join i :: place) = some found ↔
      ∃ join, q.joins[i]? = some join ∧ join.at? place = some found :=
  Option.bind_eq_some_iff

theorem at?_test_cons {q : Query} {i : Nat} {place : Place} {found : Query} :
    q.at? (.test i :: place) = some (true, found) ↔
      ∃ inner, q.tested[i]? = some (true, inner) ∧ inner.at? place = some (true, found) := by
  rw [at?, Option.bind_eq_bind, Option.bind_eq_some_iff]
  constructor
  · rintro ⟨⟨direct, inner⟩, hinner, h⟩
    obtain ⟨⟨rest, last⟩, hlast, h⟩ := Option.bind_eq_some_iff.mp h
    cases direct <;> cases rest <;> cases h
    exact ⟨inner, hinner, hlast⟩
  · rintro ⟨inner, hinner, h⟩
    exact ⟨(true, inner), hinner, by simp [h]⟩

theorem HasJoins.cons {q join : Query} {n : Nat} (hmem : join ∈ q.joins) (h : join.HasJoins n) :
    q.HasJoins (n + 1) := by
  obtain ⟨joins, rfl, found, hfound⟩ := h
  obtain ⟨i, hi⟩ := List.mem_iff_getElem?.mp hmem
  exact ⟨i :: joins, rfl, found, at?_join_cons.mpr ⟨join, hi, hfound⟩⟩

theorem HasChain.cons {q inner : Query} {n : Nat} (hmem : (true, inner) ∈ q.tested)
    (h : inner.HasChain n) : q.HasChain (n + 1) := by
  obtain ⟨tests, joins, rfl, found, hfound⟩ := h
  obtain ⟨i, hi⟩ := List.mem_iff_getElem?.mp hmem
  refine ⟨i :: tests, joins, ?_, found, at?_test_cons.mpr ⟨inner, hi, hfound⟩⟩
  rw [List.length_cons]
  omega

end Query

/-! ## A chain of that length -/

mutual

theorem Query.hasJoins_joinsNesting : ∀ q : Query, q.HasJoins (joinsNesting q.joins)
  | ⟨_, _, _, _, joins, _, _, _, _, _, _⟩ => by
    rcases Query.exists_join_of_joinsNesting joins with hzero | ⟨join, hmem, n, hn, heq⟩
    · exact ⟨[], hzero, _, rfl⟩
    · show HasJoins _ (joinsNesting joins)
      rw [heq]
      exact .cons hmem hn

theorem Query.exists_join_of_joinsNesting : ∀ qs : List Query, joinsNesting qs = 0 ∨
    ∃ join ∈ qs, ∃ n, join.HasJoins n ∧ joinsNesting qs = n + 1
  | [] => .inl rfl
  | q :: qs => by
    rw [joinsNesting]
    rcases le_total (joinsNesting qs) q.joinedNesting with hle | hle
    · rw [max_eq_left hle]
      exact .inr ⟨q, .head _, _, q.hasJoins_joinsNesting, q.joinedNesting_eq⟩
    · rw [max_eq_right hle]
      rcases Query.exists_join_of_joinsNesting qs with hzero | ⟨join, hmem, hjoin⟩
      · exact .inl hzero
      · exact .inr ⟨join, .tail _ hmem, hjoin⟩

end

/-- Whether queries are nested in conditions no deeper than a number, or one of the
queries that tests compare with directly begins a chain of that length. -/
def Condition.Reaches (tested : List (Bool × Query)) (n : Nat) : Prop :=
  n = 0 ∨ ∃ inner, (true, inner) ∈ tested ∧ ∃ m, inner.HasChain m ∧ n = m + 1

theorem Condition.Reaches.mono {tested tested' : List (Bool × Query)} {n : Nat}
    (h : Reaches tested n) (hsub : ∀ q ∈ tested, q ∈ tested') : Reaches tested' n := by
  rcases h with hzero | ⟨inner, hmem, hchain⟩
  · exact .inl hzero
  · exact .inr ⟨inner, hsub _ hmem, hchain⟩

mutual

theorem Query.hasChain_nesting : ∀ q : Query, q.HasChain q.nesting
  | ⟨kind, model, fields, conditions, joins, constraint, joinKind, limit, offset, order,
      payload⟩ => by
    have hjoins := Query.hasJoins_joinsNesting ⟨kind, model, fields, conditions, joins, constraint,
      joinKind, limit, offset, order, payload⟩
    rw [Query.nesting]
    rcases le_total (Condition.optionalNesting conditions) (Query.joinsNesting joins) with hle | hle
    · rw [max_eq_left hle]
      exact hjoins.hasChain
    · rw [max_eq_right hle]
      rcases Condition.reaches_optionalNesting conditions with hzero | ⟨inner, hmem, m, hm, heq⟩
      · rw [hzero] at hle ⊢
        exact ⟨[], [], rfl, _, rfl⟩
      · rw [heq]
        exact .cons hmem hm

theorem Condition.reaches_optionalNesting : ∀ c : Option Condition,
    Condition.Reaches (Condition.allQueries c.toList) (Condition.optionalNesting c)
  | none => .inl rfl
  | some c => by
    rw [Option.toList_some, Condition.allQueries_singleton]
    exact Condition.reaches_nesting c

theorem Condition.reaches_nesting : ∀ c : Condition, Condition.Reaches c.queries c.nesting
  | .leaf _ _ (.query q) => .inr ⟨q, .head _, q.nesting, q.hasChain_nesting, rfl⟩
  | .leaf _ _ .null => .inl rfl
  | .leaf _ _ (.bool _) => .inl rfl
  | .leaf _ _ (.int _) => .inl rfl
  | .leaf _ _ (.float _) => .inl rfl
  | .leaf _ _ (.string _) => .inl rfl
  | .leaf _ _ (.list _) => .inl rfl
  | .group _ members => Condition.reaches_allNesting members
  | .raw _ => .inl rfl

theorem Condition.reaches_allNesting : ∀ cs : List Condition,
    Condition.Reaches (Condition.allQueries cs) (Condition.allNesting cs)
  | [] => .inl rfl
  | c :: cs => by
    rw [Condition.allNesting, Condition.allQueries]
    rcases le_total (Condition.allNesting cs) c.nesting with hle | hle
    · rw [max_eq_left hle]
      exact (Condition.reaches_nesting c).mono fun q hq => List.mem_append_left _ hq
    · rw [max_eq_right hle]
      exact (Condition.reaches_allNesting cs).mono fun q hq => List.mem_append_right _ hq

end

/-! ## No chain is longer -/

mutual

/-- No test compares directly with a query that stands in a list. -/
theorem Value.direct_of_mem_queries : ∀ {value : Value} {direct : Bool} {q : Query},
    (direct, q) ∈ value.queries false → direct = false
  | .query _, _, _, h => by
    rw [Value.queries, List.mem_singleton] at h
    exact (Prod.mk.inj h).1
  | .list _, _, _, h => Value.direct_of_mem_listedQueries h
  | .null, _, _, h => by cases h
  | .bool _, _, _, h => by cases h
  | .int _, _, _, h => by cases h
  | .float _, _, _, h => by cases h
  | .string _, _, _, h => by cases h

theorem Value.direct_of_mem_listedQueries : ∀ {items : List Value} {direct : Bool} {q : Query},
    (direct, q) ∈ Value.listedQueries items → direct = false
  | [], _, _, h => by cases h
  | item :: items, _, _, h => by
    rw [Value.listedQueries] at h
    rcases List.mem_append.mp h with h | h
    · exact Value.direct_of_mem_queries h
    · exact Value.direct_of_mem_listedQueries h

end

theorem Value.nesting_of_mem_queries {value : Value} {q : Query}
    (h : (true, q) ∈ value.queries true) : value.nesting = q.nesting + 1 := by
  cases value with
  | query p =>
    rw [Value.queries, List.mem_singleton] at h
    rw [(Prod.mk.inj h).2, Value.nesting]
  | list items => cases Value.direct_of_mem_listedQueries h
  | _ => cases h

mutual

theorem Condition.nesting_lt_of_mem_queries {q : Query} : ∀ {c : Condition},
    (true, q) ∈ c.queries → q.nesting < c.nesting
  | .leaf _ _ _, h => by
    rw [Condition.nesting, Value.nesting_of_mem_queries h]
    exact Nat.lt_succ_self _
  | .group _ _, h => Condition.nesting_lt_of_mem_allQueries h
  | .raw _, h => by cases h

theorem Condition.nesting_lt_of_mem_allQueries {q : Query} : ∀ {cs : List Condition},
    (true, q) ∈ Condition.allQueries cs → q.nesting < Condition.allNesting cs
  | [], h => by cases h
  | c :: cs, h => by
    rw [Condition.allQueries] at h
    rw [Condition.allNesting]
    rcases List.mem_append.mp h with h | h
    · exact lt_max_of_lt_left (Condition.nesting_lt_of_mem_queries h)
    · exact lt_max_of_lt_right (Condition.nesting_lt_of_mem_allQueries h)

end

namespace Query

theorem nesting_lt_of_mem_tested {q inner : Query} (h : (true, inner) ∈ q.tested) :
    inner.nesting < q.nesting := by
  rw [nesting_eq q]
  refine lt_max_of_lt_right ?_
  rw [tested] at h
  cases hc : q.conditions with
  | none =>
    rw [hc] at h
    cases h
  | some c =>
    rw [hc, Option.toList_some, Condition.allQueries_singleton] at h
    exact Condition.nesting_lt_of_mem_queries h

theorem length_le_joinsNesting {joins : List Nat} {q : Query} {found : Bool × Query}
    (h : q.at? (joins.map Step.join) = some found) : joins.length ≤ joinsNesting q.joins := by
  induction joins generalizing q with
  | nil => exact Nat.zero_le _
  | cons i joins ih =>
    obtain ⟨join, hjoin, hfound⟩ := at?_join_cons.mp h
    have hle := joinedNesting_le_of_mem (List.mem_of_getElem? hjoin)
    rw [joinedNesting_eq] at hle
    have hlength := ih hfound
    rw [List.length_cons]
    omega

theorem HasChain.le_nesting {q : Query} {n : Nat} (h : q.HasChain n) : n ≤ q.nesting := by
  obtain ⟨tests, joins, rfl, found, hfound⟩ := h
  induction tests generalizing q with
  | nil =>
    have hlength := length_le_joinsNesting hfound
    rw [nesting_eq, List.length_nil, Nat.zero_add]
    exact le_max_of_le_left hlength
  | cons i tests ih =>
    obtain ⟨inner, hinner, hfound⟩ := at?_test_cons.mp hfound
    have hlt := nesting_lt_of_mem_tested (List.mem_of_getElem? hinner)
    have hlength := ih hfound
    rw [List.length_cons]
    omega

/-- The nesting of a query is the length of its longest chain. -/
theorem isGreatest_nesting (q : Query) : IsGreatest {n | q.HasChain n} q.nesting :=
  ⟨q.hasChain_nesting, fun _ h => HasChain.le_nesting h⟩

end Query

end RelQuery
