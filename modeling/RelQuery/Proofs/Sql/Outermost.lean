import RelQuery.Proofs.Query.Spot
import RelQuery.Sql.Writer

/-!
# The outermost group

The outermost group of a condition is written in one of two ways.  If its only member is
a test, it is written as that test is.  Otherwise it is what its members leave, with its
connective between them.  Pieces and texts are written alike.

What is proved along the recursion of the writers takes the members of that group apart
by these two cases (`Condition.outermost`), also where one of them has a spot in it
(`Condition.Spot.outermost`).
-/

namespace RelQuery

variable {connective : Connective} {members : List Condition}

namespace Condition

/-- Whether a condition is a test and nothing else. -/
def isLone : Condition → Bool
  | .leaf .. => true
  | .group _ [.leaf ..] => true
  | _ => false

/-- How the members of the outermost group are written. -/
inductive Outermost (connective : Connective) : List Condition → Prop where
  /-- The only member is a test, which stands alone. -/
  | alone (field : String) (op : Operator) (value : Value) :
    Outermost connective [.leaf field op value]
  /-- The members are joined. -/
  | joined {members : List Condition} (h : (Condition.group connective members).isLone = false) :
    Outermost connective members

theorem outermost (connective : Connective) :
    ∀ members : List Condition, Outermost connective members
  | [.leaf field op value] => .alone field op value
  | [] => .joined rfl
  | [.raw _] => .joined rfl
  | [.group ..] => .joined rfl
  | c :: _ :: _ => .joined (by cases c <;> rfl)

theorem exists_leaf_of_isLone (h : (Condition.group connective members).isLone = true) :
    ∃ field op value, members = [.leaf field op value] := by
  cases outermost connective members with
  | alone field op value => exact ⟨field, op, value, rfl⟩
  | joined hjoined => cases h.symm.trans hjoined

/-- How the members of the outermost group are written, one of which has a spot in it. -/
inductive Spot.Outermost (connective : Connective) :
    List Condition → Spot → List Condition → Prop where
  /-- The only member is a test with the spot in it. -/
  | alone (field : String) (op : Operator) (spot : Value.Spot) :
    Outermost connective [] (.leaf field op spot) []
  /-- The members are joined, whatever is filled in. -/
  | joined {before : List Condition} {spot : Spot} {after : List Condition}
    (h : ∀ v, (Condition.group connective (before ++ spot.fill v :: after)).isLone = false) :
    Outermost connective before spot after

theorem Spot.outermost (connective : Connective) :
    ∀ (before : List Condition) (spot : Spot) (after : List Condition),
      Spot.Outermost connective before spot after
  | [], .leaf field op spot, [] => .alone field op spot
  | [], .member .., [] => .joined fun _ => rfl
  | [], .leaf .., _ :: _ => .joined fun _ => rfl
  | [], .member .., _ :: _ => .joined fun _ => rfl
  | c :: before, _, _ => .joined fun _ => by cases c <;> cases before <;> rfl

end Condition

/-! ## Pieces -/

namespace Sql

theorem outcome_whereFormula_leaf (scope : Scope) (field : String) (op : Operator) (value : Value) :
    (whereFormula scope (.leaf field op value)).outcome =
      (test scope [.text field] field op value).outcome.map fun pieces => some [.atom pieces] := by
  rw [whereFormula, Lookups.outcome_bind]
  cases (test scope [.text field] field op value).outcome <;> rfl

/-- A test alone in a group is written as it is without the group. -/
theorem whereFormula_alone (scope : Scope) (connective : Connective) (field : String)
    (op : Operator) (value : Value) :
    whereFormula scope (.group connective [.leaf field op value]) =
      whereFormula scope (.leaf field op value) := by
  rw [whereFormula, whereFormula]

/-- Any other group is written as its members. -/
theorem whereFormula_group (scope : Scope)
    (h : (Condition.group connective members).isLone = false) :
    whereFormula scope (.group connective members) =
      (do return Fragment.join connective (← fragments scope members)) := by
  match members with
  | [.leaf field op value] => cases h
  | [] | [.raw _] | [.group ..] | _ :: _ :: _ => rw [whereFormula]; simp

theorem outcome_whereFormula_group (scope : Scope)
    (h : (Condition.group connective members).isLone = false) :
    (whereFormula scope (.group connective members)).outcome =
      (fragments scope members).outcome.map (Fragment.join connective) := by
  rw [whereFormula_group scope h, Lookups.outcome_bind]
  cases (fragments scope members).outcome <;> rfl

end Sql

/-! ## Texts -/

namespace Generator

theorem whereBody_alone (g : Generator) (scope : Scope) (connective : Connective)
    (field : String) (op : Operator) (value : Value) :
    g.whereBody scope (.group connective [.leaf field op value]) =
      g.whereBody scope (.leaf field op value) := by
  rw [whereBody, whereBody]

theorem whereBody_group (g : Generator) (scope : Scope)
    (h : (Condition.group connective members).isLone = false) :
    g.whereBody scope (.group connective members) =
      (do return joinParts connective (← g.parts scope members)) := by
  match members with
  | [.leaf field op value] => cases h
  | [] | [.raw _] | [.group ..] | _ :: _ :: _ => rw [whereBody]; simp

end Generator

end RelQuery
