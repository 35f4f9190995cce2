import RelQuery.Proofs.Query.Meaning
import RelQuery.Proofs.Sql.Operand

/-!
# Atoms of formulas

A condition combines atoms, which are tests and raw texts, and its formula holds one
piece of writing for each of them that says something, in the same order
(`forall₂_whereFormula`).  Connectives and parentheses stand between them and leave them
as they are.

A test is written as its column and what is compared with it, and nothing else of it
depends on the column (`exists_map_test`).  Only a test against the empty list has no
column.
-/

namespace RelQuery

/-! ## Atoms of tokens -/

namespace Token

/-- What is written for the atom of a token, if the token is one. -/
def atom? : Token → Option (List Piece)
  | .atom pieces => some pieces
  | _ => none

/-- What is written for the atoms of a formula, in order. -/
def atoms (tokens : List Token) : List (List Piece) := tokens.filterMap atom?

theorem atoms_append (xs ys : List Token) : atoms (xs ++ ys) = atoms xs ++ atoms ys :=
  List.filterMap_append

theorem atoms_enclose (tokens : List Token) : atoms (enclose tokens) = atoms tokens := by
  rw [enclose, atoms_append]
  exact List.append_nil _

end Token

namespace Fragment

/-- What is written for the atoms of a member. -/
def atoms (m : Fragment) : List (List Piece) := Token.atoms m.tokens

theorem atoms_beside (m : Fragment) : Token.atoms m.beside = m.atoms := by
  rw [beside]
  split
  · exact Token.atoms_enclose m.tokens
  · rfl

/-- Connectives leave the atoms of the members. -/
theorem atoms_chain (c : Connective) : ∀ ms : List Fragment,
    Token.atoms (chain c ms) = ms.flatMap atoms
  | [] => rfl
  | [m] => by
    rw [chain, atoms_beside, List.flatMap_singleton]
  | m :: m' :: ms => by
    have hchain : Token.atoms (chain c (m :: m' :: ms)) =
        Token.atoms m.beside ++ Token.atoms (chain c (m' :: ms)) := Token.atoms_append _ _
    rw [hchain, atoms_beside, atoms_chain c (m' :: ms)]
    rfl

theorem atoms_join (c : Connective) (ms : List Fragment) :
    ((join c ms).toList.flatMap Token.atoms) = ms.flatMap atoms := by
  match ms with
  | [] => rfl
  | [m] => rfl
  | m :: m' :: ms =>
    rw [← atoms_chain c]
    exact List.append_nil _

end Fragment

/-! ## Atoms of conditions -/

/-- Whether an atom says something. -/
def Atom.speaks : Atom Value → Bool
  | .test .. => true
  | .raw sql => !Text.isBlankText sql

/-- The atoms of a condition that say something, in order. -/
def Condition.spoken (c : Condition) : List (Atom Value) := c.atoms.filter Atom.speaks

/-- What is written for an atom of a condition, which is a lone test or not. -/
inductive Atom.WrittenAs (scope : Scope) (lone : Bool) : Atom Value → List Piece → Prop where
  /-- A test is written with its field as it stands there. -/
  | test {field : String} {op : Operator} {value : Value} {pieces : List Piece}
      (h : (Sql.test scope (scope.written lone field) field op value).outcome = .ok pieces) :
      WrittenAs scope lone (.test field op value) pieces
  /-- Raw text is written without outer blanks. -/
  | raw (sql : String) : WrittenAs scope lone (.raw sql) [.text (Text.trim sql)]

namespace Sql

theorem forall₂_ofRaw? (scope : Scope) (lone : Bool) (sql : String) :
    List.Forall₂ (Atom.WrittenAs scope lone) (Condition.raw sql).spoken
      ((Fragment.ofRaw? sql).toList.flatMap Fragment.atoms) := by
  have hspoken : (Condition.raw sql).spoken =
      if Text.isBlankText sql = true then [] else [.raw sql] := by
    cases h : Text.isBlankText sql <;> simp [Condition.spoken, Condition.atoms, Atom.speaks, h]
  rw [hspoken]
  cases hraw : Fragment.ofRaw? sql with
  | none =>
    rw [if_pos (Fragment.ofRaw?_eq_none_iff.mp hraw)]
    exact .nil
  | some m =>
    rw [if_neg (by simp [← Fragment.ofRaw?_eq_none_iff, hraw]), Fragment.eq_of_ofRaw? hraw]
    exact .cons (.raw sql) .nil

mutual

/-- A member of a group is written atom by atom. -/
theorem forall₂_fragment (scope : Scope) : ∀ (c : Condition) {m : Option Fragment},
    (fragment scope c).outcome = .ok m →
      List.Forall₂ (Atom.WrittenAs scope false) c.spoken (m.toList.flatMap Fragment.atoms)
  | .raw sql, m, h => by
    rw [fragment, Lookups.outcome_pure] at h
    cases h
    exact forall₂_ofRaw? scope false sql
  | .leaf field op value, m, h => by
    rw [fragment, Lookups.outcome_bind, bind_eq_ok_iff] at h
    obtain ⟨pieces, htest, hm⟩ := h
    cases hm
    exact .cons (.test htest) .nil
  | .group connective members, m, h => by
    rw [outcome_fragment_group, map_eq_ok_iff] at h
    obtain ⟨ms, hmembers, rfl⟩ := h
    have hatoms : ((Fragment.join connective ms).map fun tokens =>
        (⟨Token.enclose tokens, false⟩ : Fragment)).toList.flatMap Fragment.atoms =
          ms.flatMap Fragment.atoms := by
      rw [← Fragment.atoms_join connective ms]
      cases Fragment.join connective ms with
      | none => rfl
      | some tokens =>
        simp only [Option.map_some, Option.toList_some, List.flatMap_singleton, Fragment.atoms,
          Token.atoms_enclose]
    rw [hatoms]
    exact forall₂_fragments scope members hmembers

theorem forall₂_fragments (scope : Scope) : ∀ (cs : List Condition) {ms : List Fragment},
    (fragments scope cs).outcome = .ok ms →
      List.Forall₂ (Atom.WrittenAs scope false) ((Condition.allAtoms cs).filter Atom.speaks)
        (ms.flatMap Fragment.atoms)
  | [], ms, h => by
    rw [fragments, Lookups.outcome_pure] at h
    cases h
    exact .nil
  | c :: cs, ms, h => by
    rw [fragments, Lookups.outcome_bind, bind_eq_ok_iff] at h
    obtain ⟨first, hfirst, h⟩ := h
    rw [Lookups.outcome_bind, bind_eq_ok_iff] at h
    obtain ⟨rest, hrest, hms⟩ := h
    cases hms
    rw [Condition.allAtoms_cons, List.filter_append, List.flatMap_append]
    exact List.rel_append (forall₂_fragment scope c hfirst) (forall₂_fragments scope cs hrest)

end

theorem forall₂_whereFormula_leaf (scope : Scope) {field : String} {op : Operator} {value : Value}
    {formula : Option (List Token)}
    (h : (whereFormula scope (.leaf field op value)).outcome = .ok formula) :
    List.Forall₂ (Atom.WrittenAs scope true) [.test field op value]
      (formula.toList.flatMap Token.atoms) := by
  rw [outcome_whereFormula_leaf, map_eq_ok_iff] at h
  obtain ⟨pieces, htest, rfl⟩ := h
  exact .cons (.test htest) .nil

/-- The formula of a statement is written atom by atom. -/
theorem forall₂_whereFormula (scope : Scope) {c : Condition} {formula : Option (List Token)}
    (h : (whereFormula scope c).outcome = .ok formula) :
    List.Forall₂ (Atom.WrittenAs scope c.isLone) c.spoken
      (formula.toList.flatMap Token.atoms) := by
  cases c with
  | raw sql =>
    rw [whereFormula, Lookups.outcome_pure] at h
    cases h
    have hraw := forall₂_ofRaw? scope false sql
    cases hof : Fragment.ofRaw? sql with
    | none => rwa [hof] at hraw
    | some m => rwa [hof] at hraw
  | leaf field op value => exact forall₂_whereFormula_leaf scope h
  | group connective members =>
    cases Condition.outermost connective members with
    | alone field op value =>
      rw [whereFormula_alone] at h
      exact forall₂_whereFormula_leaf scope h
    | joined hjoined =>
      rw [outcome_whereFormula_group scope hjoined, map_eq_ok_iff] at h
      obtain ⟨ms, hmembers, rfl⟩ := h
      rw [hjoined, Fragment.atoms_join]
      exact forall₂_fragments scope members hmembers

/-! ## Columns of tests -/

section Columns

variable (scope : Scope) (t : Target) (field : String) (op : Operator)

/-- A column, a blank and what the column is compared with. -/
def compared (column : List Piece) (rest : String × List Piece) : List Piece :=
  column ++ .text (" " ++ rest.1) :: rest.2

theorem exists_map_membership (x : Except Error (List Piece)) (keyword : String) :
    ∃ rest : Except Error (String × List Piece), ∀ column,
      (do return Target.membership column keyword (← x)) = rest.map (compared column) := by
  refine ⟨x.map fun members => (keyword ++ " (", members ++ [.text ")"]), fun column => ?_⟩
  cases x with
  | error e => rfl
  | ok members =>
    show Except.ok (Target.membership column keyword members) = .ok (compared column _)
    rw [Target.membership, compared, String.append_assoc, List.append_assoc]
    rfl

theorem exists_map_listTest {items : List Value} (h : items ≠ []) :
    ∃ rest : Except Error (String × List Piece), ∀ column,
      t.listTest column field op items = rest.map (compared column) := by
  obtain ⟨item, items, rfl⟩ := List.exists_cons_of_ne_nil h
  cases op with
  | eq => exact exists_map_membership (t.literal field (.list (item :: items))) "IN"
  | ne => exact exists_map_membership (t.literal field (.list (item :: items))) "NOT IN"
  | between =>
    match items with
    | [high] =>
      refine ⟨do
        let low ← t.literal field item
        let high ← t.literal field high
        return ("BETWEEN ", low ++ .text " AND " :: high), fun column => ?_⟩
      rw [Target.listTest]
      cases t.literal field item with
      | error e => rfl
      | ok low =>
        cases t.literal field high with
        | error e => rfl
        | ok high => exact congrArg Except.ok (List.append_assoc _ _ _)
    | [] => exact ⟨.error _, fun _ => rfl⟩
    | _ :: _ :: _ => exact ⟨.error _, fun _ => rfl⟩
  | _ => exact ⟨.error _, fun _ => rfl⟩

theorem exists_map_test_of_isScalar {value : Value} (hs : value.isScalar = true) :
    ∃ rest : Except Error (String × List Piece), ∀ column,
      t.test column field op value = rest.map (compared column) := by
  have hliteral : ∃ rest : Except Error (String × List Piece), ∀ column,
      (do return column ++ .text (" " ++ op.sql ++ " ") :: (← t.literal field value)) =
        rest.map (compared column) := by
    refine ⟨(t.literal field value).map fun literal => (op.sql ++ " ", literal), fun column => ?_⟩
    rw [String.append_assoc]
    cases t.literal field value <;> rfl
  cases value with
  | null =>
    cases op with
    | eq => exact ⟨.ok ("IS NULL", []), fun _ => rfl⟩
    | ne => exact ⟨.ok ("IS NOT NULL", []), fun _ => rfl⟩
    | between => exact ⟨.error _, fun _ => rfl⟩
    | _ => exact hliteral
  | list items => cases hs
  | query q => cases hs
  | _ =>
    cases op with
    | between => exact ⟨.error _, fun _ => rfl⟩
    | _ => exact hliteral

/-- A test begins with its column and a blank, unless it compares with the empty list, and
depends on the column in nothing else. -/
theorem exists_map_test {value : Value} (h : value ≠ .list []) :
    ∃ rest : Except Error (String × List Piece), ∀ column,
      (test scope column field op value).outcome = rest.map (compared column) := by
  cases value with
  | list items =>
    have hne : items ≠ [] := fun hnil => h (congrArg Value.list hnil)
    obtain ⟨rest, hrest⟩ := exists_map_listTest scope.target field op hne
    refine ⟨rest, fun column => ?_⟩
    rw [← hrest column]
    cases op <;> rfl
  | query q =>
    obtain ⟨isIn, hin⟩ :=
      exists_map_membership (select scope.context (scope.depth + 1) q).outcome "IN"
    obtain ⟨isNotIn, hnotIn⟩ :=
      exists_map_membership (select scope.context (scope.depth + 1) q).outcome "NOT IN"
    cases op with
    | eq =>
      refine ⟨isIn, fun column => ?_⟩
      rw [← hin column, test, Lookups.outcome_bind]
      rfl
    | ne =>
      refine ⟨isNotIn, fun column => ?_⟩
      rw [← hnotIn column, test, Lookups.outcome_bind]
      rfl
    | _ => exact ⟨.error _, fun _ => rfl⟩
  | _ => exact exists_map_test_of_isScalar scope.target field op rfl

theorem exists_rest_of_test {scope : Scope} {column pieces : List Piece} {field : String}
    {op : Operator} {value : Value} (hvalue : value ≠ .list [])
    (h : (test scope column field op value).outcome = .ok pieces) :
    ∃ rest, pieces = compared column rest := by
  obtain ⟨rest, hrest⟩ := exists_map_test scope field op hvalue
  rw [hrest column, map_eq_ok_iff] at h
  obtain ⟨rest, -, rfl⟩ := h
  exact ⟨rest, rfl⟩

theorem render_compared (g : Generator) (column : List Piece) (rest : String × List Piece) :
    g.render (compared column rest) =
      g.render column ++ " " ++ (rest.1 ++ g.render rest.2) := by
  rw [compared, Generator.render_append, Generator.render_cons, Generator.renderPiece]
  simp only [String.append_assoc]

/-- A test against the empty list does not mention its column. -/
theorem outcome_test_emptyList (column column' : List Piece) :
    (test scope column field op (.list [])).outcome =
      (test scope column' field op (.list [])).outcome := by
  cases op <;> rfl

end Columns

end Sql

end RelQuery
