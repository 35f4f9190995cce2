import RelQuery.Proofs.Sql.Column

/-!
# Conditions without their blank members

A member of a group that says nothing is left out when the group is written.  So leaving
it out of the condition (`Condition.Prunes`) changes nothing inside a group
(`outcome_fragment_of_prunes`).

The outermost group is different.  Whether a test stands alone is decided before blank
members are left out, and a test that stands alone keeps its field as it is written.  Where
leaving out blank members is what leaves the test alone, its field is a column before and
not after, and the two texts are the same only if nothing comes of that
(`whereText_eq_iff_of_prunes`).
-/

namespace RelQuery

namespace Condition

mutual

/-- Whether a condition is another one without some blank members of its groups. -/
inductive Prunes : Condition → Condition → Prop where
  /-- A test stays. -/
  | leaf (field : String) (op : Operator) (value : Value) :
      Prunes (.leaf field op value) (.leaf field op value)
  /-- Raw text stays. -/
  | raw (sql : String) : Prunes (.raw sql) (.raw sql)
  /-- A group stays and loses members. -/
  | group (connective : Connective) {cs cs' : List Condition} (h : PrunesAll cs cs') :
      Prunes (.group connective cs) (.group connective cs')

/-- Whether members are others without some blank ones. -/
inductive PrunesAll : List Condition → List Condition → Prop where
  /-- No member is left. -/
  | nil : PrunesAll [] []
  /-- A member stays. -/
  | keep {c c' : Condition} {cs cs' : List Condition} (hc : Prunes c c') (h : PrunesAll cs cs') :
      PrunesAll (c :: cs) (c' :: cs')
  /-- A blank member goes. -/
  | drop {c : Condition} {cs cs' : List Condition} (hc : c.isBlank = true)
      (h : PrunesAll cs cs') : PrunesAll (c :: cs) cs'

end

mutual

theorem Prunes.isBlank_eq : ∀ {c c' : Condition}, c.Prunes c' → c'.isBlank = c.isBlank
  | _, _, .leaf _ _ _ => rfl
  | _, _, .raw _ => rfl
  | _, _, .group _ h => by rw [isBlank, isBlank, h.allBlank_eq]

theorem PrunesAll.allBlank_eq : ∀ {cs cs' : List Condition},
    PrunesAll cs cs' → allBlank cs' = allBlank cs
  | _, _, .nil => rfl
  | _, _, .keep hc h => by rw [allBlank, allBlank, hc.isBlank_eq, h.allBlank_eq]
  | _, _, .drop hc h => by rw [allBlank, hc, h.allBlank_eq, Bool.true_and]

end

/-- A group that says something keeps a member, whatever blank ones go. -/
theorem PrunesAll.ne_nil {cs cs' : List Condition} (h : PrunesAll cs cs')
    (hcs : allBlank cs = false) : cs' ≠ [] := by
  rintro rfl
  rw [← h.allBlank_eq, allBlank] at hcs
  cases hcs

/-- A lone test stays as it is. -/
theorem Prunes.eq_of_isLone {c c' : Condition} (h : c.Prunes c') (hlone : c.isLone = true) :
    c' = c := by
  cases h with
  | leaf field op value => rfl
  | raw sql => cases hlone
  | group connective h =>
    obtain ⟨field, op, value, rfl⟩ := exists_leaf_of_isLone hlone
    cases h with
    | keep hc h =>
      cases hc
      cases h
      rfl
    | drop hc _ => cases hc

end Condition

namespace Sql

open Condition (Prunes PrunesAll)

variable {c c' : Condition}

theorem outcome_fragments_cons_of_isBlank (scope : Scope) (hc : c.isBlank = true)
    (cs : List Condition) :
    (fragments scope (c :: cs)).outcome = (fragments scope cs).outcome := by
  rw [fragments, Lookups.outcome_bind, (fragment_eq_none_iff scope c).mpr hc]
  show (fragments scope cs >>= fun rest => pure rest).outcome = _
  rw [Lookups.outcome_bind]
  cases (fragments scope cs).outcome <;> rfl

mutual

theorem outcome_fragment_of_prunes (scope : Scope) : ∀ {c c' : Condition}, c.Prunes c' →
    (fragment scope c').outcome = (fragment scope c).outcome
  | _, _, .leaf _ _ _ => rfl
  | _, _, .raw _ => rfl
  | _, _, .group connective h => by
    rw [outcome_fragment_group, outcome_fragment_group, outcome_fragments_of_prunesAll scope h]

theorem outcome_fragments_of_prunesAll (scope : Scope) : ∀ {cs cs' : List Condition},
    PrunesAll cs cs' → (fragments scope cs').outcome = (fragments scope cs).outcome
  | _, _, .nil => rfl
  | _, _, .keep hc h => by
    rw [fragments, fragments, Lookups.outcome_bind, Lookups.outcome_bind,
      outcome_fragment_of_prunes scope hc]
    simp only [Lookups.outcome_bind, outcome_fragments_of_prunesAll scope h]
  | _, _, .drop hc h => by
    rw [outcome_fragments_of_prunesAll scope h, outcome_fragments_cons_of_isBlank scope hc]

end

theorem outcome_whereFormula_of_prunes (scope : Scope) (h : c.Prunes c')
    (hlone : c'.isLone = c.isLone) :
    (whereFormula scope c').outcome = (whereFormula scope c).outcome := by
  cases hc : c.isLone with
  | true => rw [h.eq_of_isLone hc]
  | false =>
    rw [hc] at hlone
    cases h with
    | leaf field op value => rfl
    | raw sql => rfl
    | group connective h =>
      rw [outcome_whereFormula_group scope hlone, outcome_whereFormula_group scope hc,
        outcome_fragments_of_prunesAll scope h]

/-! ## Clauses -/

/-- The text of the clause of a condition, if the condition says anything. -/
def whereText (d : Dialect) (scope : Scope) (c : Condition) : Except Error (Option String) :=
  (d.generator.whereOptional scope (some c)).outcome

/-- The text of the clause of one test. -/
def testText (d : Dialect) (x : Except Error (List Piece)) : Except Error (Option String) :=
  x.map fun pieces => some ("WHERE " ++ d.generator.render pieces)

theorem whereText_of_test {d : Dialect} {scope : Scope} {x : Except Error (List Piece)}
    (h : (whereFormula scope c).outcome = x.map fun pieces => some [.atom pieces]) :
    whereText d scope c = testText d x := by
  rw [whereText, Generator.outcome_whereOptional_some, h]
  cases x with
  | error e => rfl
  | ok pieces =>
    have hpieces : Token.piecesOf [.atom pieces] = pieces := List.append_nil pieces
    show Except.ok (some ("WHERE " ++ d.generator.render (Token.piecesOf [.atom pieces]))) = _
    rw [hpieces]
    rfl

theorem outcome_fragments_leaf (scope : Scope) (field : String) (op : Operator) (value : Value) :
    (fragments scope [.leaf field op value]).outcome =
      (test scope (scope.written false field) field op value).outcome.map fun pieces =>
        [⟨[.atom pieces], false⟩] := by
  rw [fragments, fragments, fragment, Lookups.outcome_bind, Lookups.outcome_bind]
  show ((test scope (scope.written false field) field op value).outcome >>= _) >>= _ = _
  cases (test scope (scope.written false field) field op value).outcome <;> rfl

/-- Where leaving out blank members leaves a test alone, the test is written with a column
before, and with its field as it stands after. -/
theorem exists_test_of_prunes (d : Dialect) (scope : Scope) (h : c.Prunes c')
    (hc : c.isLone = false) (hc' : c'.isLone = true) :
    ∃ connective field op value, c' = .group connective [.leaf field op value] ∧
      whereText d scope c =
        testText d (test scope (scope.written false field) field op value).outcome ∧
      whereText d scope c' =
        testText d (test scope (scope.written true field) field op value).outcome := by
  cases h with
  | leaf field op value => cases hc
  | raw sql => cases hc'
  | group connective h =>
    obtain ⟨field, op, value, rfl⟩ := Condition.exists_leaf_of_isLone hc'
    refine ⟨connective, field, op, value, rfl, whereText_of_test ?_, whereText_of_test ?_⟩
    · rw [outcome_whereFormula_group scope hc, ← outcome_fragments_of_prunesAll scope h,
        outcome_fragments_leaf]
      cases (test scope (scope.written false field) field op value).outcome <;> rfl
    · rw [whereFormula_alone, outcome_whereFormula_leaf]
      rfl

/-- A test has the same text with a column and with its field as it stands in three cases:
it fails, it does not mention the field, or the column is the field. -/
theorem testText_eq_iff (d : Dialect) (scope : Scope) (field : String) (op : Operator)
    (value : Value) :
    testText d (test scope (scope.written true field) field op value).outcome =
        testText d (test scope (scope.written false field) field op value).outcome ↔
      (∃ e, (test scope (scope.written true field) field op value).outcome = .error e) ∨
        value = .list [] ∨
        ((scope.qualifier = none ∨ scope.target.isKnown field = false) ∧
          (d = .plain ∨ Text.isIdentifierPath field = false)) := by
  by_cases hvalue : value = .list []
  · subst hvalue
    rw [outcome_test_emptyList scope field op _ (scope.written false field)]
    simp
  · obtain ⟨rest, hrest⟩ := exists_map_test scope field op hvalue
    rw [hrest, hrest]
    cases rest with
    | error e => exact iff_of_true rfl (.inl ⟨e, rfl⟩)
    | ok rest =>
      rw [or_iff_right (by rintro ⟨e, he⟩; cases he), or_iff_right hvalue,
        ← d.render_column_eq_iff scope.target scope.qualifier field]
      have htext : ∀ column, testText d ((Except.ok rest).map (compared column)) =
          .ok (some ("WHERE " ++ (d.generator.render column ++
            (" " ++ (rest.1 ++ d.generator.render rest.2))))) := by
        intro column
        have hrender := render_compared d.generator column rest
        rw [String.append_assoc] at hrender
        rw [← hrender]
        rfl
      have hfield : d.generator.render (scope.written true field) = field := by
        simp [Scope.written]
      rw [htext, htext, hfield, Except.ok.injEq, Option.some.injEq, String.append_right_inj,
        String.append_left_inj]
      exact eq_comm

/-- A test fails as text where it fails as pieces. -/
theorem exists_error_leafText_iff (g : Generator) (scope : Scope) (field : String) (op : Operator)
    (value : Value) :
    (∃ e, (g.leafText scope field field op value).outcome = .error e) ↔
      ∃ e, (test scope (scope.written true field) field op value).outcome = .error e := by
  have htest := g.leafText_eq scope [.text field] field op value
  rw [Generator.render_text] at htest
  rw [htest, Lookups.outcome_map, Scope.written, if_pos rfl]
  cases (test scope [.text field] field op value).outcome with
  | error e => exact iff_of_true ⟨e, rfl⟩ ⟨e, rfl⟩
  | ok pieces => exact iff_of_false nofun nofun

/-- Leaving out blank members of groups leaves the text of the clause, or the error, as it is
exactly in these cases: it does not leave a test alone that was not alone, or that test
fails, does not mention its field, or has its field for its column. -/
theorem whereText_eq_iff_of_prunes (d : Dialect) (scope : Scope) (h : c.Prunes c') :
    whereText d scope c' = whereText d scope c ↔
      c'.isLone = c.isLone ∨ ∃ connective field op value,
        c' = .group connective [.leaf field op value] ∧
          ((∃ e, (d.generator.leafText scope field field op value).outcome = .error e) ∨
            value = .list [] ∨
            ((scope.qualifier = none ∨ scope.target.isKnown field = false) ∧
              (d = .plain ∨ Text.isIdentifierPath field = false))) := by
  by_cases hlone : c'.isLone = c.isLone
  · have hformula := outcome_whereFormula_of_prunes scope h hlone
    refine iff_of_true ?_ (.inl hlone)
    rw [whereText, whereText, Generator.outcome_whereOptional_some,
      Generator.outcome_whereOptional_some, hformula]
  · rw [or_iff_right hlone]
    have hc : c.isLone = false := by
      by_contra hc
      rw [h.eq_of_isLone (by simpa using hc)] at hlone
      exact hlone rfl
    have hc' : c'.isLone = true := by simpa [hc] using hlone
    obtain ⟨connective, field, op, value, rfl, hbefore, hafter⟩ :=
      exists_test_of_prunes d scope h hc hc'
    rw [hbefore, hafter, testText_eq_iff, ← exists_error_leafText_iff d.generator]
    constructor
    · intro hcases
      exact ⟨connective, field, op, value, rfl, hcases⟩
    · rintro ⟨connective', field', op', value', hsame, hcases⟩
      cases hsame
      exact hcases

/-- The mixed condition without its blank members. -/
def prunedCondition : Condition :=
  .group .and
    [.group .or [.leaf "id" .eq .null, .raw " x = 1 OR y = 2 "], .leaf "COUNT(x)" .ne (.list [])]

theorem prunes_mixedCondition : mixedCondition.Prunes prunedCondition :=
  .group .and (.keep (.group .or (.keep (.leaf _ _ _) (.keep (.raw _) (.drop rfl .nil))))
    (.drop rfl (.keep (.leaf _ _ _) .nil)))

theorem whereText_eq_iff_of_prunes_mixedCondition :
    mixedCondition.Prunes prunedCondition ∧
    (whereText .ansi postScope prunedCondition = whereText .ansi postScope mixedCondition ↔
      prunedCondition.isLone = mixedCondition.isLone ∨ ∃ connective field op value,
        prunedCondition = .group connective [.leaf field op value] ∧
          ((∃ e, (Dialect.ansi.generator.leafText postScope field field op value).outcome =
              .error e) ∨
            value = .list [] ∨
            ((postScope.qualifier = none ∨ postScope.target.isKnown field = false) ∧
              (Dialect.ansi = .plain ∨ Text.isIdentifierPath field = false)))) :=
  ⟨prunes_mixedCondition, whereText_eq_iff_of_prunes .ansi postScope prunes_mixedCondition⟩

/-- A test of a declared field, alone but for blank text, is written with a column, and
without the blank text with its field as it stands. -/
theorem exists_prunes_whereText_ne :
    (Condition.group .and [.raw " ", .leaf "id" .eq (.int 1)]).Prunes
        (.group .and [.leaf "id" .eq (.int 1)]) ∧
    whereText .ansi postScope (.group .and [.raw " ", .leaf "id" .eq (.int 1)]) =
      .ok (some "WHERE \"Post\".\"id\" = 1") ∧
    whereText .ansi postScope (.group .and [.leaf "id" .eq (.int 1)]) =
      .ok (some "WHERE id = 1") ∧
    ¬∀ (d : Dialect) (scope : Scope) (c c' : Condition), c.Prunes c' →
      whereText d scope c' = whereText d scope c := by
  have hprunes : (Condition.group .and [.raw " ", .leaf "id" .eq (.int 1)]).Prunes
      (.group .and [.leaf "id" .eq (.int 1)]) :=
    .group .and (.drop rfl (.keep (.leaf _ _ _) .nil))
  have hbefore : whereText .ansi postScope (.group .and [.raw " ", .leaf "id" .eq (.int 1)]) =
      .ok (some "WHERE \"Post\".\"id\" = 1") := rfl
  have hafter : whereText .ansi postScope (.group .and [.leaf "id" .eq (.int 1)]) =
      .ok (some "WHERE id = 1") := rfl
  refine ⟨hprunes, hbefore, hafter, fun hall => ?_⟩
  have hsame := hall .ansi postScope _ _ hprunes
  rw [hbefore, hafter] at hsame
  exact absurd (Option.some.inj (Except.ok.inj hsame)) (by decide)

end Sql

end RelQuery
