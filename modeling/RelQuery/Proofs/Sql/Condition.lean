import RelQuery.Proofs.Sql.Formula
import RelQuery.Proofs.Sql.Writer

/-!
# Conditions and their formulas

A condition has a truth value of its own, which knows nothing of text: a group
is its members under its connective, and members that say nothing are left out.
The condition that is written has a truth value too, by the way a database reads
formulas.  Here the two are the same (`whereOptional_reads`).  The proof is about
pieces, and the text of the clause is that of its pieces.

Two facts carry the proof, each along the recursion of the writer.

* The writer leaves out a condition exactly when it is blank
  (`fragment_eq_none_iff`).  Blank conditions hold no test, so nothing can fail
  in them.
* What it writes for a member of a group is a formula with the truth value of
  the member (`fragment_writes`).
-/

namespace RelQuery

/-! ## Truth values -/

/-- Truth values for the tests and the raw text of a condition. -/
structure Interpretation where
  /-- The truth value of a test. -/
  test : String → Operator → Value → Bool
  /-- The truth value of raw text without outer blanks. -/
  raw : String → Bool

mutual

/-- The truth value of a condition. -/
def Condition.holds (i : Interpretation) : Condition → Bool
  | .leaf field op value => i.test field op value
  | .raw sql => i.raw (Text.trim sql)
  | .group connective members => connective.combine (Condition.truths i members)

/-- The truth values of the members of a group that say something. -/
def Condition.truths (i : Interpretation) : List Condition → List Bool
  | [] => []
  | c :: cs =>
    if c.isBlank then Condition.truths i cs else c.holds i :: Condition.truths i cs

end

/-- The field of a test as it is written: as it stands where the test is the
whole condition, and as a column elsewhere. -/
def Scope.written (scope : Scope) (lone : Bool) (field : String) : List Piece :=
  if lone then [.text field] else scope.target.column scope.qualifier field

/-- The truth values of tests and raw text by the truth values of what is
written for them.  A test that cannot be written counts as false. -/
def Scope.interpretation (scope : Scope) (lone : Bool) (truth : List Piece → Bool) :
    Interpretation where
  test field op value :=
    match (Sql.test scope (scope.written lone field) field op value).outcome with
    | .ok pieces => truth pieces
    | .error _ => false
  raw sql := truth [.text sql]

/-! ## Blank conditions -/

/-- Whether a condition is part of a condition. -/
inductive Condition.IsPartOf (part : Condition) : Condition → Prop where
  /-- A condition is part of itself. -/
  | self : IsPartOf part part
  /-- A part of a member is part of the group. -/
  | member {connective : Connective} {members : List Condition} {c : Condition}
      (mem : c ∈ members) (h : IsPartOf part c) : IsPartOf part (.group connective members)

/-- Whether a condition that is no group says nothing. -/
def Condition.IsSilent : Condition → Prop
  | .leaf .. => False
  | .raw sql => Text.isBlankText sql = true
  | .group .. => True

mutual

/-- A condition is blank when it holds no test and only blank text. -/
theorem Condition.isBlank_iff : ∀ c : Condition,
    c.isBlank = true ↔ ∀ part : Condition, part.IsPartOf c → part.IsSilent
  | .leaf field op value => by
    rw [Condition.isBlank]
    exact ⟨fun h => by simp at h, fun h => (h _ .self).elim⟩
  | .raw sql => by
    rw [Condition.isBlank]
    constructor
    · intro h part hpart
      cases hpart
      exact h
    · intro h
      exact h _ .self
  | .group connective members => by
    rw [Condition.isBlank, Condition.allBlank_iff members]
    constructor
    · intro h part hpart
      cases hpart with
      | self => trivial
      | member mem hc => exact h _ mem part hc
    · intro h c mem part hpart
      exact h part (.member mem hpart)

/-- Conditions are blank when all their parts say nothing. -/
theorem Condition.allBlank_iff : ∀ cs : List Condition,
    Condition.allBlank cs = true ↔ ∀ c ∈ cs, ∀ part : Condition, part.IsPartOf c → part.IsSilent
  | [] => by simp [Condition.allBlank]
  | c :: cs => by
    rw [Condition.allBlank, Bool.and_eq_true, Condition.isBlank_iff c, Condition.allBlank_iff cs,
      List.forall_mem_cons]

end

/-! ## What the writer leaves out -/

namespace Fragment

/-- Raw text is left out when it is blank. -/
theorem ofRaw?_eq_none_iff {sql : String} :
    ofRaw? sql = none ↔ Text.isBlankText sql = true := by
  rw [← Text.trim_eq_empty_iff, ofRaw?]
  by_cases h : Text.trim sql = ""
  · simp [h]
  · simp [h]

/-- Raw text that is not left out is one atom. -/
theorem eq_of_ofRaw? {sql : String} {m : Fragment} (h : ofRaw? sql = some m) :
    m = ⟨[.atom [.text (Text.trim sql)]], true⟩ := by
  rw [ofRaw?] at h
  by_cases hblank : Text.trim sql = ""
  · simp [hblank] at h
  · simpa [hblank] using h.symm

/-- A group is left out when no member is written. -/
theorem join_eq_none_iff {c : Connective} {ms : List Fragment} : join c ms = none ↔ ms = [] := by
  match ms with
  | [] => simp [join]
  | [m] => simp [join]
  | m :: m' :: ms => simp [join]

end Fragment

namespace Sql

/-- What is written for a group inside another group. -/
theorem outcome_fragment_group (scope : Scope) (connective : Connective)
    (members : List Condition) :
    (fragment scope (.group connective members)).outcome =
      (fragments scope members).outcome.map fun ms =>
        (Fragment.join connective ms).map fun tokens => ⟨Token.enclose tokens, false⟩ := by
  rw [fragment, Lookups.outcome_bind]
  cases (fragments scope members).outcome with
  | error e => rfl
  | ok ms => rfl

mutual

/-- A member of a group is left out exactly when it is blank. -/
theorem fragment_eq_none_iff (scope : Scope) : ∀ c : Condition,
    (fragment scope c).outcome = .ok none ↔ c.isBlank = true
  | .raw sql => by
    rw [fragment, Condition.isBlank, Lookups.outcome_pure, Except.ok.injEq]
    exact Fragment.ofRaw?_eq_none_iff
  | .leaf field op value => by
    rw [fragment, Condition.isBlank, Lookups.outcome_bind, bind_eq_ok_iff]
    simp
  | .group connective members => by
    rw [outcome_fragment_group, Condition.isBlank, map_eq_ok_iff]
    simp only [Option.map_eq_none_iff, Fragment.join_eq_none_iff, exists_eq_right]
    exact fragments_eq_nil_iff scope members

/-- No member of a group is written exactly when all are blank. -/
theorem fragments_eq_nil_iff (scope : Scope) : ∀ cs : List Condition,
    (fragments scope cs).outcome = .ok [] ↔ Condition.allBlank cs = true
  | [] => by simp [fragments, Condition.allBlank]
  | c :: cs => by
    rw [fragments, Condition.allBlank, Bool.and_eq_true, ← fragment_eq_none_iff scope c,
      ← fragments_eq_nil_iff scope cs, Lookups.outcome_bind, bind_eq_ok_iff]
    simp only [Lookups.outcome_bind, bind_eq_ok_iff, Lookups.outcome_pure, Except.ok.injEq,
      List.append_eq_nil_iff, Option.toList_eq_nil_iff]
    constructor
    · rintro ⟨first, hfirst, rest, hrest, rfl, rfl⟩
      exact ⟨hfirst, hrest⟩
    · rintro ⟨hfirst, hrest⟩
      exact ⟨none, hfirst, [], hrest, rfl, rfl⟩

end

/-- A condition that is one test is written as that test, its field as it stands. -/
theorem outcome_whereFormula_of_lone (scope : Scope) {c : Condition} (h : c.isLone = true) :
    ∃ field op value, c.isBlank = false ∧
      (∀ truth, c.holds (scope.interpretation true truth) =
        (scope.interpretation true truth).test field op value) ∧
      (whereFormula scope c).outcome =
        (test scope [.text field] field op value).outcome.map fun ps => some [.atom ps] := by
  cases c with
  | raw sql => cases h
  | leaf field op value =>
    exact ⟨field, op, value, rfl, fun truth => rfl, outcome_whereFormula_leaf scope field op value⟩
  | group connective members =>
    obtain ⟨field, op, value, rfl⟩ := Condition.exists_leaf_of_isLone h
    refine ⟨field, op, value, rfl, fun truth => ?_, ?_⟩
    · cases connective <;>
        simp [Condition.holds, Condition.truths, Condition.isBlank, Connective.combine]
    · rw [whereFormula_alone, outcome_whereFormula_leaf]

/-- A statement has no condition exactly when its condition is blank. -/
theorem whereFormula_eq_none_iff (scope : Scope) (c : Condition) :
    (whereFormula scope c).outcome = .ok none ↔ c.isBlank = true := by
  cases hlone : c.isLone with
  | true =>
    obtain ⟨field, op, value, hblank, -, hout⟩ := outcome_whereFormula_of_lone scope hlone
    rw [hout, hblank, map_eq_ok_iff]
    simp
  | false =>
    cases c with
    | leaf field op value => simp [Condition.isLone] at hlone
    | raw sql =>
      rw [whereFormula, Condition.isBlank, Lookups.outcome_pure, Except.ok.injEq,
        Option.map_eq_none_iff]
      exact Fragment.ofRaw?_eq_none_iff
    | group connective members =>
      rw [outcome_whereFormula_group scope hlone, Condition.isBlank, map_eq_ok_iff]
      simp only [Fragment.join_eq_none_iff, exists_eq_right]
      exact fragments_eq_nil_iff scope members

/-! ## What the writer writes -/

mutual

/-- What is written for a member of a group is a formula with the truth value of
the member. -/
theorem fragment_writes (scope : Scope) : ∀ (c : Condition) {m : Fragment},
    (fragment scope c).outcome = .ok (some m) →
      ∃ f, m.Writes f ∧ ∀ truth, f.eval truth = c.holds (scope.interpretation false truth)
  | .raw sql, m, h => by
    rw [fragment, Lookups.outcome_pure, Except.ok.injEq] at h
    rw [Fragment.eq_of_ofRaw? h]
    exact ⟨_, .of_raw (Token.isOperand_atom _).spells rfl, fun truth => rfl⟩
  | .leaf field op value, m, h => by
    rw [fragment, Lookups.outcome_bind, bind_eq_ok_iff] at h
    obtain ⟨pieces, htest, hm⟩ := h
    cases hm
    refine ⟨.atom pieces, .of_operand (Token.isOperand_atom pieces) rfl, fun truth => ?_⟩
    simp [Condition.holds, Scope.interpretation, Scope.written, htest, Formula.eval]
  | .group connective members, m, h => by
    rw [outcome_fragment_group, map_eq_ok_iff] at h
    obtain ⟨ms, hmembers, hm⟩ := h
    obtain ⟨tokens, hjoin, rfl⟩ := Option.map_eq_some_iff.mp hm
    obtain ⟨fs, hms, htruths⟩ := fragments_write scope members hmembers
    obtain ⟨f, hspells, htruth⟩ := Fragment.spells_join hms hjoin
    refine ⟨f, .of_operand hspells.isOperand_enclose rfl, fun truth => ?_⟩
    rw [htruth, htruths, Condition.holds]

/-- What is written for the members of a group are formulas with the truth
values of the members that say something. -/
theorem fragments_write (scope : Scope) : ∀ (cs : List Condition) {ms : List Fragment},
    (fragments scope cs).outcome = .ok ms →
      ∃ fs, List.Forall₂ Fragment.Writes ms fs ∧ ∀ truth,
        fs.map (Formula.eval truth) = Condition.truths (scope.interpretation false truth) cs
  | [], ms, h => by
    rw [fragments, Lookups.outcome_pure] at h
    cases h
    exact ⟨[], .nil, fun truth => rfl⟩
  | c :: cs, ms, h => by
    rw [fragments, Lookups.outcome_bind, bind_eq_ok_iff] at h
    obtain ⟨first, hfirst, h⟩ := h
    rw [Lookups.outcome_bind, bind_eq_ok_iff] at h
    obtain ⟨rest, hrest, hms⟩ := h
    cases hms
    obtain ⟨fs, hwrites, htruths⟩ := fragments_write scope cs hrest
    have hblank := fragment_eq_none_iff scope c
    rw [hfirst] at hblank
    cases first with
    | none =>
      refine ⟨fs, hwrites, fun truth => ?_⟩
      rw [htruths, Condition.truths, if_pos (hblank.mp rfl)]
    | some m =>
      obtain ⟨f, hm, htruth⟩ := fragment_writes scope c hfirst
      refine ⟨f :: fs, .cons hm hwrites, fun truth => ?_⟩
      rw [Condition.truths, if_neg (by simp [← hblank]), List.map_cons, htruth, htruths]

end

/-- The formula of a statement is read with the truth value of its condition. -/
theorem whereFormula_spells (scope : Scope) {c : Condition} {tokens : List Token}
    (h : (whereFormula scope c).outcome = .ok (some tokens)) :
    ∃ f, Token.Spells tokens f ∧
      ∀ truth, f.eval truth = c.holds (scope.interpretation c.isLone truth) := by
  cases hlone : c.isLone with
  | true =>
    obtain ⟨field, op, value, -, hholds, hout⟩ := outcome_whereFormula_of_lone scope hlone
    rw [hout, map_eq_ok_iff] at h
    obtain ⟨pieces, htest, htokens⟩ := h
    cases htokens
    refine ⟨.atom pieces, (Token.isOperand_atom pieces).spells, fun truth => ?_⟩
    rw [hholds]
    simp [Scope.interpretation, Scope.written, htest, Formula.eval]
  | false =>
    cases c with
    | leaf field op value => simp [Condition.isLone] at hlone
    | raw sql =>
      rw [whereFormula, Lookups.outcome_pure, Except.ok.injEq, Option.map_eq_some_iff] at h
      obtain ⟨m, hraw, rfl⟩ := h
      rw [Fragment.eq_of_ofRaw? hraw]
      exact ⟨_, (Token.isOperand_atom _).spells, fun truth => rfl⟩
    | group connective members =>
      rw [outcome_whereFormula_group scope hlone, map_eq_ok_iff] at h
      obtain ⟨ms, hmembers, hjoin⟩ := h
      obtain ⟨fs, hms, htruths⟩ := fragments_write scope members hmembers
      obtain ⟨f, hspells, htruth⟩ := Fragment.spells_join hms hjoin
      refine ⟨f, hspells, fun truth => ?_⟩
      rw [htruth, htruths, Condition.holds]

/-! ## The condition of a statement -/

/-- The clause of a condition is `WHERE` and a body, and the body is read as a
formula with the truth value of the condition, whatever the truth values of its
tests and raw texts. -/
theorem whereOptional_reads {g : Generator} {scope : Scope} {c : Condition} {text : String}
    (h : (g.whereOptional scope (some c)).outcome = .ok (some text)) :
    ∃ tokens f, (whereFormula scope c).outcome = .ok (some tokens) ∧
      text = "WHERE " ++ g.render (Token.piecesOf tokens) ∧
      Formula.read? tokens = some f ∧
      ∀ truth, f.eval truth = c.holds (scope.interpretation c.isLone truth) := by
  rw [Generator.outcome_whereOptional_some, map_eq_ok_iff] at h
  obtain ⟨formula, hformula, hclause⟩ := h
  obtain ⟨tokens, rfl, rfl⟩ := Option.map_eq_some_iff.mp hclause
  obtain ⟨f, hspells, htruth⟩ := whereFormula_spells scope hformula
  exact ⟨tokens, f, hformula, rfl, hspells.read?, htruth⟩

/-- A read of posts, of which one field is declared. -/
def postScope : Scope :=
  ⟨⟨fun _ => .ok {}, 32⟩, ⟨⟨"Post", "posts", "id"⟩, ⟨[("id", .integer)]⟩⟩, some "Post", 0⟩

/-- A conjunction of a disjunction with raw text in it, of a group that says
nothing, and of a test of an expression. -/
def mixedCondition : Condition :=
  .group .and
    [.group .or [.leaf "id" .eq .null, .raw " x = 1 OR y = 2 ", .raw " "],
      .group .or [],
      .leaf "COUNT(x)" .ne (.list [])]

theorem whereOptional_reads_mixedCondition :
    (Dialect.ansi.generator.whereOptional postScope (some mixedCondition)).outcome =
        .ok (some "WHERE (\"Post\".\"id\" IS NULL OR (x = 1 OR y = 2)) AND 1 = 1") ∧
      ∃ tokens f, (whereFormula postScope mixedCondition).outcome = .ok (some tokens) ∧
        "WHERE (\"Post\".\"id\" IS NULL OR (x = 1 OR y = 2)) AND 1 = 1" =
          "WHERE " ++ Dialect.ansi.generator.render (Token.piecesOf tokens) ∧
        Formula.read? tokens = some f ∧
        ∀ truth, f.eval truth =
          mixedCondition.holds (postScope.interpretation mixedCondition.isLone truth) :=
  ⟨rfl, whereOptional_reads rfl⟩

end Sql

end RelQuery
