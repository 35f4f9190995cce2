import RelQuery.Proofs.Query.Spot
import RelQuery.Proofs.Sql.Template
import RelQuery.Proofs.Sql.Write

/-!
# The shape of statements

The scalars of a query have no influence on the shape of its statement.  Take any
spot of a scalar: a statement is compiled for every scalar that has a literal
there or for none, and its text is that literal between fixed fragments
(`compile_fill`).  There may be several places for the literal: an update writes
its key and tests it.

Each writer is uniform in the scalar, along the recursion of values, conditions
and queries (`uniform_test` to `uniform_select`).  Two things have to be seen to.

* Null is written in another shape than all other scalars, which is why fillers
  exclude it.
* A condition that is one test is written in another way than a group.  A scalar
  does not decide which of them a condition is (`uniform_whereFormula`), nor
  whether a condition is blank, nor which value of a payload is the key
  (`guardOf_fill_payload`).
-/

namespace RelQuery

variable {tag : TypeTag}

/-! ## Literals and tests -/

theorem Value.literals_eq_mapM (tag : TypeTag) (items : List Value) :
    literals tag items = items.mapM (literal tag) := by
  induction items with
  | nil => rfl
  | cons item items ih => rw [literals, ih, List.mapM_cons]

/-- The literal of a value depends on a scalar in it by the literal of the scalar. -/
theorem Value.Spot.uniform_literal (ctx : Context) (type : TypeTag) :
    ∀ spot : Value.Spot, spot.tag ctx type = tag →
      Uniform FillsTemplate fun i : Filler tag => (spot.fill i.value).literal type
  | .here, htag => by
    have htype : type = tag := htag
    subst htype
    refine (Uniform.ok FillsTemplate.hole).congr fun i => ?_
    rw [fill, Value.literal_of_isScalar i.isScalar, i.scalarLiteral]
    rfl
  | .item before spot after, htag => by
    have hitems := (uniform_literal ctx type spot htag).mapM (Value.literal type) before after
    refine (hitems.map fun F hF => hF.intercalate ", ").congr fun i => ?_
    rw [fill, Value.literal, Value.literals_eq_mapM]
  | .query spot, _ => Uniform.error _

namespace Target

variable {t : Target} {field : String}

theorem uniform_literal (ctx : Context) {spot : Value.Spot}
    (htag : spot.tag ctx (t.typeOf field) = tag) :
    Uniform FillsTemplate fun i : Filler tag => t.literal field (spot.fill i.value) :=
  (spot.uniform_literal ctx (t.typeOf field) htag).mapError

theorem fillsTemplate_membership (column : List Piece) (keyword : String)
    {F : Piece → List Piece} (hF : FillsTemplate F) :
    FillsTemplate fun p => membership column keyword (F p) :=
  (hF.cons _).between column _

/-- A test against a list depends on a member by its literal. -/
theorem uniform_listTest (column : List Piece) (op : Operator) {b : Filler tag → Value}
    (before after : List Value) (hone : Uniform FillsTemplate fun i => t.literal field (b i))
    (hlist : Uniform FillsTemplate fun i => t.literal field (.list (before ++ b i :: after))) :
    Uniform FillsTemplate fun i => t.listTest column field op (before ++ b i :: after) := by
  have hmembership : ∀ keyword, Uniform FillsTemplate fun i => do
      return membership column keyword (← t.literal field (.list (before ++ b i :: after))) :=
    fun keyword => hlist.bind fun F hF => Uniform.ok (fillsTemplate_membership column keyword hF)
  cases op with
  | eq => exact (hmembership "IN").congr fun i => by cases before <;> rfl
  | ne => exact (hmembership "NOT IN").congr fun i => by cases before <;> rfl
  | between =>
    -- A range has two members, and the scalar is in one of them.  Any other list is refused.
    match before, after with
    | [], [high] =>
      refine hone.bind fun F hF => Uniform.bind_const fun high _ => ?_
      exact Uniform.ok ((hF.cons _).between column (.text " AND " :: high))
    | [low], [] =>
      refine Uniform.bind_const fun low _ => hone.bind fun F hF => ?_
      exact Uniform.ok ((FillsTemplate.const (column ++ .text " BETWEEN " :: low)).append
        (hF.cons (.text " AND ")))
    | [], [] => exact Uniform.error _
    | [], _ :: _ :: _ => exact Uniform.error _
    | [_], _ :: _ => exact Uniform.error _
    | low :: high :: rest, after =>
      refine (Uniform.error fun i => Error.malformedBetween field
        (low :: high :: (rest ++ b i :: after)).length).congr fun i => ?_
      cases rest <;> rfl
  | _ => exact Uniform.error _

end Target

/-! ## Formulas -/

/-- Whether the pieces of a formula fill a template. -/
def FillsTokens (F : Piece → List Token) : Prop := FillsTemplate fun p => Token.piecesOf (F p)

theorem FillsTokens.append {F G : Piece → List Token} (hF : FillsTokens F) (hG : FillsTokens G) :
    FillsTokens fun p => F p ++ G p := by
  simp only [FillsTokens, Token.piecesOf, List.flatMap_append]
  exact FillsTemplate.append hF hG

theorem FillsTokens.const (tokens : List Token) : FillsTokens fun _ => tokens :=
  FillsTemplate.const _

theorem FillsTokens.atom {F : Piece → List Piece} (hF : FillsTemplate F) :
    FillsTokens fun p => [.atom (F p)] := by
  simpa [FillsTokens, Token.piecesOf, Token.pieces] using hF

theorem FillsTokens.enclose {F : Piece → List Token} (hF : FillsTokens F) :
    FillsTokens fun p => Token.enclose (F p) :=
  ((const [.opening]).append hF).append (const [.closing])

namespace Fragment

/-- Members of a group that are no raw text and fill a template. -/
inductive FillsMember : (Piece → Fragment) → Prop where
  /-- A formula. -/
  | formula {tokens : Piece → List Token} (h : FillsTokens tokens) :
    FillsMember fun p => ⟨tokens p, false⟩

theorem fillsTokens_chain (c : Connective) {F : Piece → List Fragment}
    (hF : Among FillsMember F) : FillsTokens fun p => chain c (F p) := by
  obtain ⟨before, after, @⟨tokens, htokens⟩⟩ := hF
  have hlast : FillsTokens fun p => chain c (⟨tokens p, false⟩ :: after) := by
    cases after with
    | nil => exact htokens
    | cons m after => exact htokens.append (.const _)
  induction before with
  | nil => exact hlast
  | cons m before ih =>
    have hcons : ∀ p, chain c (m :: (before ++ ⟨tokens p, false⟩ :: after)) =
        (m.beside ++ [.connective c]) ++ chain c (before ++ ⟨tokens p, false⟩ :: after) := by
      intro p
      cases before <;> simp [chain]
    simp only [List.cons_append, hcons]
    exact (FillsTokens.const _).append ih

theorem fillsTokens_join (c : Connective) {F : Piece → List Fragment}
    (hF : Among FillsMember F) : Present FillsTokens fun p => join c (F p) := by
  have hchain := fillsTokens_chain c hF
  obtain ⟨before, after, @⟨tokens, htokens⟩⟩ := hF
  match before, after with
  | [], [] => exact .some htokens
  | [], m :: after => exact .some hchain
  | [m], after => exact .some hchain
  | m :: m' :: before, after => exact .some hchain

/-- Members that say nothing are left out. -/
theorem among_flatMap {F : Piece → List (Option Fragment)} (hF : Among (Present FillsMember) F) :
    Among FillsMember fun p => (F p).flatMap Option.toList := by
  obtain ⟨before, after, @⟨G, hG⟩⟩ := hF
  simp only [List.flatMap_append, List.flatMap_cons]
  exact .member _ _ hG

end Fragment

namespace Sql

open Fragment (FillsMember)

theorem uniform_test_here (scope : Scope) (column : List Piece) (field : String) (op : Operator)
    (htag : Value.Spot.here.tag scope.context (scope.target.typeOf field) = tag) :
    Uniform FillsTemplate fun i : Filler tag =>
      (test scope column field op i.value).outcome := by
  have hliteral : Uniform FillsTemplate fun i : Filler tag => scope.target.literal field i.value :=
    Target.uniform_literal scope.context htag
  have htest : ∀ i : Filler tag, _ = _ := fun i =>
    (outcome_test_eq_target_test scope column field op i.isScalar).trans
      (target_test_of_isScalar column field op i.isScalar i.isNull)
  refine Uniform.congr ?_ htest
  split
  next => exact Uniform.error _
  next => exact hliteral.map fun F hF => (FillsTemplate.const column).append (hF.cons _)

theorem outcome_fragments (scope : Scope) (cs : List Condition) :
    (fragments scope cs).outcome =
      (cs.mapM fun c => (fragment scope c).outcome).map (List.flatMap Option.toList) := by
  induction cs with
  | nil => rfl
  | cons c cs ih =>
    rw [fragments, Lookups.outcome_bind, List.mapM_cons]
    simp only [Lookups.outcome_bind, ih]
    cases (fragment scope c).outcome with
    | error e => rfl
    | ok first =>
      cases cs.mapM fun c => (fragment scope c).outcome with
      | error e => rfl
      | ok rest => rfl

theorem uniform_fragments (scope : Scope) {b : Filler tag → Condition}
    (hb : Uniform (Present FillsMember) fun i => (fragment scope (b i)).outcome)
    (before after : List Condition) :
    Uniform (Among FillsMember) fun i => (fragments scope (before ++ b i :: after)).outcome := by
  have hmembers := Uniform.mapM (fun c => (fragment scope c).outcome) hb before after
  refine (hmembers.map fun F hF => Fragment.among_flatMap hF).congr fun i => ?_
  exact outcome_fragments scope _

/-- A read is its parts, of which only the condition holds values. -/
theorem outcome_select (ctx : Context) (depth : Nat) (q : Query) :
    (select ctx depth q).outcome = do
      ctx.checkDepth depth
      let t ← (ctx.target q.kind q.model).outcome
      let joined ← Clause.joins ctx (depth + 1) q.joins
      let filter ← (whereOptional ⟨ctx, t, some t.model.name, depth⟩ q.conditions).outcome
      return .text "SELECT " :: Clause.fields q.fields ++ .text " FROM " :: Clause.source t.model
        ++ joined.flatMap (fun clause => .text " " :: clause)
        ++ Clause.after filter
        ++ Clause.after (Clause.order t q.order)
        ++ Clause.after (Clause.limit q.limit q.offset) := by
  cases q
  simp only [select, Lookups.outcome_bind, Lookups.outcome_ofExcept, Lookups.outcome_pure]
  rfl

theorem uniform_whereOptional (scope : Scope) {b : Filler tag → Condition}
    (hb : Uniform (Present FillsTokens) fun i => (whereFormula scope (b i)).outcome) :
    Uniform (Present FillsTemplate) fun i => (whereOptional scope (some (b i))).outcome := by
  simp only [whereOptional, Lookups.outcome_bind, Lookups.outcome_pure]
  refine hb.bind fun F hF => ?_
  obtain @⟨tokens, htokens⟩ := hF
  exact Uniform.ok (Present.some (FillsTemplate.cons (.text "WHERE ") htokens))

theorem fillsTemplate_after {F : Piece → Option (List Piece)} (hF : Present FillsTemplate F) :
    FillsTemplate fun p => Clause.after (F p) := by
  obtain @⟨G, hG⟩ := hF
  exact .cons _ hG

mutual

/-- A test depends on a scalar in its value by the literal of the scalar. -/
theorem uniform_test (scope : Scope) (column : List Piece) (field : String) (op : Operator) :
    ∀ spot : Value.Spot, spot.tag scope.context (scope.target.typeOf field) = tag →
      Uniform FillsTemplate fun i : Filler tag =>
        (test scope column field op (spot.fill i.value)).outcome
  | .here, htag => uniform_test_here scope column field op htag
  | .item before spot after, htag => by
    have hlist : (Value.Spot.item before spot after).tag scope.context
        (scope.target.typeOf field) = tag := htag
    exact Target.uniform_listTest column op before after
      (Target.uniform_literal scope.context htag) (Target.uniform_literal scope.context hlist)
  | .query spot, htag => by
    have hselect := uniform_select scope.context (scope.depth + 1) spot htag
    have hmembership : ∀ keyword, Uniform FillsTemplate fun i : Filler tag =>
        (do return Target.membership column keyword
              (← select scope.context (scope.depth + 1) (spot.fill i.value)) :
          Lookups (List Piece)).outcome := by
      intro keyword
      simp only [Lookups.outcome_bind, Lookups.outcome_pure]
      exact hselect.bind fun F hF =>
        Uniform.ok (Target.fillsTemplate_membership column keyword hF)
    simp only [Value.Spot.fill, test]
    cases op with
    | eq => exact hmembership "IN"
    | ne => exact hmembership "NOT IN"
    | _ => exact Uniform.error _

/-- A member of a group depends on a scalar in it by the literal of the scalar. -/
theorem uniform_fragment (scope : Scope) :
    ∀ spot : Condition.Spot, spot.tag scope.context scope.target.typeOf = tag →
      Uniform (Present FillsMember) fun i : Filler tag =>
        (fragment scope (spot.fill i.value)).outcome
  | .leaf field op spot, htag => by
    have htest := uniform_test scope (scope.target.column scope.qualifier field) field op spot htag
    simp only [Condition.Spot.fill, fragment, Lookups.outcome_bind, Lookups.outcome_pure]
    exact htest.bind fun F hF =>
      Uniform.ok (Present.some (FillsMember.formula (FillsTokens.atom hF)))
  | .member connective before spot after, htag => by
    have hmembers := uniform_fragments scope (uniform_fragment scope spot htag) before after
    simp only [Condition.Spot.fill, outcome_fragment_group]
    exact hmembers.map fun F hF => (Fragment.fillsTokens_join connective hF).map
      fun tokens htokens => .formula htokens.enclose

/-- A condition depends on a scalar in it by the literal of the scalar. -/
theorem uniform_whereFormula (scope : Scope) :
    ∀ spot : Condition.Spot, spot.tag scope.context scope.target.typeOf = tag →
      Uniform (Present FillsTokens) fun i : Filler tag =>
        (whereFormula scope (spot.fill i.value)).outcome
  | .leaf field op spot, htag => by
    simp only [Condition.Spot.fill, whereFormula, Lookups.outcome_bind, Lookups.outcome_pure]
    exact (uniform_test scope [.text field] field op spot htag).bind fun F hF =>
      Uniform.ok (Present.some (FillsTokens.atom hF))
  | .member connective before spot after, htag => by
    have hmembers := uniform_fragments scope (uniform_fragment scope spot htag) before after
    match before, spot, after, Condition.Spot.outermost connective before spot after with
    | _, _, _, .alone field op spot =>
      simp only [Condition.Spot.fill, List.nil_append, whereFormula_alone]
      exact uniform_whereFormula scope (.leaf field op spot) htag
    | before, spot, after, .joined hjoined =>
      refine (hmembers.map fun _ => Fragment.fillsTokens_join connective).congr fun i => ?_
      exact outcome_whereFormula_group scope (hjoined i.value)

/-- A read depends on a scalar in it by the literal of the scalar. -/
theorem uniform_select (ctx : Context) (depth : Nat) :
    ∀ spot : Query.Spot, spot.tag ctx = tag →
      Uniform FillsTemplate fun i : Filler tag => (select ctx depth (spot.fill i.value)).outcome
  | .condition q spot, htag => by
    simp only [outcome_select, Query.Spot.fill]
    refine Uniform.bind_const fun _ _ => Uniform.bind_const fun t ht =>
      Uniform.bind_const fun joined _ => ?_
    have hformula := uniform_whereFormula ⟨ctx, t, some t.model.name, depth⟩ spot
      (Context.typeOf_eq ht ▸ htag)
    refine (uniform_whereOptional _ hformula).bind fun F hF => ?_
    exact Uniform.ok (((fillsTemplate_after hF).between _ _).append (.const _))
  | .payload q before field spot after, htag => by
    -- A read makes no use of its payload.
    refine Uniform.of_forall_eq (fun i j => ?_) FillsTemplate.const
    rw [outcome_select, outcome_select]
    rfl
  | .join q before spot after, htag => by
    refine Uniform.of_forall_eq (fun i j => ?_) FillsTemplate.const
    have hjoined := spot.joined_fill ctx i.value j.value (depth + 1)
    have hjoins := Clause.joins_congr hjoined before after
    rw [outcome_select, outcome_select]
    simp only [Query.Spot.fill, hjoins]

end

/-! ## Payloads -/

theorem payload_append_cons (kind : Kind) (t : Target) (before after : Entries Value)
    (entry : String × Value) :
    payload kind t (some (before ++ entry :: after)) = .ok (before ++ entry :: after) :=
  payload_eq_ok_iff.mpr ⟨rfl, by simp⟩

theorem writtenLiterals_eq_mapM (t : Target) (fields : Entries Value) :
    writtenLiterals t fields =
      fields.mapM fun entry => (writtenLiteral t entry.1 entry.2).map (Prod.mk entry.1) := by
  induction fields with
  | nil => rfl
  | cons entry fields ih =>
    rw [writtenLiterals, ih, List.mapM_cons]
    cases writtenLiteral t entry.1 entry.2 <;> rfl

/-- What is written into a field depends on a scalar in it by the literal of the scalar. -/
theorem uniform_writtenLiteral (ctx : Context) (t : Target) (field : String) {spot : Value.Spot}
    (htag : spot.tag ctx (t.typeOf field) = tag) :
    Uniform FillsTemplate fun i : Filler tag => writtenLiteral t field (spot.fill i.value) := by
  cases spot with
  | here =>
    exact (Target.uniform_literal ctx htag).congr fun i => if_pos i.isScalar
  | item before spot after => exact Uniform.error _
  | query spot => exact Uniform.error _

/-- Fields that depend on a piece in what is written into them. -/
inductive FillsField : (Piece → String × List Piece) → Prop where
  /-- A field and pieces that fill a template. -/
  | field (name : String) {F : Piece → List Piece} (hF : FillsTemplate F) :
    FillsField fun p => (name, F p)

theorem uniform_writtenLiterals (ctx : Context) (t : Target) {field : String} {spot : Value.Spot}
    (htag : spot.tag ctx (t.typeOf field) = tag) (before after : Entries Value) :
    Uniform (Among FillsField) fun i : Filler tag =>
      writtenLiterals t (before ++ (field, spot.fill i.value) :: after) := by
  have hwritten := uniform_writtenLiteral ctx t field htag
  have hfield := hwritten.map fun F hF => FillsField.field field hF
  simp only [writtenLiterals_eq_mapM]
  exact hfield.mapM (fun entry : String × Value =>
    (writtenLiteral t entry.1 entry.2).map (Prod.mk entry.1)) before after

theorem fillsTemplate_column {F : Piece → String × List Piece} (hF : FillsField F) :
    FillsTemplate fun p => Piece.ofName (F p).1 := by
  obtain ⟨name, hG⟩ := hF
  exact .const (Piece.ofName name)

theorem fillsTemplate_written {F : Piece → String × List Piece} (hF : FillsField F) :
    FillsTemplate fun p => (F p).2 := by
  obtain ⟨name, hG⟩ := hF
  exact hG

theorem fillsTemplate_assignment {F : Piece → String × List Piece} (hF : FillsField F) :
    FillsTemplate fun p => assignment (F p).1 (F p).2 := by
  obtain ⟨name, hG⟩ := hF
  exact (FillsTemplate.const (Piece.ofName name)).append (hG.cons (.text " = "))

/-- An insert depends on a scalar in its payload by the literal of the scalar. -/
theorem uniform_insert (ctx : Context) (spot : Query.Spot) (htag : spot.tag ctx = tag) :
    Uniform FillsTemplate fun i : Filler tag => (insert ctx (spot.fill i.value)).outcome := by
  cases spot with
  | condition q spot => exact Uniform.of_forall_eq (fun i j => rfl) FillsTemplate.const
  | join q before spot after => exact Uniform.of_forall_eq (fun i j => rfl) FillsTemplate.const
  | payload q before field spot after =>
    simp only [Query.Spot.fill, insert, Lookups.outcome_bind, Lookups.outcome_ofExcept,
      Lookups.outcome_pure]
    refine Uniform.bind_const fun t ht => ?_
    simp only [payload_append_cons]
    refine (uniform_writtenLiterals ctx t (Context.typeOf_eq ht ▸ htag) before after).bind
      fun F hF => ?_
    have hcolumns : FillsTemplate fun p =>
        Piece.intercalate ", " ((F p).map fun w => Piece.ofName w.1) :=
      (hF.map fun G hG => fillsTemplate_column hG).intercalate ", "
    have hliterals : FillsTemplate fun p => Piece.intercalate ", " ((F p).map Prod.snd) :=
      (hF.map fun G hG => fillsTemplate_written hG).intercalate ", "
    have hopening := (FillsTemplate.const
      (.text "INSERT INTO " :: Piece.ofName t.model.source)).append (hcolumns.cons (.text " ("))
    exact Uniform.ok ((hopening.append (hliterals.cons _)).append (.const _))

/-! ## Writes -/

/-- What is written of a write before its condition depends on a scalar by the
literal of the scalar. -/
theorem uniform_opening (ctx : Context) (t : Target) (spot : Query.Spot)
    (htag : spot.tag ctx = tag) (htypes : ctx.typeOf spot.around.model = t.typeOf) :
    Uniform FillsTemplate fun i : Filler tag => opening (spot.fill i.value) t := by
  cases spot with
  | condition q spot => exact Uniform.of_forall_eq (fun i j => rfl) FillsTemplate.const
  | join q before spot after => exact Uniform.of_forall_eq (fun i j => rfl) FillsTemplate.const
  | payload q before field spot after =>
    simp only [Query.Spot.fill, opening]
    cases hkind : q.kind with
    | update =>
      simp only [payload_append_cons]
      have hfield : spot.tag ctx (t.typeOf field) = tag := htypes ▸ htag
      refine (uniform_writtenLiterals ctx t hfield before after).bind fun F hF => ?_
      have hassigned : FillsTemplate fun p =>
          Piece.intercalate ", " ((F p).map fun w => assignment w.1 w.2) :=
        (hF.map fun G hG => fillsTemplate_assignment hG).intercalate ", "
      exact Uniform.ok ((FillsTemplate.const _).append (hassigned.cons _))
    | _ => exact Uniform.const FillsTemplate.const

theorem guardOf_eq (q : Query) (model : Entity) :
    guardOf q model =
      if q.isUnconditional then (q.keyValue? model).map fun value => .leaf model.key .eq value
      else q.conditions := by
  cases h : q.isUnconditional with
  | true => exact guardOf_of_isUnconditional h model
  | false =>
    obtain ⟨c, hc, -, hguard⟩ := guardOf_of_not_isUnconditional h model
    rw [hguard, hc]
    rfl

/-- A condition with a spot is never blank, so it is the guard. -/
theorem guardOf_fill_condition (q : Query) (spot : Condition.Spot) (v : Value) (model : Entity) :
    guardOf ((Query.Spot.condition q spot).fill v) model = some (spot.fill v) := by
  simp only [guardOf, Query.Spot.fill, spot.isBlank_fill]
  rfl

theorem guardOf_fill_payload_eq (q : Query) (before : Entries Value) (field : String)
    (spot : Value.Spot) (after : Entries Value) (v : Value) (model : Entity) :
    guardOf ((Query.Spot.payload q before field spot after).fill v) model =
      if q.isUnconditional then
        ((Entries.find? model.key before).or
          (Entries.find? model.key ((field, spot.fill v) :: after))).map
            fun value => .leaf model.key .eq value
      else q.conditions := by
  rw [guardOf_eq, Query.keyValue?, ← Entries.find?_append]
  rfl

/-- The guard of a write tests a scalar in the payload if the first value of the key
holds it, and does not depend on it otherwise. -/
theorem guardOf_fill_payload (q : Query) (before : Entries Value) (field : String)
    (spot : Value.Spot) (after : Entries Value) (model : Entity) :
    if q.isUnconditional = true ∧ field = model.key ∧ Entries.find? field before = none then
      ∀ v, guardOf ((Query.Spot.payload q before field spot after).fill v) model =
        some ((Condition.Spot.leaf field .eq spot).fill v)
    else ∃ guard, ∀ v,
      guardOf ((Query.Spot.payload q before field spot after).fill v) model = guard := by
  simp only [guardOf_fill_payload_eq]
  cases hcondition : q.isUnconditional with
  | false =>
    rw [if_neg (by simp)]
    exact ⟨q.conditions, fun v => rfl⟩
  | true =>
    by_cases hkey : field = model.key
    · subst hkey
      cases hbefore : Entries.find? model.key before with
      | some value =>
        rw [if_neg (by simp)]
        exact ⟨some (.leaf model.key .eq value), fun v => rfl⟩
      | none =>
        rw [if_pos ⟨rfl, rfl, rfl⟩]
        intro v
        simp [Entries.find?, Condition.Spot.fill]
    · rw [if_neg (by simp [hkey])]
      simp only [Entries.find?, if_neg hkey]
      exact ⟨_, fun v => rfl⟩

/-- The clause of a write depends on a scalar by the literal of the scalar. -/
theorem uniform_filter (scope : Scope) (spot : Query.Spot) (htag : spot.tag scope.context = tag)
    (htypes : scope.context.typeOf spot.around.model = scope.target.typeOf) :
    Uniform (fun F => FillsTemplate fun p => Clause.after (F p)) fun i : Filler tag =>
      (whereOptional scope (guardOf (spot.fill i.value) scope.target.model)).outcome := by
  have htest : ∀ s : Condition.Spot, s.tag scope.context scope.target.typeOf = tag →
      Uniform (fun F => FillsTemplate fun p => Clause.after (F p)) fun i : Filler tag =>
        (whereOptional scope (some (s.fill i.value))).outcome := fun s hs =>
    (uniform_whereOptional scope (uniform_whereFormula scope s hs)).mono
      fun _ => fillsTemplate_after
  cases spot with
  | condition q spot =>
    refine (htest spot (htypes ▸ htag)).congr fun i => ?_
    rw [guardOf_fill_condition]
  | join q before spot after =>
    exact Uniform.of_forall_eq (fun i j => rfl) fun _ => FillsTemplate.const _
  | payload q before field spot after =>
    have hguard := guardOf_fill_payload q before field spot after scope.target.model
    split at hguard
    next =>
      simp only [hguard]
      exact htest (.leaf field .eq spot) (htypes ▸ htag)
    next =>
      obtain ⟨guard, hguard⟩ := hguard
      simp only [hguard]
      exact Uniform.const fun _ => FillsTemplate.const _

/-- An update or a delete depends on a scalar by the literal of the scalar. -/
theorem uniform_write (ctx : Context) (spot : Query.Spot) (htag : spot.tag ctx = tag)
    (hkind : spot.around.kind = .update ∨ spot.around.kind = .delete) :
    Uniform FillsTemplate fun i : Filler tag => (statement ctx (spot.fill i.value)).outcome := by
  refine Uniform.congr ?_ fun i => outcome_statement_of_write (by rw [spot.kind_fill]; exact hkind)
  simp only [spot.kind_fill, spot.model_fill]
  refine Uniform.bind_const fun t ht => ?_
  have htypes := Context.typeOf_eq ht
  refine (uniform_opening ctx t spot htag htypes).bind fun F hF => ?_
  refine (uniform_filter (writeScope ctx spot.around.kind t) spot htag htypes).bind fun G hG => ?_
  exact Uniform.ok (hF.append hG)

/-! ## Statements -/

theorem uniform_statement (ctx : Context) (spot : Query.Spot) (htag : spot.tag ctx = tag) :
    Uniform FillsTemplate fun i : Filler tag => (statement ctx (spot.fill i.value)).outcome := by
  cases hkind : spot.around.kind with
  | read =>
    refine (uniform_select ctx 0 spot htag).congr fun i => ?_
    rw [statement, spot.kind_fill, hkind]
  | create =>
    refine (uniform_insert ctx spot htag).congr fun i => ?_
    rw [statement, spot.kind_fill, hkind]
  | update => exact uniform_write ctx spot htag (.inl hkind)
  | delete => exact uniform_write ctx spot htag (.inr hkind)

theorem uniform_compile (g : Generator) (ctx : Context) (spot : Query.Spot)
    (htag : spot.tag ctx = tag) :
    Uniform (FillsText g) fun i : Filler tag => (compile g ctx (spot.fill i.value)).outcome := by
  simp only [outcome_compile]
  refine (uniform_statement ctx spot htag).map fun F hF => ?_
  simpa using (hF.append (.const [.text ";"])).render g

/-- Whether a value is a scalar other than null that has a literal at a spot. -/
structure Admits (g : Generator) (ctx : Context) (spot : Query.Spot) (v : Value)
    (literal : String) : Prop where
  /-- It is neither a list nor a query. -/
  isScalar : v.isScalar = true
  /-- It is not null. -/
  isNull : v.isNull = false
  /-- The type of the field at the spot gives it the literal. -/
  cast : v.cast g (spot.tag ctx) = .ok literal

/-- The text of a statement depends on a scalar by the text of its literal. -/
theorem exists_fragments (g : Generator) (ctx : Context) (spot : Query.Spot) :
    (∃ fragments : List String, fragments ≠ [] ∧ ∀ v literal, Admits g ctx spot v literal →
      (compile g ctx (spot.fill v)).outcome = .ok (literal.intercalate fragments)) ∨
    ∀ v literal, Admits g ctx spot v literal →
      ∃ e, (compile g ctx (spot.fill v)).outcome = .error e := by
  rcases uniform_compile g ctx spot rfl with ⟨F, ⟨fragments, hne, hfragments⟩, hF⟩ | herror
  · refine .inl ⟨fragments, hne, fun v literal hv => ?_⟩
    obtain ⟨piece, hpiece, rfl⟩ := (Value.cast_eq_ok_iff hv.isScalar).mp hv.cast
    rw [← hfragments]
    exact hF ⟨v, piece, hv.isScalar, hv.isNull, hpiece⟩
  · refine .inr fun v literal hv => ?_
    obtain ⟨piece, hpiece, -⟩ := (Value.cast_eq_ok_iff hv.isScalar).mp hv.cast
    exact herror ⟨v, piece, hv.isScalar, hv.isNull, hpiece⟩

/-- A scalar in a query has no influence on the shape of the statement.  The
text is the literal of the scalar between fragments that it does not change, or
else there is no statement whatever the scalar is.  So the texts for two scalars
differ in their literals alone. -/
theorem compile_fill (g : Generator) (ctx : Context) (spot : Query.Spot) :
    ((∃ fragments : List String, fragments ≠ [] ∧ ∀ v literal, Admits g ctx spot v literal →
        (compile g ctx (spot.fill v)).outcome = .ok (literal.intercalate fragments)) ∨
      ∀ v literal, Admits g ctx spot v literal →
        ∃ e, (compile g ctx (spot.fill v)).outcome = .error e) ∧
    ∀ v v' literal literal' text, Admits g ctx spot v literal → Admits g ctx spot v' literal' →
      (compile g ctx (spot.fill v)).outcome = .ok text →
        ∃ fragments : List String, text = literal.intercalate fragments ∧
          (compile g ctx (spot.fill v')).outcome = .ok (literal'.intercalate fragments) := by
  refine ⟨exists_fragments g ctx spot, fun v v' literal literal' text hv hv' h => ?_⟩
  rcases exists_fragments g ctx spot with ⟨fragments, -, hfragments⟩ | herror
  · refine ⟨fragments, ?_, hfragments v' literal' hv'⟩
    rw [hfragments v literal hv] at h
    exact (Except.ok.inj h).symm
  · obtain ⟨e, he⟩ := herror v literal hv
    rw [he] at h
    cases h

/-- The update of a post, without the key that it is found by. -/
def keySpot : Query.Spot := .payload updatePost [("title", .string "it's")] "id" .here []

theorem compile_fill_keySpot :
    Admits Dialect.ansi.generator postContext keySpot (.string " 007 ") "7" ∧
    Admits Dialect.ansi.generator postContext keySpot (.bool true) "1" ∧
    (compile Dialect.ansi.generator postContext (keySpot.fill (.string " 007 "))).outcome =
      .ok "UPDATE \"posts\" SET \"title\" = 'it''s', \"id\" = 7 WHERE id = 7;" ∧
    ∃ fragments : List String,
      "UPDATE \"posts\" SET \"title\" = 'it''s', \"id\" = 7 WHERE id = 7;" =
        "7".intercalate fragments ∧
      (compile Dialect.ansi.generator postContext (keySpot.fill (.bool true))).outcome =
        .ok ("1".intercalate fragments) :=
  have hstring : Admits Dialect.ansi.generator postContext keySpot (.string " 007 ") "7" :=
    ⟨rfl, rfl, rfl⟩
  have hbool : Admits Dialect.ansi.generator postContext keySpot (.bool true) "1" :=
    ⟨rfl, rfl, rfl⟩
  have hcompile : (compile Dialect.ansi.generator postContext
      (keySpot.fill (.string " 007 "))).outcome =
        .ok "UPDATE \"posts\" SET \"title\" = 'it''s', \"id\" = 7 WHERE id = 7;" := rfl
  ⟨hstring, hbool, hcompile, (compile_fill Dialect.ansi.generator postContext keySpot).2 _ _ _ _ _
    hstring hbool hcompile⟩

end Sql

end RelQuery
