import RelQuery.Proofs.Sql.Shape

/-!
# Queries inside conditions

A query that stands in a test is written between parentheses, and what stands around
it decides only whether it is written and at which depth.

A computation *embeds* a read when its result is that of the read with something
around it, or when it never has a result (`Embeds`).  What is written around a spot
embeds the read that fills the spot, along the recursion of the spot.  In a list or a
payload no query can be written, and in a join it makes no difference
(`embeds_test` to `embeds_select`).
-/

namespace RelQuery

/-! ## Where a query is written -/

mutual

/-- The depth of a query that fills the spot, if it is written. -/
def Value.Spot.depth? (depth : Nat) : Value.Spot → Option Nat
  | .here => some (depth + 1)
  | .item .. => none
  | .query spot => spot.depth? (depth + 1)

/-- The depth of a query that fills the spot, if it is written. -/
def Condition.Spot.depth? (depth : Nat) : Condition.Spot → Option Nat
  | .leaf _ _ spot => spot.depth? depth
  | .member _ _ spot _ => spot.depth? depth

/-- The depth of a query that fills the spot of a read, if it is written. -/
def Query.Spot.depth? (depth : Nat) : Query.Spot → Option Nat
  | .condition _ spot => spot.depth? depth
  | .payload .. => none
  | .join .. => none

end

namespace Query.Spot

/-- The condition of a statement, if it holds the spot.  That of a delete may be the
test of the key, whose value is in the payload. -/
def guard? : Query.Spot → Option Condition.Spot
  | .condition q spot => if q.kind = .create then none else some spot
  | .payload q before field spot _ =>
    if q.kind = .delete ∧ q.isUnconditional = true ∧ q.model.map Entity.key = some field ∧
      Entries.find? field before = none then some (.leaf field .eq spot)
    else none
  | .join .. => none

/-- How deeply a query that fills the spot of a statement is nested, if it is written. -/
def nesting? (spot : Query.Spot) : Option Nat := spot.guard?.bind (Condition.Spot.depth? 0)

end Query.Spot

mutual

/-- A query inside stands deeper than what it is in. -/
theorem Value.Spot.lt_of_depth? : ∀ (spot : Value.Spot) {n depth : Nat},
    spot.depth? n = some depth → n < depth
  | .here, n, depth, h => by
    cases h
    exact Nat.lt_succ_self n
  | .query spot, n, depth, h => Nat.lt_of_succ_lt (spot.lt_of_depth? h)

theorem Condition.Spot.lt_of_depth? : ∀ (spot : Condition.Spot) {n depth : Nat},
    spot.depth? n = some depth → n < depth
  | .leaf _ _ spot, _, _, h => spot.lt_of_depth? h
  | .member _ _ spot _, _, _, h => spot.lt_of_depth? h

theorem Query.Spot.lt_of_depth? : ∀ (spot : Query.Spot) {n depth : Nat},
    spot.depth? n = some depth → n < depth
  | .condition _ spot, _, _, h => spot.lt_of_depth? h

end

variable {α β : Type}

namespace Sql

/-! ## Embedded reads -/

/-- What there is of a read at a depth, or nothing where it is not written. -/
def written (ctx : Context) : Option Nat → Query → Except Error (List Piece)
  | some depth, q => (select ctx depth q).outcome
  | none, _ => .ok []

/-- Whether a computation has the result of a read that is written at a depth, with
something around it, or never has one. -/
def Embeds (ctx : Context) (surrounds : Option Nat → (List Piece → α) → Prop)
    (depth : Option Nat) (x : Query → Except Error α) : Prop :=
  (∃ F, surrounds depth F ∧ ∀ q, x q = (written ctx depth q).map F) ∨ ∀ q a, x q ≠ .ok a

/-- Whether pieces are put around others as around the members of a membership test,
where these are written at all. -/
def Surrounds (depth : Option Nat) (F : List Piece → List Piece) : Prop :=
  depth.isSome = true → ∃ before keyword after, keyword ∈ ["IN", "NOT IN"] ∧
    ∀ ps, F ps = before ++ .text (" " ++ keyword ++ " (") :: ps ++ .text ")" :: after

/-- The same for the formula of a condition. -/
def SurroundsFormula (depth : Option Nat) (F : List Piece → Option (List Token)) : Prop :=
  ∃ G : List Piece → List Token, (∀ ps, F ps = some (G ps)) ∧
    Surrounds depth fun ps => Token.piecesOf (G ps)

/-- The same for a member of a group. -/
def SurroundsMember (depth : Option Nat) (F : List Piece → Option Fragment) : Prop :=
  ∃ G : List Piece → List Token, (∀ ps, F ps = some ⟨G ps, false⟩) ∧
    Surrounds depth fun ps => Token.piecesOf (G ps)

/-- The same for the members of a group, of which one changes. -/
def SurroundsMembers (depth : Option Nat) (F : List Piece → List Fragment) : Prop :=
  ∃ (before : List Fragment) (G : List Piece → List Token) (after : List Fragment),
    (∀ ps, F ps = before ++ ⟨G ps, false⟩ :: after) ∧
    Surrounds depth fun ps => Token.piecesOf (G ps)

variable {ctx : Context} {depth : Option Nat}

namespace Surrounds

variable {F : List Piece → List Piece}

theorem append_left (hF : Surrounds depth F) (others : List Piece) :
    Surrounds depth fun ps => others ++ F ps := by
  intro hdepth
  obtain ⟨before, keyword, after, hkeyword, heq⟩ := hF hdepth
  exact ⟨others ++ before, keyword, after, hkeyword, fun ps => by simp [heq]⟩

theorem append_right (hF : Surrounds depth F) (others : List Piece) :
    Surrounds depth fun ps => F ps ++ others := by
  intro hdepth
  obtain ⟨before, keyword, after, hkeyword, heq⟩ := hF hdepth
  exact ⟨before, keyword, after ++ others, hkeyword, fun ps => by simp [heq]⟩

/-- A read that holds the place, inside a membership test. -/
theorem inside (hF : Surrounds depth F) (column : List Piece) (keyword : String) :
    Surrounds depth fun ps => Target.membership column keyword (F ps) := by
  have h := (hF.append_left (column ++ [.text (" " ++ keyword ++ " (")])).append_right [.text ")"]
  simpa [Target.membership] using h

theorem membership (depth : Option Nat) (column : List Piece) {keyword : String}
    (hkeyword : keyword ∈ ["IN", "NOT IN"]) :
    Surrounds depth (Target.membership column keyword) :=
  fun _ => ⟨column, keyword, [], hkeyword, fun _ => rfl⟩

end Surrounds

/-- A formula of which one part changes. -/
theorem surrounds_piecesOf {G : List Piece → List Token} (before after : List Token)
    (hG : Surrounds depth fun ps => Token.piecesOf (G ps)) :
    Surrounds depth fun ps => Token.piecesOf (before ++ G ps ++ after) := by
  have happend : ∀ xs ys, Token.piecesOf (xs ++ ys) = Token.piecesOf xs ++ Token.piecesOf ys :=
    fun xs ys => List.flatMap_append
  simp only [happend]
  exact (hG.append_left _).append_right _

theorem exists_chain (c : Connective) (before after : List Fragment) :
    ∃ left right, ∀ tokens,
      Fragment.chain c (before ++ ⟨tokens, false⟩ :: after) = left ++ tokens ++ right := by
  induction before with
  | nil =>
    cases after with
    | nil => exact ⟨[], [], fun tokens => by simp [Fragment.chain, Fragment.beside]⟩
    | cons m after =>
      exact ⟨[], .connective c :: Fragment.chain c (m :: after),
        fun tokens => by simp [Fragment.chain, Fragment.beside]⟩
  | cons m before ih =>
    obtain ⟨left, right, h⟩ := ih
    refine ⟨m.beside ++ .connective c :: left, right, fun tokens => ?_⟩
    have hcons : Fragment.chain c (m :: (before ++ ⟨tokens, false⟩ :: after)) =
        m.beside ++ .connective c :: Fragment.chain c (before ++ ⟨tokens, false⟩ :: after) := by
      cases before <;> rfl
    rw [List.cons_append, hcons, h]
    simp

/-- A group of which one member changes. -/
theorem exists_join (c : Connective) (before after : List Fragment) :
    ∃ left right, ∀ tokens,
      Fragment.join c (before ++ ⟨tokens, false⟩ :: after) = some (left ++ tokens ++ right) := by
  obtain ⟨left, right, hchain⟩ := exists_chain c before after
  match before, after, hchain with
  | [], [], _ => exact ⟨[], [], fun tokens => by simp [Fragment.join]⟩
  | [], _ :: _, hchain => exact ⟨left, right, fun tokens => congrArg some (hchain tokens)⟩
  | [_], _, hchain => exact ⟨left, right, fun tokens => congrArg some (hchain tokens)⟩
  | _ :: _ :: _, _, hchain => exact ⟨left, right, fun tokens => congrArg some (hchain tokens)⟩

theorem SurroundsMembers.join {F : List Piece → List Fragment} (hF : SurroundsMembers depth F)
    (c : Connective) : SurroundsFormula depth fun ps => Fragment.join c (F ps) := by
  obtain ⟨before, G, after, hG, hsurrounds⟩ := hF
  obtain ⟨left, right, hjoin⟩ := exists_join c before after
  refine ⟨fun ps => left ++ G ps ++ right, fun ps => ?_, surrounds_piecesOf left right hsurrounds⟩
  show Fragment.join c (F ps) = _
  rw [hG, hjoin]

theorem SurroundsFormula.enclose {F : List Piece → Option (List Token)}
    (hF : SurroundsFormula depth F) :
    SurroundsMember depth fun ps => (F ps).map fun tokens => ⟨Token.enclose tokens, false⟩ := by
  obtain ⟨G, hG, hsurrounds⟩ := hF
  refine ⟨fun ps => Token.enclose (G ps), fun ps => ?_,
    surrounds_piecesOf [.opening] [.closing] hsurrounds⟩
  show (F ps).map _ = _
  rw [hG]
  rfl

namespace Embeds

variable {surrounds : Option Nat → (List Piece → α) → Prop}
  {surrounds' : Option Nat → (List Piece → β) → Prop} {x : Query → Except Error α}

theorem never (h : ∀ q a, x q ≠ .ok a) : Embeds ctx surrounds depth x := .inr h

/-- Where nothing is written of a query, it may make no difference. -/
theorem const {x : Query → Except Error (List Piece)} (h : ∀ q q', x q = x q') :
    Embeds ctx Surrounds none x := by
  cases hx : x {} with
  | error e => exact .inr fun q a => by rw [h q {}, hx]; exact nofun
  | ok pieces => exact .inl ⟨fun _ => pieces, nofun, fun q => by rw [h q {}, hx]; rfl⟩

theorem congr {y : Query → Except Error α} (hx : Embeds ctx surrounds depth x)
    (h : ∀ q, y q = x q) : Embeds ctx surrounds depth y := by
  rwa [funext h]

/-- A step before that does not depend on the query. -/
theorem bind_const {c : Except Error β} {f : β → Query → Except Error α}
    (h : ∀ b, c = .ok b → Embeds ctx surrounds depth (f b)) :
    Embeds ctx surrounds depth fun q => c >>= fun b => f b q := by
  cases c with
  | error e => exact .inr fun _ _ => nofun
  | ok b => exact h b rfl

/-- Steps after, of which the first does not depend on the query. -/
theorem then_const {γ : Type} (hx : Embeds ctx surrounds depth x) (c : Except Error γ)
    (f : α → γ → β) (h : ∀ F b, surrounds depth F → surrounds' depth fun ps => f (F ps) b) :
    Embeds ctx surrounds' depth fun q => x q >>= fun a => c >>= fun b => .ok (f a b) := by
  rcases hx with ⟨F, hF, hx⟩ | hx
  · cases c with
    | error e =>
      refine .inr fun q b hb => ?_
      obtain ⟨a, -, hc⟩ := bind_eq_ok_iff.mp hb
      cases hc
    | ok b =>
      refine .inl ⟨fun ps => f (F ps) b, h F b hF, fun q => ?_⟩
      show x q >>= _ = _
      rw [hx]
      cases written ctx depth q <;> rfl
  · refine .inr fun q b hb => ?_
    obtain ⟨a, ha, -⟩ := bind_eq_ok_iff.mp hb
    exact hx q a ha

theorem bind_ok (hx : Embeds ctx surrounds depth x) (f : α → β)
    (h : ∀ F, surrounds depth F → surrounds' depth fun ps => f (F ps)) :
    Embeds ctx surrounds' depth fun q => x q >>= fun a => .ok (f a) :=
  hx.then_const (.ok ()) (fun a _ => f a) fun F _ => h F

theorem map (hx : Embeds ctx surrounds depth x) (f : α → β)
    (h : ∀ F, surrounds depth F → surrounds' depth fun ps => f (F ps)) :
    Embeds ctx surrounds' depth fun q => (x q).map f := by
  refine (hx.bind_ok f h).congr fun q => ?_
  cases x q <;> rfl

end Embeds

/-! ## Queries in lists and payloads -/

/-- A list with a value that has no literal has none. -/
theorem literals_ne_ok {tag : TypeTag} {item : Value} {items : List Value} (hmem : item ∈ items)
    (h : ∀ ps, item.literal tag ≠ .ok ps) (pss : List (List Piece)) :
    Value.literals tag items ≠ .ok pss := by
  intro hok
  induction items generalizing pss with
  | nil => cases hmem
  | cons first items ih =>
    rw [Value.literals] at hok
    obtain ⟨ps, hfirst, hok⟩ := bind_eq_ok_iff.mp hok
    obtain ⟨rest, hrest, -⟩ := bind_eq_ok_iff.mp hok
    rcases List.mem_cons.mp hmem with rfl | hmem
    · exact h ps hfirst
    · exact ih hmem rest hrest

/-- A query in a value has no literal. -/
theorem literal_fill_ne_ok (tag : TypeTag) (q : Query) : ∀ (spot : Value.Spot) (ps : List Piece),
    (spot.fill (.query q)).literal tag ≠ .ok ps
  | .here, _ => nofun
  | .query _, _ => nofun
  | .item before spot after, ps => by
    intro hok
    rw [Value.Spot.fill, Value.literal] at hok
    obtain ⟨pss, hpss, -⟩ := map_eq_ok_iff.mp hok
    exact literals_ne_ok (by simp) (literal_fill_ne_ok tag q spot) pss hpss

/-- A list with a query in it cannot be tested. -/
theorem listTest_ne_ok (t : Target) (column : List Piece) (field : String) (op : Operator)
    {item : Value} {items : List Value} (hmem : item ∈ items)
    (h : ∀ tag ps, item.literal tag ≠ .ok ps) (ps : List Piece) :
    t.listTest column field op items ≠ .ok ps := by
  have hitem : ∀ ps, t.literal field item ≠ .ok ps := fun ps hok =>
    h _ ps (mapError_eq_ok_iff.mp hok)
  have hlist : ∀ ps, t.literal field (.list items) ≠ .ok ps := by
    intro ps hok
    rw [Target.literal, mapError_eq_ok_iff, Value.literal] at hok
    obtain ⟨pss, hpss, -⟩ := map_eq_ok_iff.mp hok
    exact literals_ne_ok hmem (h _) pss hpss
  intro hok
  rw [Target.listTest.eq_def] at hok
  split at hok
  next low high =>
    obtain ⟨lows, hlow, hok⟩ := bind_eq_ok_iff.mp hok
    obtain ⟨highs, hhigh, -⟩ := bind_eq_ok_iff.mp hok
    rcases List.mem_pair.mp hmem with rfl | rfl
    · exact hitem lows hlow
    · exact hitem highs hhigh
  next => cases hok
  next => cases hmem
  next => cases hmem
  next =>
    obtain ⟨members, hmembers, -⟩ := bind_eq_ok_iff.mp hok
    exact hlist members hmembers
  next =>
    obtain ⟨members, hmembers, -⟩ := bind_eq_ok_iff.mp hok
    exact hlist members hmembers
  next => cases hok

/-- A query cannot be written into a field. -/
theorem writtenLiterals_ne_ok (t : Target) (before : Entries Value) (field : String)
    (spot : Value.Spot) (after : Entries Value) (q : Query)
    (written : List (String × List Piece)) :
    writtenLiterals t (before ++ (field, spot.fill (.query q)) :: after) ≠ .ok written := by
  intro hok
  induction before generalizing written with
  | nil =>
    rw [List.nil_append, writtenLiterals] at hok
    obtain ⟨literal, hliteral, -⟩ := bind_eq_ok_iff.mp hok
    cases spot <;> cases hliteral
  | cons entry before ih =>
    rw [List.cons_append, writtenLiterals] at hok
    obtain ⟨literal, -, hok⟩ := bind_eq_ok_iff.mp hok
    obtain ⟨rest, hrest, -⟩ := bind_eq_ok_iff.mp hok
    exact ih rest hrest

/-! ## Conditions and reads around a query -/

theorem embeds_fragments (scope : Scope) {c : Query → Condition}
    (hc : Embeds ctx SurroundsMember depth fun q => (fragment scope (c q)).outcome)
    (before after : List Condition) :
    Embeds ctx SurroundsMembers depth fun q =>
      (fragments scope (before ++ c q :: after)).outcome := by
  induction before with
  | nil =>
    simp only [List.nil_append, fragments, Lookups.outcome_bind, Lookups.outcome_pure]
    refine hc.then_const _ _ fun F rest hF => ?_
    obtain ⟨G, hG, hsurrounds⟩ := hF
    exact ⟨[], G, rest, fun ps => by simp [hG], hsurrounds⟩
  | cons b before ih =>
    simp only [List.cons_append, fragments, Lookups.outcome_bind, Lookups.outcome_pure]
    refine Embeds.bind_const fun first _ => ih.bind_ok _ fun F hF => ?_
    obtain ⟨others, G, rest, hG, hsurrounds⟩ := hF
    exact ⟨first.toList ++ others, G, rest, fun ps => by simp [hG], hsurrounds⟩

theorem embeds_whereOptional (scope : Scope) {c : Query → Condition}
    (hc : Embeds ctx SurroundsFormula depth fun q => (whereFormula scope (c q)).outcome) :
    Embeds ctx (fun depth F => Surrounds depth fun ps => Clause.after (F ps)) depth fun q =>
      (whereOptional scope (some (c q))).outcome := by
  simp only [whereOptional, Lookups.outcome_bind, Lookups.outcome_pure]
  refine hc.bind_ok _ fun F hF => ?_
  obtain ⟨G, hG, hsurrounds⟩ := hF
  simp only [hG]
  exact hsurrounds.append_left [.text " ", .text "WHERE "]

/-- A test of a query embeds what the query does. -/
theorem embeds_queryTest (scope : Scope) (column : List Piece) (field : String) (op : Operator)
    {c : Query → Query} {surrounds : Option Nat → (List Piece → List Piece) → Prop}
    (hc : Embeds scope.context surrounds depth fun q =>
      (select scope.context (scope.depth + 1) (c q)).outcome)
    (h : ∀ keyword ∈ ["IN", "NOT IN"], ∀ F, surrounds depth F →
      Surrounds depth fun ps => Target.membership column keyword (F ps)) :
    Embeds scope.context Surrounds depth fun q =>
      (test scope column field op (.query (c q))).outcome := by
  cases op with
  | eq =>
    simp only [test, Lookups.outcome_bind, Lookups.outcome_pure]
    exact hc.bind_ok _ (h "IN" (by simp))
  | ne =>
    simp only [test, Lookups.outcome_bind, Lookups.outcome_pure]
    exact hc.bind_ok _ (h "NOT IN" (by simp))
  | _ => exact .never fun _ _ => nofun

mutual

/-- A test embeds the query in it, one level deeper than where it stands. -/
theorem embeds_test (scope : Scope) (column : List Piece) (field : String) (op : Operator) :
    ∀ spot : Value.Spot,
      Embeds scope.context Surrounds (spot.depth? scope.depth) fun q =>
        (test scope column field op (spot.fill (.query q))).outcome
  | .here => by
    have hselect : Embeds scope.context (fun _ F => F = id) (some (scope.depth + 1)) fun q =>
        (select scope.context (scope.depth + 1) q).outcome := by
      refine .inl ⟨id, rfl, fun q => ?_⟩
      show (select scope.context (scope.depth + 1) q).outcome =
        (select scope.context (scope.depth + 1) q).outcome.map id
      cases (select scope.context (scope.depth + 1) q).outcome <;> rfl
    refine embeds_queryTest scope column field op hselect ?_
    rintro keyword hkeyword F rfl
    exact .membership _ column hkeyword
  | .item before spot after => by
    refine .never fun q ps => ?_
    exact listTest_ne_ok scope.target column field op (by simp)
      (fun tag => literal_fill_ne_ok tag q spot) ps
  | .query spot => by
    refine embeds_queryTest scope column field op
      (embeds_select scope.context (scope.depth + 1) spot) ?_
    intro keyword _ F hF
    exact hF.inside column keyword

theorem embeds_fragment (scope : Scope) : ∀ spot : Condition.Spot,
    Embeds scope.context SurroundsMember (spot.depth? scope.depth) fun q =>
      (fragment scope (spot.fill (.query q))).outcome
  | .leaf field op spot => by
    have htest := embeds_test scope (scope.target.column scope.qualifier field) field op spot
    simp only [Condition.Spot.fill, fragment, Lookups.outcome_bind, Lookups.outcome_pure]
    refine htest.bind_ok _ fun F hF => ⟨fun ps => [.atom (F ps)], fun ps => rfl, ?_⟩
    simpa [Token.piecesOf, Token.pieces] using hF
  | .member connective before spot after => by
    have hmembers := embeds_fragments scope (embeds_fragment scope spot) before after
    simp only [Condition.Spot.fill, outcome_fragment_group]
    exact hmembers.map _ fun F hF => (hF.join connective).enclose

theorem embeds_whereFormula (scope : Scope) : ∀ spot : Condition.Spot,
    Embeds scope.context SurroundsFormula (spot.depth? scope.depth) fun q =>
      (whereFormula scope (spot.fill (.query q))).outcome
  | .leaf field op spot => by
    simp only [Condition.Spot.fill, whereFormula, Lookups.outcome_bind, Lookups.outcome_pure]
    refine (embeds_test scope [.text field] field op spot).bind_ok _ fun F hF =>
      ⟨fun ps => [.atom (F ps)], fun ps => rfl, ?_⟩
    simpa [Token.piecesOf, Token.pieces] using hF
  | .member connective before spot after => by
    have hmembers := embeds_fragments scope (embeds_fragment scope spot) before after
    match before, spot, after, Condition.Spot.outermost connective before spot after with
    | _, _, _, .alone field op spot =>
      simp only [Condition.Spot.fill, List.nil_append, whereFormula_alone]
      exact embeds_whereFormula scope (.leaf field op spot)
    | before, spot, after, .joined hjoined =>
      refine (hmembers.map _ fun F hF => hF.join connective).congr fun q => ?_
      exact outcome_whereFormula_group scope (hjoined (.query q))

/-- A read embeds a query in its condition, and nothing else of it is written. -/
theorem embeds_select (ctx : Context) (depth : Nat) : ∀ spot : Query.Spot,
    Embeds ctx Surrounds (spot.depth? depth) fun q =>
      (select ctx depth (spot.fill (.query q))).outcome
  | .condition q spot => by
    simp only [outcome_select, Query.Spot.fill]
    refine .bind_const fun _ _ => .bind_const fun t _ => .bind_const fun joined _ => ?_
    have hformula := embeds_whereFormula ⟨ctx, t, some t.model.name, depth⟩ spot
    refine (embeds_whereOptional _ hformula).bind_ok _ fun F hF => ?_
    exact ((hF.append_left _).append_right _).append_right _
  | .payload q before field spot after => by
    refine .const fun inner inner' => ?_
    rw [outcome_select, outcome_select]
    rfl
  | .join q before spot after => by
    refine .const fun inner inner' => ?_
    have hjoined := spot.joined_fill ctx (.query inner) (.query inner') (depth + 1)
    have hjoins := Clause.joins_congr hjoined before after
    rw [outcome_select, outcome_select]
    simp only [Query.Spot.fill, hjoins]

end

end Sql

end RelQuery
