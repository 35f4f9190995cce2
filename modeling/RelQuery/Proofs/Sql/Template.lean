import RelQuery.Proofs.Sql.Literal

/-!
# Templates and uniform computations

A *template* is a list of pieces with places left open, all for one piece.  Its
text is the text of the open places between fixed fragments
(`Template.render_fill`).

A *filler* is a scalar other than null with its literal in a field of a type.  A
computation that depends on a filler is *uniform* when it depends on no more
than the literal: either it gives a result for every filler, and there is one
function from literals to these results, or it fails for every filler.  What the
function has to be like is a parameter: one that fills a template, for pieces,
and for lists one that changes a single member (`Among`).

The laws of `Uniform` follow the steps of a chain.  So a writer is uniform when
each of its steps is.
-/

namespace RelQuery

/-! ## Templates -/

/-- Pieces with places left open. -/
abbrev Template := List (Option Piece)

namespace Template

/-- The pieces with one piece in all open places. -/
def fill (p : Piece) (T : Template) : List Piece := T.map fun part => part.getD p

/-- The texts between the open places, before the first and after the last. -/
def fragments (g : Generator) : Template → List String
  | [] => [""]
  | none :: T => "" :: fragments g T
  | some p :: T => (fragments g T).modifyHead (g.renderPiece p ++ ·)

variable {g : Generator}

theorem fragments_ne_nil (g : Generator) (T : Template) : fragments g T ≠ [] := by
  induction T with
  | nil => simp [fragments]
  | cons part T ih =>
    cases part with
    | none => simp [fragments]
    | some p => simpa [fragments] using ih

/-- A filled template is written as its fragments with the text of the piece
between neighbours. -/
theorem render_fill (g : Generator) (p : Piece) (T : Template) :
    g.render (fill p T) = (g.renderPiece p).intercalate (fragments g T) := by
  induction T with
  | nil => simp [fill, fragments]
  | cons part T ih =>
    obtain ⟨s, ss, hfragments⟩ := List.exists_cons_of_ne_nil (fragments_ne_nil g T)
    rw [hfragments] at ih
    cases part with
    | none =>
      show g.render (p :: fill p T) = _
      rw [Generator.render_cons, ih, fragments, hfragments, String.intercalate_cons_cons,
        String.empty_append]
    | some p' =>
      show g.render (p' :: fill p T) = _
      rw [Generator.render_cons, ih, fragments, hfragments, List.modifyHead_cons]
      cases ss with
      | nil => simp
      | cons s' ss => simp [String.intercalate_cons_cons, String.append_assoc]

end Template

/-- Whether pieces that depend on a piece fill a template with it. -/
def FillsTemplate (F : Piece → List Piece) : Prop := ∃ T, ∀ p, F p = Template.fill p T

/-- Whether a text that depends on a piece is the text of the piece between
fixed fragments. -/
def FillsText (g : Generator) (F : Piece → String) : Prop :=
  ∃ fragments : List String, fragments ≠ [] ∧
    ∀ p, F p = (g.renderPiece p).intercalate fragments

namespace FillsTemplate

variable {F G : Piece → List Piece}

/-- Pieces that do not depend on the piece. -/
theorem const (ps : List Piece) : FillsTemplate fun _ => ps :=
  ⟨ps.map some, fun p => by simp [Template.fill, Function.comp_def]⟩

/-- The piece itself. -/
theorem hole : FillsTemplate fun p => [p] := ⟨[none], fun _ => rfl⟩

theorem append (hF : FillsTemplate F) (hG : FillsTemplate G) :
    FillsTemplate fun p => F p ++ G p := by
  obtain ⟨T, hT⟩ := hF
  obtain ⟨U, hU⟩ := hG
  exact ⟨T ++ U, fun p => by simp only [hT, hU, Template.fill, List.map_append]⟩

theorem cons (p' : Piece) (hF : FillsTemplate F) : FillsTemplate fun p => p' :: F p :=
  (const [p']).append hF

/-- Between fixed pieces. -/
theorem between (before : List Piece) (hF : FillsTemplate F) (after : List Piece) :
    FillsTemplate fun p => before ++ F p ++ after :=
  ((const before).append hF).append (const after)

theorem render (g : Generator) (hF : FillsTemplate F) : FillsText g fun p => g.render (F p) := by
  obtain ⟨T, hT⟩ := hF
  refine ⟨Template.fragments g T, Template.fragments_ne_nil g T, fun p => ?_⟩
  simp only [hT, Template.render_fill]

end FillsTemplate

/-! ## Results that change in one place -/

/-- Lists that depend on a piece in one member. -/
inductive Among {α : Type} (shows : (Piece → α) → Prop) : (Piece → List α) → Prop where
  /-- Between members that do not depend on it. -/
  | member {F : Piece → α} (before after : List α) (hF : shows F) :
    Among shows fun p => before ++ F p :: after

/-- Options that depend on a piece and always hold something. -/
inductive Present {α : Type} (shows : (Piece → α) → Prop) : (Piece → Option α) → Prop where
  /-- What depends on it. -/
  | some {F : Piece → α} (hF : shows F) : Present shows fun p => some (F p)

theorem Present.map {α β : Type} {shows : (Piece → α) → Prop} {shows' : (Piece → β) → Prop}
    {F : Piece → Option α} (hF : Present shows F) {f : α → β}
    (hf : ∀ G, shows G → shows' fun p => f (G p)) :
    Present shows' fun p => (F p).map f := by
  obtain @⟨G, hG⟩ := hF
  exact .some (hf G hG)

theorem Among.map {α β : Type} {shows : (Piece → α) → Prop} {shows' : (Piece → β) → Prop}
    {F : Piece → List α} (hF : Among shows F) {f : α → β}
    (hf : ∀ G, shows G → shows' fun p => f (G p)) :
    Among shows' fun p => (F p).map f := by
  obtain @⟨G, before, after, hG⟩ := hF
  simp only [List.map_append, List.map_cons]
  exact .member _ _ (hf G hG)

/-- Pieces between texts fill a template when one member does. -/
theorem Among.intercalate {F : Piece → List (List Piece)} (separator : String)
    (hF : Among FillsTemplate F) :
    FillsTemplate fun p => Piece.intercalate separator (F p) := by
  obtain @⟨G, before, after, hG⟩ := hF
  have hlast : FillsTemplate fun p => Piece.intercalate separator (G p :: after) := by
    cases after with
    | nil => exact hG
    | cons ps after => exact hG.append (.const _)
  induction before with
  | nil => exact hlast
  | cons ps before ih =>
    have hcons : ∀ p, Piece.intercalate separator (ps :: (before ++ G p :: after)) =
        ps ++ .text separator :: Piece.intercalate separator (before ++ G p :: after) := by
      intro p
      cases before <;> rfl
    simp only [List.cons_append, hcons]
    exact (FillsTemplate.const ps).append (.cons _ ih)

/-! ## Fillers -/

/-- A scalar other than null that has a literal in a field of a type. -/
structure Filler (tag : TypeTag) where
  /-- The scalar. -/
  value : Value
  /-- The literal. -/
  literal : Piece
  /-- It is neither a list nor a query. -/
  isScalar : value.isScalar = true
  /-- It is not null. -/
  isNull : value.isNull = false
  /-- The literal is that of the scalar. -/
  scalarLiteral : value.scalarLiteral tag = .ok literal

/-! ## Uniform computations -/

/-- Whether a computation depends on no more of a filler than its literal, and
fails for all fillers or for none.  The results show the literal in a given way. -/
def Uniform {ε α : Type} {tag : TypeTag} (shows : (Piece → α) → Prop)
    (x : Filler tag → Except ε α) : Prop :=
  (∃ F, shows F ∧ ∀ i, x i = .ok (F i.literal)) ∨ ∀ i, ∃ e, x i = .error e

namespace Uniform

variable {ε δ α β : Type} {tag : TypeTag} {shows : (Piece → α) → Prop}
  {shows' : (Piece → β) → Prop} {x y : Filler tag → Except ε α}

theorem ok {F : Piece → α} (h : shows F) :
    Uniform shows fun i : Filler tag => (.ok (F i.literal) : Except ε α) :=
  .inl ⟨F, h, fun _ => rfl⟩

theorem error (e : Filler tag → ε) : Uniform shows fun i => .error (e i) :=
  .inr fun i => ⟨e i, rfl⟩

theorem congr (hx : Uniform shows x) (h : ∀ i, y i = x i) : Uniform shows y := by
  rw [funext h]
  exact hx

theorem mono {shows' : (Piece → α) → Prop} (hx : Uniform shows x)
    (h : ∀ F, shows F → shows' F) : Uniform shows' x := by
  rcases hx with ⟨F, hF, hx⟩ | hx
  · exact .inl ⟨F, h F hF, hx⟩
  · exact .inr hx

/-- A computation that is the same for all fillers. -/
theorem const {c : Except ε α} (h : ∀ a, shows fun _ => a) :
    Uniform shows fun _ : Filler tag => c := by
  cases c with
  | error e => exact error fun _ => e
  | ok a => exact ok (h a)

theorem of_forall_eq (hx : ∀ i j, x i = x j) (h : ∀ a, shows fun _ => a) : Uniform shows x := by
  by_cases hne : Nonempty (Filler tag)
  · obtain ⟨j⟩ := hne
    exact (const h).congr fun i => hx i j
  · exact .inr fun i => absurd ⟨i⟩ hne

theorem bind {k : Filler tag → α → Except ε β} (hx : Uniform shows x)
    (hk : ∀ F, shows F → Uniform shows' fun i => k i (F i.literal)) :
    Uniform shows' fun i => x i >>= k i := by
  rcases hx with ⟨F, hF, hx⟩ | hx
  · exact (hk F hF).congr fun i => by simp only [hx i]; rfl
  · refine .inr fun i => ?_
    obtain ⟨e, he⟩ := hx i
    exact ⟨e, by simp only [he]; rfl⟩

/-- A step that is the same for all fillers. -/
theorem bind_const {c : Except ε α} {k : Filler tag → α → Except ε β}
    (hk : ∀ a, c = .ok a → Uniform shows' fun i => k i a) :
    Uniform shows' fun i => c >>= k i := by
  cases c with
  | error e => exact error fun _ => e
  | ok a => exact hk a rfl

theorem map {f : α → β} (hx : Uniform shows x) (hf : ∀ F, shows F → shows' fun p => f (F p)) :
    Uniform shows' fun i => (x i).map f := by
  rcases hx with ⟨F, hF, hx⟩ | hx
  · exact (ok (hf F hF)).congr fun i => by simp only [hx i]; rfl
  · refine .inr fun i => ?_
    obtain ⟨e, he⟩ := hx i
    exact ⟨e, by simp only [he]; rfl⟩

theorem mapError {f : ε → δ} (hx : Uniform shows x) : Uniform shows fun i => (x i).mapError f := by
  rcases hx with ⟨F, hF, hx⟩ | hx
  · exact (ok hF).congr fun i => by simp only [hx i]; rfl
  · refine .inr fun i => ?_
    obtain ⟨e, he⟩ := hx i
    exact ⟨f e, by simp only [he]; rfl⟩

/-- A list is uniform in one member when that member is. -/
theorem mapM {γ : Type} (f : γ → Except ε α) {b : Filler tag → γ}
    (hb : Uniform shows fun i => f (b i)) (before after : List γ) :
    Uniform (Among shows) fun i => (before ++ b i :: after).mapM f := by
  simp only [List.mapM_append, List.mapM_cons, bind_assoc, pure_bind]
  refine bind_const fun firsts _ => bind hb fun F hF => bind_const fun rest _ => ?_
  exact ok (Among.member firsts rest hF)

end Uniform

end RelQuery
