import RelQuery.Proofs.Outcome
import RelQuery.Proofs.Sql.Lexeme
import RelQuery.Sql.Literal

/-!
# Literals that nothing leaves

The value of a scalar reaches a statement as one piece, in the shape that the
type of its field gives it.  Whatever the value is, the text of that piece is
one literal of the dialect (`cast_denotes`): `NULL`, a numeral, or a string
literal that ends where its text ends and is read as the string that was
written.  So no character of a value is read as anything but a part of it.
-/

namespace RelQuery

/-- Whether characters are one literal of a dialect for a value in its shape.  A
string is read back in front of any text that does not begin with a quote. -/
def Dialect.Denotes (d : Dialect) (cs : List Char) : Value → Prop
  | .null => cs = "NULL".toList
  | .bool _ | .int _ | .float _ => IsNumeral cs
  | .string s => ∀ following, following.head? ≠ some '\'' →
      d.readString? (cs ++ following) = some (s.toList, following)
  | .list _ | .query _ => False

/-- What denotes a value is one literal. -/
theorem Dialect.Denotes.isLiteral {d : Dialect} {cs : List Char} {shape : Value}
    (h : d.Denotes cs shape) : d.IsLiteral cs := by
  cases shape with
  | null =>
    rw [show cs = "NULL".toList from h]
    exact .null
  | bool b => exact .number h
  | int n => exact .number h
  | float x => exact .number h
  | string s =>
    have hread := h [] (by simp)
    rw [List.append_nil] at hread
    exact .string hread
  | list items => exact h.elim
  | query q => exact h.elim

namespace Value

variable {value shape : Value} {tag : TypeTag} {piece : Piece} {g : Generator} {text : String}

/-! ## Texts and pieces -/

theorem scalarText_eq (value : Value) (tag : TypeTag) :
    value.scalarText g tag = (value.scalarPiece tag).map g.renderPiece := by
  cases value with
  | float x =>
    rw [scalarText, scalarPiece]
    split <;> rfl
  | _ => rfl

theorem scalarText_shaped (value : Value) (tag : TypeTag) :
    (value.shaped tag >>= fun shape => shape.scalarText g tag) =
      ((value.scalarLiteral tag).map fun piece => [piece]).map g.render := by
  rw [scalarLiteral]
  cases value.shaped tag with
  | error e => rfl
  | ok shape =>
    show shape.scalarText g tag = ((shape.scalarPiece tag).map fun piece => [piece]).map g.render
    rw [scalarText_eq]
    cases shape.scalarPiece tag with
    | error e => rfl
    | ok piece => simp [Except.map]

mutual

/-- The text of a literal is that of its pieces. -/
theorem cast_eq : ∀ (value : Value) (tag : TypeTag),
    value.cast g tag = (value.literal tag).map g.render
  | .list items, tag => by
    rw [cast, literal, casts_eq items tag]
    cases literals tag items with
    | error e => rfl
    | ok parts => exact congrArg Except.ok (g.render_intercalate ", " parts).symm
  | .query q, tag => rfl
  | .null, tag => scalarText_shaped .null tag
  | .bool b, tag => scalarText_shaped (.bool b) tag
  | .int n, tag => scalarText_shaped (.int n) tag
  | .float x, tag => scalarText_shaped (.float x) tag
  | .string s, tag => scalarText_shaped (.string s) tag

theorem casts_eq : ∀ (values : List Value) (tag : TypeTag),
    casts g values tag = (literals tag values).map (List.map g.render)
  | [], tag => rfl
  | item :: items, tag => by
    rw [casts, literals, cast_eq item tag, casts_eq items tag]
    cases item.literal tag with
    | error e => rfl
    | ok first => cases literals tag items <;> rfl

end

/-! ## The piece of a scalar -/

theorem literal_of_isScalar (hs : value.isScalar = true) (tag : TypeTag) :
    value.literal tag = (value.scalarLiteral tag).map fun piece => [piece] := by
  cases value with
  | list items => simp [isScalar] at hs
  | query q => simp [isScalar] at hs
  | _ => rfl

/-- The text of a scalar is that of its piece. -/
theorem cast_eq_ok_iff (hs : value.isScalar = true) :
    value.cast g tag = .ok text ↔
      ∃ piece, value.scalarLiteral tag = .ok piece ∧ g.renderPiece piece = text := by
  rw [cast_eq, literal_of_isScalar hs, map_eq_ok_iff]
  simp only [map_eq_ok_iff]
  constructor
  · rintro ⟨pieces, ⟨piece, hpiece, rfl⟩, htext⟩
    exact ⟨piece, hpiece, by simpa using htext⟩
  · rintro ⟨piece, hpiece, htext⟩
    exact ⟨[piece], ⟨piece, hpiece, rfl⟩, by simpa using htext⟩

/-- The piece of a scalar is written for its shape. -/
theorem scalarLiteral_eq_ok_iff :
    value.scalarLiteral tag = .ok piece ↔
      ∃ shape, value.shaped tag = .ok shape ∧ shape.scalarPiece tag = .ok piece :=
  bind_eq_ok_iff

/-- A scalar is written as the piece of its shape. -/
theorem cast_of_shaped (hs : value.isScalar = true) (hshape : value.shaped tag = .ok shape)
    (hpiece : shape.scalarPiece tag = .ok piece) :
    value.cast g tag = .ok (g.renderPiece piece) := by
  rw [cast_eq_ok_iff hs]
  exact ⟨piece, scalarLiteral_eq_ok_iff.mpr ⟨shape, hshape, hpiece⟩, rfl⟩

theorem scalarPiece_float {x : Binary64} (h : x.isFinite = true) (tag : TypeTag) :
    (float x).scalarPiece tag = .ok (.text x.toText) := if_pos h

/-! ## What is written for a shape -/

/-- The piece of a shape denotes it. -/
theorem denotes_of_scalarPiece (d : Dialect) (h : shape.scalarPiece tag = .ok piece) :
    d.Denotes (d.generator.renderPiece piece).toList shape := by
  cases shape with
  | null =>
    cases h
    rfl
  | bool b =>
    cases h
    cases b with
    | false =>
      refine ⟨false, ['0'], .whole (isDigits_singleton rfl), ?_⟩
      simp [signText]
    | true =>
      refine ⟨false, ['1'], .whole (isDigits_singleton rfl), ?_⟩
      simp [signText]
  | int n =>
    cases h
    exact isNumeral_integerText n.toInt
  | float x =>
    rw [scalarPiece] at h
    split at h
    next hfinite =>
      cases h
      exact Binary64.isNumeral_toText hfinite
    next => cases h
  | string s =>
    cases h
    intro following hf
    exact d.readString?_stringLiteral s hf
  | list items => cases h
  | query q => cases h

theorem exists_denotes_of_scalarLiteral (d : Dialect) (h : value.scalarLiteral tag = .ok piece) :
    ∃ shape, value.shaped tag = .ok shape ∧
      d.Denotes (d.generator.renderPiece piece).toList shape := by
  obtain ⟨shape, hshape, hpiece⟩ := scalarLiteral_eq_ok_iff.mp h
  exact ⟨shape, hshape, denotes_of_scalarPiece d hpiece⟩

theorem isLiteral_of_cast (d : Dialect) (hs : value.isScalar = true)
    (h : value.cast d.generator tag = .ok text) : d.IsLiteral text.toList := by
  obtain ⟨piece, hpiece, rfl⟩ := (cast_eq_ok_iff hs).mp h
  obtain ⟨shape, -, hdenotes⟩ := exists_denotes_of_scalarLiteral d hpiece
  exact hdenotes.isLiteral

/-- The text of a scalar in a field of a type is one literal, and denotes the
shape that the type gives the scalar. -/
theorem cast_denotes (d : Dialect) (hs : value.isScalar = true)
    (h : value.cast d.generator tag = .ok text) :
    ∃ shape, value.shaped tag = .ok shape ∧ d.Denotes text.toList shape := by
  obtain ⟨piece, hpiece, rfl⟩ := (cast_eq_ok_iff hs).mp h
  exact exists_denotes_of_scalarLiteral d hpiece

theorem cast_denotes_backslash :
    (string "a\\'b\\").isScalar = true ∧
    (string "a\\'b\\").cast Dialect.mySql.generator .untyped = .ok "'a\\\\''b\\\\'" ∧
    ∃ shape, (string "a\\'b\\").shaped .untyped = .ok shape ∧
      Dialect.mySql.Denotes "'a\\\\''b\\\\'".toList shape :=
  ⟨rfl, rfl, cast_denotes .mySql rfl rfl⟩

end Value

end RelQuery
