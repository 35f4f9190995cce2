import RelQuery.Proofs.Sql.Literal
import RelQuery.Proofs.Text.Blank
import RelQuery.Proofs.Value.Spelling
import RelQuery.Value.Decode

/-!
# Literals that are read back

Writing a value and reading the literal back are two programs.  The writer gives
the value the shape of its type and writes that.  The reader trims the text, takes
the literal that is spelled, and gives it the shape of the type.

* A string literal spells its string and the digits of an integer spell that
  integer (`Literal.ofText?_quotedString`, `Literal.ofText?_integerText`).  Blanks
  inside a string are no obstacle, since the quote comes first and last.
* A value of a type keeps its shape (`Value.coerce_of_hasType`), and what a type
  makes of a value is of that type (`Value.hasType_of_coerce`).

Together a value comes back in the shape that its type gives it
(`Value.decodeLiteral_cast`), where the generator doubles quotes and does nothing
else to strings.  Where it doubles backslashes too, the reader leaves them doubled
(`Value.decodeLiteral_cast_mySql`).
-/

namespace RelQuery

/-! ## Integers -/

namespace Text

/-- The digits of a number other than zero do not begin with a zero. -/
theorem head?_toDigits_ne_zero {n : Nat} (h : n ≠ 0) : (Nat.toDigits 10 n).head? ≠ some '0' := by
  induction n using Nat.strongRecOn with
  | ind n ih =>
    rw [Nat.toDigits_eq_if (by decide)]
    split
    next hlt =>
      intro hhead
      have hvalue : Nat.ofDigitChars 10 (Nat.toDigits 10 n) 0 = n := Nat.ofDigitChars_ten_toDigits
      rw [Nat.toDigits_of_lt_base hlt, Option.some.inj hhead] at hvalue
      exact h hvalue.symm
    next hge =>
      have hhead := ih (n / 10) (by omega) (by omega)
      cases hcs : Nat.toDigits 10 (n / 10) with
      | nil => exact absurd hcs Nat.toDigits_ne_nil
      | cons c cs =>
        rw [hcs] at hhead
        exact hhead

/-- An integer that fits is the one it stands for. -/
theorem toInt64?_toInt (n : Int64) : toInt64? n.toInt = some n := by
  have hlow := n.le_toInt
  have hhigh := n.toInt_lt
  rw [toInt64?, if_pos ⟨by omega, by omega⟩, Int64.ofInt_toInt]

end Text

/-! ## Literals -/

namespace Literal

theorem isWhole_toDigits (n : Nat) : IsWhole (Nat.toDigits 10 n) := by
  by_cases hn : n = 0
  · subst hn
    exact .zero
  · have hhead := Text.head?_toDigits_ne_zero hn
    have hdigits := (isDigits_toDigits n).2
    cases hcs : Nat.toDigits 10 n with
    | nil => exact absurd hcs Nat.toDigits_ne_nil
    | cons c cs =>
      rw [hcs] at hhead hdigits
      obtain ⟨hc, hcs⟩ := List.forall_mem_cons.mp hdigits
      exact .digits hc (fun h => hhead (congrArg some h)) hcs

/-- The characters of an integer are a sign and the digits of a number. -/
theorem exists_integerChars_eq (n : Int) :
    ∃ negative ds, IsWhole ds ∧ Text.integerChars n = signText negative ++ ds ∧
      signedValue negative ds = n := by
  cases n with
  | ofNat n =>
    exact ⟨false, Nat.toDigits 10 n, isWhole_toDigits n, rfl,
      congrArg Int.ofNat Nat.ofDigitChars_ten_toDigits⟩
  | negSucc n =>
    have hvalue := Nat.ofDigitChars_ten_toDigits (n := n + 1)
    refine ⟨true, Nat.toDigits 10 (n + 1), isWhole_toDigits (n + 1), rfl, ?_⟩
    rw [signedValue, if_pos rfl, hvalue]
    rfl

/-- The characters of an integer are read as the integer. -/
theorem readInteger?_integerText (n : Int) :
    Text.readInteger? (Text.integerText n).toList = some n := by
  obtain ⟨negative, ds, hd, hchars, hvalue⟩ := exists_integerChars_eq n
  rw [Text.integerText, String.toList_ofList, hchars, readInteger?_whole negative hd.isDigits,
    hvalue]

theorem integerText_inj {m n : Int} (h : Text.integerText m = Text.integerText n) : m = n := by
  have hread := readInteger?_integerText m
  rw [h, readInteger?_integerText n] at hread
  exact (Option.some.inj hread).symm

/-- The null literal is read back. -/
theorem ofText?_null : ofText? "NULL" = some null := by decide +kernel

/-- A string literal stands for the characters of which it doubles the quotes. -/
theorem quotes_doubled (s : List Char) : Quotes s (doubled '\'' s) := by
  induction s with
  | nil => exact .nil
  | cons c s ih =>
    rw [doubled_cons]
    by_cases hc : c = '\''
    · subst hc
      exact .quote ih
    · rw [if_neg hc]
      exact .char hc ih

/-- A string literal is read back. -/
theorem ofText?_quotedString (s : String) : ofText? (quotedString s) = some (.string s) := by
  have hchars : (quotedString s).toList = '\'' :: (doubled '\'' s.toList ++ ['\'']) := by
    simp [quotedString, delimited]
  have htrim : Text.trim (quotedString s) =
      String.ofList ('\'' :: (doubled '\'' s.toList ++ ['\''])) := by
    rw [Text.trim, hchars]
    refine congrArg String.ofList (Text.trimChars_eq_self ?_ ?_)
    · intro c hc
      cases hc
      rfl
    · intro c hc
      rw [← List.cons_append, List.getLast?_append, List.getLast?_singleton] at hc
      cases hc
      rfl
  have hspells := Spells.string (quotes_doubled s.toList)
  rw [String.ofList_toList] at hspells
  rw [ofText?, htrim, ofTrimmed?_eq_some_iff, String.toList_ofList]
  exact hspells

/-- A text that is a number is read as that number, or as the text where it is out of
range. -/
theorem ofText?_of_isNumber {text : String} (h : IsNumber text.toList) :
    ofText? text = some ((inRange? text).getD (.string text)) := by
  have hblank : ∀ c ∈ text.toList, Text.isBlank c = false := by
    intro c hc
    rcases h.isNumeral.of_mem hc with rfl | rfl | hdigit
    · rfl
    · rfl
    · exact Text.isBlank_of_isDigit hdigit
  have htrim : Text.trim text = text := by
    rw [Text.trim, Text.trimChars_eq_self (fun c hc => hblank c (List.mem_of_mem_head? hc))
      (fun c hc => hblank c (List.mem_of_getLast? hc)), String.ofList_toList]
  have hspells := Spells.number h
  rw [String.ofList_toList] at hspells
  rw [ofText?, htrim, ofTrimmed?_eq_some_iff]
  exact hspells

/-- The text of an integer is a number, and in range where the integer is. -/
theorem isNumber_integerText (n : Int) :
    IsNumber (Text.integerText n).toList ∧
      inRange? (Text.integerText n) = (Text.toInt64? n).map int := by
  obtain ⟨negative, ds, hd, hchars, hvalue⟩ := exists_integerChars_eq n
  rw [Text.integerText, String.toList_ofList, hchars, inRange?_whole negative hd.isDigits, hvalue]
  exact ⟨.whole negative hd, rfl⟩

/-- The text of an integer is read back. -/
theorem ofText?_integerText (n : Int64) :
    ofText? (Text.integerText n.toInt) = some (.int n) := by
  obtain ⟨hnumber, hrange⟩ := isNumber_integerText n.toInt
  rw [ofText?_of_isNumber hnumber, hrange, Text.toInt64?_toInt]
  rfl

end Literal

/-! ## Values of a type -/

namespace Value

/-- Whether a value is of a type.  Null is of every type. -/
def HasType : Value → TypeTag → Prop
  | null, _ => True
  | string _, .string => True
  | int _, .integer => True
  | float _, .float => True
  | bool _, .boolean => True
  | _, _ => False

variable {v w : Value} {tag : TypeTag}

/-- A value of a type is in the shape of the type. -/
theorem coerce_of_hasType (h : v.HasType tag) : v.coerce tag = .ok v := by
  cases v with
  | null => cases tag <;> rfl
  | _ => cases tag <;> first | exact h.elim | rfl

theorem hasType_of_toText? (h : v.toText? = some w) : w.HasType .string := by
  cases v <;> cases h <;> trivial

theorem hasType_of_toInteger? (h : v.toInteger? = some w) : w.HasType .integer := by
  cases v with
  | float x =>
    obtain ⟨n, -, rfl⟩ := Option.map_eq_some_iff.mp h
    trivial
  | string s =>
    obtain ⟨n, -, rfl⟩ := Option.map_eq_some_iff.mp h
    trivial
  | _ => cases h <;> trivial

theorem hasType_of_toFloat? (h : v.toFloat? = some w) : w.HasType .float := by
  cases v with
  | string s =>
    simp only [toFloat?] at h
    split at h
    · split at h
      · cases h
        trivial
      · cases h
    · cases h
  | _ => cases h <;> trivial

theorem hasType_of_toBoolean? (h : v.toBoolean? = some w) : w.HasType .boolean := by
  cases v with
  | string s =>
    simp only [toBoolean?] at h
    split at h
    · cases h
      trivial
    · split at h
      · cases h
        trivial
      · cases h
  | _ => cases h <;> trivial

/-- The value in the shape of a type, if it has one. -/
def fitted? (v : Value) : TypeTag → Option Value
  | .string => v.toText?
  | .integer => v.toInteger?
  | .float => v.toFloat?
  | .boolean => v.toBoolean?
  | .untyped => some v

theorem coerce_eq_elim (h : v.isNull = false) (tag : TypeTag) :
    v.coerce tag = (v.fitted? tag).elim (.error (v.misfit tag)) .ok := by
  cases v with
  | null => cases h
  | _ => cases tag <;> rfl

/-- What a type makes of a value is null or the value in its shape. -/
theorem eq_null_or_fitted?_of_coerce (h : v.coerce tag = .ok w) :
    w = null ∨ v.fitted? tag = some w := by
  cases hnull : v.isNull with
  | true =>
    cases v with
    | null =>
      cases h
      exact .inl rfl
    | _ => cases hnull
  | false =>
    rw [coerce_eq_elim hnull, elim_eq_ok_iff] at h
    exact .inr h

/-- What a declared type makes of a value is of that type. -/
theorem hasType_of_coerce (ht : tag ≠ .untyped) (h : v.coerce tag = .ok w) : w.HasType tag := by
  obtain rfl | hfitted := eq_null_or_fitted?_of_coerce h
  · trivial
  · cases tag with
    | string => exact hasType_of_toText? hfitted
    | integer => exact hasType_of_toInteger? hfitted
    | float => exact hasType_of_toFloat? hfitted
    | boolean => exact hasType_of_toBoolean? hfitted
    | untyped => exact absurd rfl ht

/-- A declared type takes scalars only. -/
theorem isScalar_of_coerce (ht : tag ≠ .untyped) (h : v.coerce tag = .ok w) :
    v.isScalar = true := by
  cases v with
  | list items => cases tag <;> first | exact absurd rfl ht | cases h
  | query q => cases tag <;> first | exact absurd rfl ht | cases h
  | _ => rfl

/-! ## Writing and reading -/

variable {g : Generator} {text : String}

/-- The literal of a text, an integer or a truth value is read back. -/
theorem exists_scalarPiece_of_hasType (hg : g.stringLiteral = quotedString)
    (ht : tag = .string ∨ tag = .integer ∨ tag = .boolean) (h : w.HasType tag) :
    ∃ piece, w.scalarPiece tag = .ok piece ∧
      decodeLiteral (g.renderPiece piece) tag = .ok w := by
  cases w with
  | null =>
    refine ⟨.text "NULL", rfl, ?_⟩
    rw [Generator.renderPiece, decodeLiteral, Literal.ofText?_null]
    exact coerce_of_hasType h
  | string s =>
    refine ⟨.string s, rfl, ?_⟩
    rw [Generator.renderPiece, hg, decodeLiteral, Literal.ofText?_quotedString]
    exact coerce_of_hasType h
  | int n =>
    refine ⟨.text (Text.integerText n.toInt), rfl, ?_⟩
    rw [Generator.renderPiece, decodeLiteral, Literal.ofText?_integerText]
    exact coerce_of_hasType h
  | bool b =>
    obtain rfl | rfl | rfl := ht
    · exact h.elim
    · exact h.elim
    · -- A truth value is written as a number, and the type reads that number as one.
      refine ⟨.text (if b then "1" else "0"), rfl, ?_⟩
      rw [Generator.renderPiece, decodeLiteral]
      cases b with
      | false =>
        have hread : Literal.ofText? "0" = some (.int 0) := by decide +kernel
        rw [if_neg (by decide), hread]
        rfl
      | true =>
        have hread : Literal.ofText? "1" = some (.int 1) := by decide +kernel
        rw [if_pos rfl, hread]
        rfl
  | float x => obtain rfl | rfl | rfl := ht <;> exact h.elim
  | list items => exact h.elim
  | query q => exact h.elim

/-- The literal of a value is read back as what its type makes of the value. -/
theorem exists_cast_of_coerce (hg : g.stringLiteral = quotedString)
    (ht : tag = .string ∨ tag = .integer ∨ tag = .boolean) (h : v.coerce tag = .ok w) :
    ∃ text, v.cast g tag = .ok text ∧ decodeLiteral text tag = .ok w := by
  have hne : tag ≠ .untyped := by
    rintro rfl
    simp at ht
  obtain ⟨piece, hpiece, hdecode⟩ :=
    exists_scalarPiece_of_hasType hg ht (hasType_of_coerce hne h)
  have hshaped : v.shaped tag = .ok w := by rw [shaped, if_neg hne, h]
  exact ⟨g.renderPiece piece, cast_of_shaped (isScalar_of_coerce hne h) hshaped hpiece, hdecode⟩

/-- Where the generator doubles quotes and does nothing else to strings, a value
that fits the type of a text, an integer or a truth value is written, and its
literal is read back as what the type makes of the value.  A value of the type
comes back as it is. -/
theorem decodeLiteral_cast (hg : g.stringLiteral = quotedString)
    (ht : tag = .string ∨ tag = .integer ∨ tag = .boolean) :
    (∀ v w : Value, v.coerce tag = .ok w →
      ∃ text, v.cast g tag = .ok text ∧ decodeLiteral text tag = .ok w) ∧
    ∀ v : Value, v.HasType tag →
      ∃ text, v.cast g tag = .ok text ∧ decodeLiteral text tag = .ok v :=
  ⟨fun _ _ h => exists_cast_of_coerce hg ht h,
    fun _ h => exists_cast_of_coerce hg ht (coerce_of_hasType h)⟩

theorem decodeLiteral_cast_quotes :
    Dialect.plain.generator.stringLiteral = quotedString ∧
    (string " null'' ").coerce .string = .ok (string " null'' ") ∧
    ∃ text, (string " null'' ").cast Dialect.plain.generator .string = .ok text ∧
      decodeLiteral text .string = .ok (string " null'' ") :=
  ⟨rfl, rfl, (decodeLiteral_cast rfl (.inl rfl)).1 _ _ rfl⟩

/-! ## Backslashes -/

/-- In the dialect that escapes backslashes, a text is not read back as it was
written: the reader takes a backslash for any other character, so each comes back
twice.  The text comes back as it is exactly when it holds none. -/
theorem decodeLiteral_cast_mySql (s : String) :
    ∃ text, (string s).cast Dialect.mySql.generator .string = .ok text ∧
      decodeLiteral text .string = .ok (string (String.ofList (doubled '\\' s.toList))) ∧
      (decodeLiteral text .string = .ok (string s) ↔ '\\' ∉ s.toList) := by
  have hcast : (string s).cast Dialect.mySql.generator .string = .ok (backslashedString s) := by
    rw [cast_eq_ok_iff rfl]
    exact ⟨.string s, rfl, rfl⟩
  have hdecode : decodeLiteral (backslashedString s) .string =
      .ok (string (String.ofList (doubled '\\' s.toList))) := by
    have hread := Literal.ofText?_quotedString (String.ofList (doubled '\\' s.toList))
    rw [quotedString] at hread
    rw [decodeLiteral, backslashedString, hread]
    exact coerce_of_hasType trivial
  refine ⟨backslashedString s, hcast, hdecode, ?_⟩
  rw [hdecode, Except.ok.injEq, string.injEq, ← doubled_eq_self_iff, ← String.toList_inj,
    String.toList_ofList]

/-- A text with a backslash does not survive. -/
theorem exists_decodeLiteral_cast_mySql_ne :
    (string "a\\b").cast Dialect.mySql.generator .string = .ok "'a\\\\b'" ∧
    decodeLiteral "'a\\\\b'" .string = .ok (string "a\\\\b") ∧
    ¬∀ s text : String, (string s).cast Dialect.mySql.generator .string = .ok text →
      decodeLiteral text .string = .ok (string s) := by
  have hdecode : decodeLiteral "'a\\\\b'" .string = .ok (string "a\\\\b") := rfl
  refine ⟨rfl, hdecode, fun h => ?_⟩
  have hsame := hdecode.symm.trans (h "a\\b" "'a\\\\b'" rfl)
  exact absurd (string.inj (Except.ok.inj hsame)) (by decide)

end Value

end RelQuery
