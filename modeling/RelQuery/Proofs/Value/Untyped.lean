import RelQuery.Proofs.Sql.Literal
import RelQuery.Proofs.Value.Spelling

/-!
# Texts in untyped fields

An untyped field takes a text that spells a number for that number.  A text without a
point spells a whole number or none, and the digits of a whole number without leading
zeros are the ones that the number is written with.  So a text without a point is written
as it stands or as a string, and only minus zero changes (`Value.cast_untyped`).
-/

namespace RelQuery

/-! ## Digits of a number -/

theorem digitChar_of_isDigit {c : Char} (h : c.isDigit = true) :
    c.toNat - '0'.toNat < 10 ∧ Nat.digitChar (c.toNat - '0'.toNat) = c := by
  obtain ⟨hlow, hhigh⟩ := Char.isDigit_iff_toNat.mp h
  have hzero : '0'.toNat = 48 := rfl
  have hnine : '9'.toNat = 57 := rfl
  have hlt : c.toNat - '0'.toNat < 10 := by omega
  have hdigit : ∀ n < 10, (Nat.digitChar n).toNat = 48 + n := by decide
  refine ⟨hlt, Char.toNat_inj.mp ?_⟩
  rw [hdigit _ hlt]
  omega

/-- Digits that are read after a number are written after it. -/
theorem toDigits_ofDigitChars {n : Nat} (hn : 0 < n) {cs : List Char}
    (h : ∀ c ∈ cs, c.isDigit = true) :
    Nat.toDigits 10 (Nat.ofDigitChars 10 cs n) = Nat.toDigits 10 n ++ cs := by
  induction cs generalizing n with
  | nil => exact (List.append_nil _).symm
  | cons c cs ih =>
    obtain ⟨hc, hcs⟩ := List.forall_mem_cons.mp h
    obtain ⟨hlt, hchar⟩ := digitChar_of_isDigit hc
    rw [Nat.ofDigitChars_cons, ih (by omega) hcs, ← Nat.toDigits_append_toDigits (by decide) hn hlt,
      Nat.toDigits_of_lt_base hlt, hchar, List.append_assoc, List.singleton_append]

/-- Digits without a leading zero are those of the number that they are read as. -/
theorem IsWhole.toDigits_ofDigitChars {ds : List Char} (h : IsWhole ds) :
    Nat.toDigits 10 (Nat.ofDigitChars 10 ds 0) = ds := by
  cases h with
  | zero => rfl
  | @digits c cs hc hne h =>
    obtain ⟨hlt, hchar⟩ := digitChar_of_isDigit hc
    have hpos : 0 < c.toNat - '0'.toNat := by
      rw [Nat.pos_iff_ne_zero]
      intro hzero
      rw [hzero] at hchar
      exact hne hchar.symm
    rw [Nat.ofDigitChars_cons, Nat.mul_zero, Nat.zero_add, RelQuery.toDigits_ofDigitChars hpos h,
      Nat.toDigits_of_lt_base hlt, hchar, List.singleton_append]

namespace Literal

theorem integerChars_signedValue {negative : Bool} {ds : List Char} (h : IsWhole ds)
    (hne : signText negative ++ ds ≠ "-0".toList) :
    Text.integerChars (signedValue negative ds) = signText negative ++ ds := by
  have hdigits := h.toDigits_ofDigitChars
  cases negative with
  | false => exact hdigits
  | true =>
    cases hn : Nat.ofDigitChars 10 ds 0 with
    | zero =>
      rw [hn] at hdigits
      exact absurd (congrArg ('-' :: ·) hdigits.symm) hne
    | succ n =>
      rw [hn] at hdigits
      rw [signedValue, if_pos rfl, hn]
      exact congrArg ('-' :: ·) hdigits

/-! ## Texts without a point -/

/-- Whether characters are an integer of sixty-four bits: a minus if any, and digits
without a leading zero. -/
def IsInt64Numeral (cs : List Char) : Prop :=
  ∃ negative ds, IsWhole ds ∧ cs = signText negative ++ ds ∧
    -0x8000000000000000 ≤ signedValue negative ds ∧ signedValue negative ds < 0x8000000000000000

variable {s : String}

theorem ofNumber?_of_isNumber (h : IsNumber s.toList) : ofNumber? s = inRange? s := by
  have hread := readNumber?_eq_some_iff.mpr ⟨h, rfl⟩
  rw [String.ofList_toList] at hread
  rw [ofNumber?, hread]
  rfl

theorem ofNumber?_of_not_isNumber (h : ¬IsNumber s.toList) : ofNumber? s = none := by
  rw [ofNumber?]
  cases hread : readNumber? s.toList with
  | none => rfl
  | some n => exact absurd (readNumber?_eq_some_iff.mp hread).1 h

/-- A text spells an integer or a finite number, if it spells a number. -/
theorem ofNumber?_cases (s : String) :
    ofNumber? s = none ∨ (∃ n, ofNumber? s = some (int n)) ∨
      ∃ x : Binary64, ofNumber? s = some (float x) ∧ x.isFinite = true := by
  by_cases hnumber : IsNumber s.toList
  · rw [ofNumber?_of_isNumber hnumber, inRange?]
    split
    · cases hread : (Binary64.ofText? s).filter Binary64.isFinite with
      | none => exact .inl rfl
      | some x => exact .inr (.inr ⟨x, rfl, (Option.filter_eq_some_iff.mp hread).2⟩)
    · cases Text.readInt64? s with
      | none => exact .inl rfl
      | some n => exact .inr (.inl ⟨n, rfl⟩)
  · exact .inl (ofNumber?_of_not_isNumber hnumber)

/-- The number of an integer of sixty-four bits is written with its digits. -/
theorem exists_ofNumber?_of_isInt64Numeral (h : IsInt64Numeral s.toList) :
    ∃ n : Int64, ofNumber? s = some (int n) ∧ (s ≠ "-0" → Text.integerText n.toInt = s) := by
  obtain ⟨negative, ds, hd, hs, hrange⟩ := h
  have hfits : Text.toInt64? (signedValue negative ds) =
      some (Int64.ofInt (signedValue negative ds)) := if_pos hrange
  have hvalue : (Int64.ofInt (signedValue negative ds)).toInt = signedValue negative ds :=
    Int64.toInt_ofInt_of_le hrange.1 hrange.2
  refine ⟨Int64.ofInt (signedValue negative ds), ?_, fun hne => ?_⟩
  · rw [ofNumber?_of_isNumber (hs ▸ .whole negative hd), ← String.ofList_toList (s := s), hs,
      inRange?_whole negative hd.isDigits, hfits]
    rfl
  · rw [Ne, ← String.toList_inj, hs] at hne
    rw [hvalue, Text.integerText, integerChars_signedValue hd hne, ← hs, String.ofList_toList]

theorem ofNumber?_of_not_isInt64Numeral (hpoint : '.' ∉ s.toList)
    (h : ¬IsInt64Numeral s.toList) : ofNumber? s = none := by
  by_cases hnumber : IsNumber s.toList
  · rw [ofNumber?_of_isNumber hnumber, ← String.ofList_toList (s := s)]
    generalize s.toList = cs at hpoint h hnumber
    cases hnumber with
    | @whole negative ds hd =>
      have hrange : ¬(-0x8000000000000000 ≤ signedValue negative ds ∧
          signedValue negative ds < 0x8000000000000000) :=
        fun hrange => h ⟨negative, ds, hd, rfl, hrange⟩
      rw [inRange?_whole negative hd.isDigits, Text.toInt64?, if_neg hrange]
      rfl
    | places _ _ _ => simp at hpoint
  · exact ofNumber?_of_not_isNumber hnumber

end Literal

namespace Value

variable (g : Generator) {s : String}

theorem cast_untyped_of_ofNumber?_int {n : Int64} (h : Literal.ofNumber? s = some (.int n)) :
    (string s).cast g .untyped = .ok (Text.integerText n.toInt) := by
  have hshaped : (string s).shaped .untyped = .ok (int n) := by
    rw [shaped, if_pos rfl, introspect, h]
    rfl
  have hpiece : (int n).scalarPiece .untyped = .ok (.text (Text.integerText n.toInt)) := rfl
  exact cast_of_shaped rfl hshaped hpiece

theorem cast_untyped_of_ofNumber?_float {x : Binary64}
    (h : Literal.ofNumber? s = some (.float x)) (hfinite : x.isFinite = true) :
    (string s).cast g .untyped = .ok x.toText := by
  have hshaped : (string s).shaped .untyped = .ok (float x) := by
    rw [shaped, if_pos rfl, introspect, h]
    rfl
  exact cast_of_shaped rfl hshaped (scalarPiece_float hfinite .untyped)

theorem cast_untyped_of_ofNumber?_none (h : Literal.ofNumber? s = none) :
    (string s).cast g .untyped = .ok (g.stringLiteral s) := by
  have hshaped : (string s).shaped .untyped = .ok (string s) := by
    rw [shaped, if_pos rfl, introspect, h]
    rfl
  have hpiece : (string s).scalarPiece .untyped = .ok (.string s) := rfl
  exact cast_of_shaped rfl hshaped hpiece

/-- A text without a point in an untyped field is written as it stands if it is an integer
of sixty-four bits, and else as the string that it is.  Minus zero is written as zero. -/
theorem cast_untyped (h : '.' ∉ s.toList) :
    (s = "-0" → (string s).cast g .untyped = .ok "0") ∧
    (s ≠ "-0" → Literal.IsInt64Numeral s.toList → (string s).cast g .untyped = .ok s) ∧
    (¬Literal.IsInt64Numeral s.toList → (string s).cast g .untyped = .ok (g.stringLiteral s)) := by
  refine ⟨?_, fun hne hs => ?_, fun hs => ?_⟩
  · rintro rfl
    exact cast_untyped_of_ofNumber?_int g (n := 0) (by decide +kernel)
  · obtain ⟨n, hn, htext⟩ := Literal.exists_ofNumber?_of_isInt64Numeral hs
    rw [cast_untyped_of_ofNumber?_int g hn, htext hne]
  · exact cast_untyped_of_ofNumber?_none g (Literal.ofNumber?_of_not_isInt64Numeral h hs)

theorem cast_untyped_padded :
    '.' ∉ "007".toList ∧ ¬Literal.IsInt64Numeral "007".toList ∧
    (string "007").cast Dialect.mySql.generator .untyped = .ok "'007'" ∧
    '.' ∉ "-42".toList ∧ Literal.IsInt64Numeral "-42".toList ∧
    (string "-42").cast Dialect.mySql.generator .untyped = .ok "-42" := by
  have hpadded : ¬Literal.IsInt64Numeral "007".toList := by
    rintro ⟨negative, ds, hd, hs, -⟩
    cases negative with
    | true => cases hs
    | false =>
      obtain rfl : ['0', '0', '7'] = ds := hs
      cases hd with
      | digits _ hne _ => exact hne rfl
  have hnegative : Literal.IsInt64Numeral "-42".toList :=
    ⟨true, ['4', '2'], .digits rfl (by decide) (List.forall_mem_singleton.mpr rfl), rfl,
      by decide, by decide⟩
  exact ⟨by decide, hpadded, (cast_untyped _ (by decide)).2.2 hpadded, by decide, hnegative,
    (cast_untyped _ (by decide)).2.1 (by decide) hnegative⟩

end Value

end RelQuery
