import RelQuery.Proofs.Binary64.Shortest
import RelQuery.Proofs.Value.Decode
import RelQuery.Proofs.Value.Untyped

/-!
# Numbers in positional notation

A number is written with the digits of its shortest decimal, up to the last that is not
zero, and the point or zeros where the decimal has them.

* Without the zeros that its digits end in, a decimal is read as before
  (`Decimal.ofDecimal_reduced`), and it is a natural number exactly when it has no places
  (`Decimal.isNatural_iff`).
* So an integer is written without a point, and its text is the text of an integer to which
  it is the next number (`Binary64.exists_toText_eq`).  From seventeen digits on the two
  integers may differ, and the text is that of the shortest decimal
  (`Binary64.exists_toText_ofInt`).
* Every other number is written with a point, and its text is read as the number
  (`Binary64.inRange?_toText`).
-/

namespace RelQuery

/-! ## The digits of a decimal -/

theorem isWhole_of_head {ds : List Char} (h : IsDigits ds) (hhead : ds.head? ≠ some '0') :
    IsWhole ds := by
  cases ds with
  | nil => exact absurd rfl h.1
  | cons c cs =>
    obtain ⟨hc, hcs⟩ := List.forall_mem_cons.mp h.2
    exact .digits hc (fun hzero => hhead (congrArg some hzero)) hcs

/-- Digits that do not end in a zero are no multiple of ten. -/
theorem not_ten_dvd_of_getLast? {ds : List Char} (h : ∀ c ∈ ds, c.isDigit = true) (hne : ds ≠ [])
    (hlast : ds.getLast? ≠ some '0') : ¬10 ∣ Nat.ofDigitChars 10 ds 0 := by
  obtain ⟨cs, c, rfl⟩ := (List.eq_nil_or_concat ds).resolve_left hne
  rw [List.concat_eq_append] at h hlast ⊢
  obtain ⟨hlt, hchar⟩ := digitChar_of_isDigit (h c (by simp))
  have hpos : c.toNat - '0'.toNat ≠ 0 := by
    intro hzero
    rw [hzero] at hchar
    exact hlast (by rw [List.getLast?_concat, ← hchar]; rfl)
  rw [Nat.ofDigitChars_append, Nat.ofDigitChars_cons, Nat.ofDigitChars_nil]
  omega

namespace Decimal

variable {d : Decimal} {n : Nat}

/-- The decimal without the zeros in which its digits end. -/
def reduced (d : Decimal) : Decimal :=
  ⟨Nat.ofDigitChars 10 d.significant.1 0, d.significant.2 - d.significant.1.length⟩

theorem significant_eq_rdropWhile (d : Decimal) :
    d.significant.1 = (Nat.toDigits 10 d.digits).rdropWhile (· == '0') := rfl

/-- The digits of a decimal are the significant ones and zeros. -/
theorem exists_toDigits_eq (d : Decimal) :
    ∃ zeros : Nat, Nat.toDigits 10 d.digits = d.significant.1 ++ List.replicate zeros '0' ∧
      d.significant.2 = d.significant.1.length + zeros + d.exponent := by
  have hsplit := List.rdropWhile_append_rtakeWhile (p := (· == '0')) (l := Nat.toDigits 10 d.digits)
  have hzeros : ∀ c ∈ (Nat.toDigits 10 d.digits).rtakeWhile (· == '0'), c = '0' :=
    fun c hc => beq_iff_eq.mp (List.mem_rtakeWhile_imp (p := (· == '0')) hc)
  rw [List.eq_replicate_of_mem hzeros, ← significant_eq_rdropWhile] at hsplit
  refine ⟨_, hsplit.symm, ?_⟩
  have hlength := congrArg List.length hsplit
  rw [List.length_append, List.length_replicate] at hlength
  have hpoint : d.significant.2 = (Nat.toDigits 10 d.digits).length + d.exponent := rfl
  rw [hpoint, ← hlength]
  omega

theorem getLast?_significant_ne (d : Decimal) : d.significant.1.getLast? ≠ some '0' := by
  intro hlast
  have hne : d.significant.1 ≠ [] := by
    intro hnil
    rw [hnil] at hlast
    cases hlast
  rw [List.getLast?_eq_some_getLast hne] at hlast
  exact List.rdropWhile_last_not (· == '0') (Nat.toDigits 10 d.digits) hne
    (beq_iff_eq.mpr (Option.some.inj hlast))

theorem head?_significant_ne (h : d.digits ≠ 0) : d.significant.1.head? ≠ some '0' := by
  obtain ⟨zeros, hdigits, -⟩ := d.exists_toDigits_eq
  have hhead := Text.head?_toDigits_ne_zero h
  rwa [hdigits, List.head?_append_of_ne_nil _ (significant_ne_nil h)] at hhead

theorem isDigits_significant (h : d.digits ≠ 0) : IsDigits d.significant.1 :=
  ⟨significant_ne_nil h, fun _ hc => d.isDigit_of_mem_significant hc⟩

theorem isWhole_significant (h : d.digits ≠ 0) : IsWhole d.significant.1 :=
  isWhole_of_head (isDigits_significant h) (head?_significant_ne h)

/-- A decimal is its reduced one with zeros after the digits. -/
theorem exists_digits_eq (d : Decimal) :
    ∃ zeros : Nat, d.digits = d.reduced.digits * 10 ^ zeros ∧
      d.exponent = d.reduced.exponent - zeros := by
  obtain ⟨zeros, hdigits, hpoint⟩ := d.exists_toDigits_eq
  refine ⟨zeros, ?_, ?_⟩
  · have hvalue := Nat.ofDigitChars_ten_toDigits (n := d.digits)
    rw [hdigits, Nat.ofDigitChars_append, Nat.ofDigitChars_replicate_zero, Nat.mul_comm] at hvalue
    exact hvalue.symm
  · simp only [reduced, hpoint]
    omega

/-- A decimal is read as its reduced one. -/
theorem ofDecimal_reduced (negative : Bool) (h : d.reduced.exponent ≤ 310) :
    Binary64.ofDecimal negative d.reduced.digits d.reduced.exponent =
      Binary64.ofDecimal negative d.digits d.exponent := by
  obtain ⟨zeros, hdigits, hexponent⟩ := d.exists_digits_eq
  rw [hdigits, hexponent, Binary64.ofDecimal_mul_pow negative d.reduced.digits zeros h]

/-- A decimal is a natural number exactly when its reduced one has no places. -/
theorem isNatural_iff (h : d.digits ≠ 0) :
    d.IsNatural n ↔
      0 ≤ d.reduced.exponent ∧ n = d.reduced.digits * 10 ^ d.reduced.exponent.toNat := by
  obtain ⟨zeros, hdigits, hexponent⟩ := d.exists_digits_eq
  have hpow : ∀ k, 0 < 10 ^ k := fun k => Nat.pow_pos (by decide)
  constructor
  · rintro ⟨a, b, hab, hvalue⟩
    rw [hdigits, Nat.mul_assoc, ← Nat.pow_add] at hvalue
    by_cases hle : b ≤ zeros + a
    · obtain ⟨k, hk⟩ := Nat.exists_eq_add_of_le hle
      have hplaces : d.reduced.exponent = k := by omega
      rw [hk, Nat.add_comm b k, Nat.pow_add, ← Nat.mul_assoc] at hvalue
      refine ⟨by omega, ?_⟩
      rw [hplaces, Int.toNat_natCast]
      exact (Nat.eq_of_mul_eq_mul_right (hpow b) hvalue).symm
    · -- The last significant digit would be a zero.
      obtain ⟨k, hk⟩ : ∃ k, b = (k + 1) + (zeros + a) := ⟨b - (zeros + a) - 1, by omega⟩
      rw [hk, Nat.pow_add 10 (k + 1), ← Nat.mul_assoc] at hvalue
      have hten := Nat.eq_of_mul_eq_mul_right (hpow (zeros + a)) hvalue
      refine absurd ?_ (not_ten_dvd_of_getLast? (isDigits_significant h).2 (significant_ne_nil h)
        d.getLast?_significant_ne)
      have hreduced : d.reduced.digits = Nat.ofDigitChars 10 d.significant.1 0 := rfl
      rw [← hreduced, hten, Nat.pow_succ, ← Nat.mul_assoc]
      exact Nat.dvd_mul_left _ _
  · rintro ⟨hle, rfl⟩
    refine ⟨d.reduced.exponent.toNat, zeros, by omega, ?_⟩
    rw [hdigits, Nat.mul_right_comm]

end Decimal

/-! ## Positional notation -/

section Positional

variable {ds : List Char}

/-- Digits that all stand before the point are followed by zeros. -/
theorem positional_of_le (hne : ds ≠ []) (zeros : Nat) :
    positional ds (ds.length + zeros : Nat) = ds ++ List.replicate zeros '0' := by
  obtain ⟨k, hk⟩ : ∃ k, ds.length + zeros = k + 1 := by
    have hlength := List.length_pos_iff.mpr hne
    exact ⟨ds.length + zeros - 1, by omega⟩
  have hpositional := positional.eq_2 ds (k + 1) (by omega)
  rw [if_pos (by omega), ← hk, Nat.add_sub_cancel_left] at hpositional
  exact hpositional

/-- Where digits stand after the point, they are the digits after it, with zeros between
where the point is far. -/
theorem exists_positional_eq (hd : IsDigits ds) (hhead : ds.head? ≠ some '0') {point : Int}
    (h : point < ds.length) :
    ∃ whole places, positional ds point = whole ++ '.' :: places ∧ IsWhole whole ∧
      IsDigits places ∧ Nat.ofDigitChars 10 (whole ++ places) 0 = Nat.ofDigitChars 10 ds 0 ∧
      (places.length : Int) = ds.length - point := by
  match point with
  | .ofNat 0 => exact ⟨['0'], ds, rfl, .zero, hd, rfl, by simp⟩
  | .ofNat (p + 1) =>
    have hlt : ¬ds.length ≤ p + 1 := by
      rw [Int.ofNat_eq_natCast] at h
      omega
    have hpositional := positional.eq_2 ds (p + 1) (by omega)
    rw [if_neg hlt] at hpositional
    refine ⟨ds.take (p + 1), ds.drop (p + 1), hpositional, ?_, ⟨?_, ?_⟩, ?_, ?_⟩
    · refine isWhole_of_head ⟨?_, fun c hc => hd.2 c (List.mem_of_mem_take hc)⟩ ?_
      · intro hnil
        exact (List.take_eq_nil_iff.mp hnil).elim (Nat.succ_ne_zero p) hd.1
      · rwa [List.head?_take, if_neg (Nat.succ_ne_zero p)]
    · intro hnil
      exact hlt (List.drop_eq_nil_iff.mp hnil)
    · exact fun c hc => hd.2 c (List.mem_of_mem_drop hc)
    · rw [List.take_append_drop]
    · rw [List.length_drop, Int.ofNat_eq_natCast]
      omega
  | .negSucc p =>
    have hzeros : IsDigits (List.replicate (p + 1) '0') :=
      ⟨List.cons_ne_nil '0' _, fun c hc => isDigit_of_mem_replicate_zero hc⟩
    refine ⟨['0'], List.replicate (p + 1) '0' ++ ds, rfl, .zero, hzeros.append hd.2, ?_, ?_⟩
    · rw [List.singleton_append, Nat.ofDigitChars_cons, Nat.ofDigitChars_append,
        Nat.ofDigitChars_replicate_zero]
      rfl
    · rw [List.length_append, List.length_replicate, Int.negSucc_eq]
      omega

end Positional

namespace Binary64

variable {significand scale n : Nat} {h : Canonical significand scale} {x : Binary64} {z : Int}

theorem significand_ne_zero {negative : Bool}
    (hunits : (finite negative significand scale h).units ≠ 0) : significand ≠ 0 := by
  rintro rfl
  exact hunits (Nat.zero_mul _)

theorem magnitudeText_eq (hne : significand ≠ 0) :
    magnitudeText (finite false significand scale h) =
      positional (shortest .up (finite false significand scale h)).significant.1
        (shortest .up (finite false significand scale h)).significant.2 := by
  have hzero : ¬(finite false significand scale h).isZero = true := by simpa [isZero] using hne
  rw [magnitudeText, if_neg hzero]

/-- A number whose shortest decimal is a natural number is written with the digits of the
natural number. -/
theorem magnitudeText_of_isNatural (hne : significand ≠ 0)
    (hn : (shortest .up (finite false significand scale h)).IsNatural n) :
    magnitudeText (finite false significand scale h) = Nat.toDigits 10 n := by
  rw [magnitudeText_eq hne]
  have hdigits := shortest_digits_ne_zero .up (h := h) hne
  generalize shortest .up (finite false significand scale h) = d at hn hdigits
  obtain ⟨hexponent, rfl⟩ := (Decimal.isNatural_iff hdigits).mp hn
  have hwhole := Decimal.isWhole_significant hdigits
  have hpoint : d.significant.2 = (d.significant.1.length + d.reduced.exponent.toNat : Nat) := by
    have hreduced : d.reduced.exponent = d.significant.2 - d.significant.1.length := rfl
    omega
  have hpos : 0 < d.reduced.digits := by
    refine Nat.pos_of_ne_zero fun hzero => hdigits ?_
    obtain ⟨zeros, hd, -⟩ := d.exists_digits_eq
    rw [hd, hzero, Nat.zero_mul]
  rw [hpoint, positional_of_le (Decimal.significant_ne_nil hdigits), toDigits_mul_pow hpos]
  exact congrArg (· ++ _) hwhole.toDigits_ofDigitChars.symm

/-- A number that is no integer is written with places, and its digits are read as the
number. -/
theorem exists_magnitudeText_eq (hx : ¬unitsInOne ∣ (finite false significand scale h).units) :
    ∃ whole places, magnitudeText (finite false significand scale h) = whole ++ '.' :: places ∧
      IsWhole whole ∧ IsDigits places ∧
      ofDecimal false (Nat.ofDigitChars 10 (whole ++ places) 0) (-(places.length : Int)) =
        finite false significand scale h := by
  have hne : significand ≠ 0 := significand_ne_zero fun hunits => hx (hunits ▸ Nat.dvd_zero _)
  have hread := ofDecimal_shortest .up (h := h) hne
  have hdigits := shortest_digits_ne_zero .up (h := h) hne
  have hplaces : ¬∃ n, (shortest .up (finite false significand scale h)).IsNatural n :=
    fun ⟨n, hn⟩ => hx (dvd_units_of_isNatural_shortest hne hn)
  rw [magnitudeText_eq hne]
  generalize shortest .up (finite false significand scale h) = d at hread hdigits hplaces
  have hreduced : d.reduced.exponent = d.significant.2 - d.significant.1.length := rfl
  have hneg : d.reduced.exponent < 0 := by
    by_contra hle
    exact hplaces ⟨_, (Decimal.isNatural_iff hdigits).mpr ⟨by omega, rfl⟩⟩
  obtain ⟨whole, places, htext, hwhole, hps, hvalue, hlength⟩ :=
    exists_positional_eq (Decimal.isDigits_significant hdigits)
      (Decimal.head?_significant_ne hdigits) (by omega : d.significant.2 < d.significant.1.length)
  refine ⟨whole, places, htext, hwhole, hps, ?_⟩
  rw [hvalue, show -(places.length : Int) = d.reduced.exponent by omega, ← hread]
  exact Decimal.ofDecimal_reduced false (by omega)

/-! ## Numbers as texts -/

/-- A sign before a natural number is the sign of the number next to it. -/
theorem ofInt_of_sign (hn : n ≠ 0) (hread : finite false significand scale h = ofInt n)
    (negative : Bool) :
    ofInt (if negative then -(n : Int) else n) = finite negative significand scale h := by
  have hpack := pack_of_sign ((ofInt_natCast n).symm.trans hread.symm) negative
  cases negative with
  | false => exact hread.symm
  | true =>
    have hnegative : decide (-(n : Int) < 0) = true := decide_eq_true (by omega)
    rw [if_pos rfl, ofInt, hnegative, Int.natAbs_neg, Int.natAbs_natCast]
    exact hpack

/-- An integer other than zero is written with the digits of an integer to which it is the
next number. -/
theorem toText_of_isNatural (hne : significand ≠ 0)
    (hn : (shortest .up (finite false significand scale h)).IsNatural n) (negative : Bool) :
    (finite negative significand scale h).toText =
        Text.integerText (if negative then -(n : Int) else n) ∧
      ofInt (if negative then -(n : Int) else n) = finite negative significand scale h := by
  have hread := eq_ofInt_of_isNatural_shortest hne hn
  have hn0 : n ≠ 0 := by
    rintro rfl
    have hzero : ofInt (0 : Nat) = zero false := by decide +kernel
    rw [hzero] at hread
    cases hread
    exact hne rfl
  refine ⟨?_, ofInt_of_sign hn0 hread negative⟩
  rw [toText, magnitudeText_of_isNatural hne hn, Text.integerText]
  obtain ⟨k, rfl⟩ := Nat.exists_eq_succ_of_ne_zero hn0
  cases negative <;> rfl

theorem exists_toText_eq (hx : x.IsInteger z) (hz : z ≠ 0) :
    ∃ y : Int, x.toText = Text.integerText y ∧ ofInt y = x := by
  have hunits := hx.units_eq
  cases x with
  | nan => cases hx.1
  | infinite negative => cases hx.1
  | finite negative significand scale h =>
    have hpos : 0 < z.natAbs * unitsInOne := Nat.mul_pos (by omega) unitsInOne_pos
    have hne : significand ≠ 0 := significand_ne_zero (Nat.ne_of_gt (hunits ▸ hpos))
    obtain ⟨n, hn⟩ := exists_isNatural_shortest .up (h := h) hne
      ⟨z.natAbs, hunits.trans (Nat.mul_comm _ _)⟩
    exact ⟨_, toText_of_isNatural hne hn negative⟩

/-- The number next to a natural number is written with the digits of the natural number that
its shortest decimal is. -/
theorem exists_toText_ofInt (hn : n ≠ 0) (h : (ofInt n).isFinite = true) :
    ∃ y : Nat, (ofInt n).toText = Text.integerText y ∧
      ∀ z, (shortest .up (ofInt n)).IsNatural z ↔ z = y := by
  have hdvd := (exists_isInteger_iff h).mp (exists_isInteger_ofInt h)
  have hunits := le_units_ofInt (by rw [Int.natAbs_natCast, Nat.pow_zero]; omega) h
  obtain ⟨m, e, hc, heq⟩ := exists_ofInt_natCast_eq h
  rw [heq] at hdvd hunits ⊢
  have hpos : 0 < 2 ^ 0 * unitsInOne := Nat.mul_pos (by decide) unitsInOne_pos
  have hne : m ≠ 0 := significand_ne_zero (Nat.ne_of_gt (Nat.lt_of_lt_of_le hpos hunits))
  obtain ⟨y, hy⟩ := exists_isNatural_shortest .up (h := hc) hne hdvd
  have hdigits := shortest_digits_ne_zero .up (h := hc) hne
  refine ⟨y, (toText_of_isNatural hne hy false).1, fun z => ?_⟩
  rw [Decimal.isNatural_iff hdigits] at hy ⊢
  rw [hy.2]
  exact and_iff_right hy.1

/-- A number that is no integer is written as a number of a literal, and its text is read
as the number. -/
theorem inRange?_toText (hfinite : x.isFinite = true) (hx : ¬∃ z, x.IsInteger z) :
    IsNumber x.toText.toList ∧ Literal.inRange? x.toText = some (.float x) := by
  rw [exists_isInteger_iff hfinite] at hx
  cases x with
  | nan => cases hfinite
  | infinite negative => cases hfinite
  | finite negative significand scale h =>
    obtain ⟨whole, places, htext, hwhole, hplaces, hread⟩ := exists_magnitudeText_eq (h := h) hx
    rw [toText, htext, String.toList_ofList]
    refine ⟨.places negative hwhole hplaces, ?_⟩
    rw [Literal.inRange?, String.toList_ofList, if_pos (by simp),
      Literal.binary64_ofText?_places negative hwhole.isDigits hplaces,
      ofDecimal_of_sign hread negative]
    rfl

end Binary64

end RelQuery
