import Mathlib.Data.List.TakeWhile
import RelQuery.Binary64.Text

/-!
# Numerals

A number stands in a statement as a *numeral*: a minus if any, digits, and a
point with digits after it if any.  There is no exponent, and on both sides of
the point stands at least one digit.

* The text of an integer is a numeral (`isNumeral_integerText`).
* The text of a finite binary64 number is a numeral (`isNumeral_toText`).

In positional notation the digits after the point are those of the shortest
decimal, so it matters that the decimal has any.  It would have none if it were
zero, and zero is not read as the number (`shortest_digits_ne_zero`).
-/

namespace RelQuery

/-! ## The form -/

/-- Whether characters are a run of one or more digits. -/
def IsDigits (cs : List Char) : Prop := cs ≠ [] ∧ ∀ c ∈ cs, c.isDigit = true

/-- Whether characters are a number without a sign. -/
inductive IsUnsigned : List Char → Prop where
  /-- Digits alone. -/
  | whole {ds : List Char} (h : IsDigits ds) : IsUnsigned ds
  /-- Digits, a point and digits. -/
  | places {ds ps : List Char} (hd : IsDigits ds) (hp : IsDigits ps) : IsUnsigned (ds ++ '.' :: ps)

/-- Whether characters are a number of a statement. -/
def IsNumeral (cs : List Char) : Prop :=
  ∃ negative digits, IsUnsigned digits ∧ cs = signText negative ++ digits

theorem isDigits_singleton {c : Char} (h : c.isDigit = true) : IsDigits [c] := by
  refine ⟨List.cons_ne_nil c [], ?_⟩
  intro d hd
  rw [List.mem_singleton.mp hd]
  exact h

theorem IsDigits.append {ds es : List Char} (hd : IsDigits ds) (he : ∀ c ∈ es, c.isDigit = true) :
    IsDigits (ds ++ es) := by
  refine ⟨List.append_ne_nil_of_left_ne_nil hd.1 es, ?_⟩
  intro c hc
  rcases List.mem_append.mp hc with hc | hc
  · exact hd.2 c hc
  · exact he c hc

theorem isDigits_toDigits (n : Nat) : IsDigits (Nat.toDigits 10 n) :=
  ⟨Nat.toDigits_ne_nil, fun _ hc => Nat.isDigit_of_mem_toDigits (by decide) (by decide) hc⟩

theorem isDigit_of_mem_replicate_zero {n : Nat} {c : Char} (h : c ∈ List.replicate n '0') :
    c.isDigit = true := by
  rw [List.eq_of_mem_replicate h]
  rfl

theorem IsNumeral.ne_nil {cs : List Char} (h : IsNumeral cs) : cs ≠ [] := by
  obtain ⟨negative, digits, hdigits, rfl⟩ := h
  refine List.append_ne_nil_of_right_ne_nil _ ?_
  cases hdigits with
  | whole h => exact h.1
  | places hd hp => exact List.append_ne_nil_of_left_ne_nil hd.1 _

/-- A numeral holds digits, a minus and a point, and nothing else. -/
theorem IsNumeral.of_mem {cs : List Char} (h : IsNumeral cs) {c : Char} (hc : c ∈ cs) :
    c = '-' ∨ c = '.' ∨ c.isDigit = true := by
  obtain ⟨negative, digits, hdigits, rfl⟩ := h
  rcases List.mem_append.mp hc with hc | hc
  · cases negative with
    | false => cases hc
    | true => exact .inl (List.mem_singleton.mp hc)
  · cases hdigits with
    | whole h => exact .inr (.inr (h.2 c hc))
    | places hd hp =>
      rcases List.mem_append.mp hc with hc | hc
      · exact .inr (.inr (hd.2 c hc))
      · rcases List.mem_cons.mp hc with hc | hc
        · exact .inr (.inl hc)
        · exact .inr (.inr (hp.2 c hc))

/-! ## Integers -/

/-- The text of an integer is a numeral. -/
theorem isNumeral_integerText (n : Int) : IsNumeral (Text.integerText n).toList := by
  rw [Text.integerText, String.toList_ofList]
  cases n with
  | ofNat n => exact ⟨false, _, .whole (isDigits_toDigits n), rfl⟩
  | negSucc n => exact ⟨true, _, .whole (isDigits_toDigits (n + 1)), rfl⟩

/-! ## Positional notation -/

/-- Digits in positional notation are a number.  Only right after the point a
digit is needed. -/
theorem isUnsigned_positional {digits : List Char} {point : Int}
    (hd : ∀ c ∈ digits, c.isDigit = true) (hne : point = 0 → digits ≠ []) :
    IsUnsigned (positional digits point) := by
  have hzero : IsDigits ['0'] := isDigits_singleton rfl
  match point with
  | .ofNat 0 => exact .places hzero ⟨hne rfl, hd⟩
  | .ofNat (p + 1) =>
    rw [positional]
    split
    next hle =>
      refine .whole ⟨?_, ?_⟩
      · intro hnil
        have hlength := congrArg List.length hnil
        rw [List.length_append, List.length_replicate, List.length_nil] at hlength
        omega
      · intro c hc
        rcases List.mem_append.mp hc with hc | hc
        · exact hd c hc
        · exact isDigit_of_mem_replicate_zero hc
    next hlt =>
      refine .places ⟨?_, fun c hc => hd c (List.mem_of_mem_take hc)⟩
        ⟨?_, fun c hc => hd c (List.mem_of_mem_drop hc)⟩
      · intro hnil
        have hlength := congrArg List.length hnil
        rw [List.length_take, List.length_nil] at hlength
        omega
      · intro hnil
        have hlength := congrArg List.length hnil
        rw [List.length_drop, List.length_nil] at hlength
        omega
    · simp
  | .negSucc p =>
    have hzeros : IsDigits (List.replicate (p + 1) '0') :=
      ⟨List.cons_ne_nil '0' _, fun c hc => isDigit_of_mem_replicate_zero hc⟩
    exact .places hzero (hzeros.append hd)

/-! ## The digits of a decimal -/

/-- A number that is not zero has a digit that is not zero. -/
theorem exists_mem_toDigits_ne_zero {n : Nat} (h : n ≠ 0) : ∃ c ∈ Nat.toDigits 10 n, c ≠ '0' := by
  by_contra hnone
  have hall : ∀ c ∈ Nat.toDigits 10 n, c = '0' := by
    intro c hc
    by_contra hne
    exact hnone ⟨c, hc, hne⟩
  have hreplicate := List.eq_replicate_iff.mpr ⟨rfl, hall⟩
  have hvalue : Nat.ofDigitChars 10 (Nat.toDigits 10 n) 0 = n := Nat.ofDigitChars_ten_toDigits
  rw [hreplicate, Nat.ofDigitChars_replicate_zero, Nat.mul_zero] at hvalue
  exact h hvalue.symm

namespace Decimal

theorem isDigit_of_mem_significant (d : Decimal) {c : Char} (h : c ∈ d.significant.1) :
    c.isDigit = true := by
  have hmem : c ∈ (Nat.toDigits 10 d.digits).reverse :=
    List.dropWhile_sublist _ |>.subset (List.mem_reverse.mp h)
  exact (isDigits_toDigits d.digits).2 c (List.mem_reverse.mp hmem)

/-- Dropping the zeros at the end leaves a digit of any decimal but zero. -/
theorem significant_ne_nil {d : Decimal} (h : d.digits ≠ 0) : d.significant.1 ≠ [] := by
  obtain ⟨c, hc, hne⟩ := exists_mem_toDigits_ne_zero h
  intro hnil
  have hall := List.dropWhile_eq_nil_iff.mp (List.reverse_eq_nil_iff.mp hnil)
  have hzero := hall c (List.mem_reverse.mpr hc)
  exact hne (beq_iff_eq.mp hzero)

end Decimal

/-! ## Binary64 numbers -/

namespace Binary64

theorem natPow_ne_zero {base : Nat} (h : 0 < base) (exponent : Nat) : Nat.pow base exponent ≠ 0 :=
  Nat.ne_of_gt (Nat.pow_pos h)

/-- A number whose significand is not zero is some units. -/
theorem units_ne_zero {negative : Bool} {significand scale : Nat} {h : Canonical significand scale}
    (hne : significand ≠ 0) : (finite negative significand scale h).units ≠ 0 :=
  Nat.mul_ne_zero hne (natPow_ne_zero (by decide) scale)

/-- No digits are the zero of their sign. -/
theorem ofDecimal_zero (negative : Bool) (exponent : Int) :
    ofDecimal negative 0 exponent = zero negative := by
  rw [ofDecimal.eq_def, if_pos rfl]

/-- The shortest decimal of a number is zero for zero alone. -/
theorem shortest_digits_ne_zero (tie : Tie) {significand scale : Nat}
    {h : Canonical significand scale} (hne : significand ≠ 0) :
    (shortest tie (finite false significand scale h)).digits ≠ 0 := by
  rw [shortest]
  cases hhit : (List.range 17).findSome? _ with
  | none =>
    rw [Option.getD_none, expansion]
    -- A variable in place of the exponent keeps the power from being computed.
    generalize 1074 = k
    exact Nat.mul_ne_zero (units_ne_zero hne) (natPow_ne_zero (by decide) k)
  | some d =>
    rw [Option.getD_some]
    intro hzero
    obtain ⟨i, -, hfind⟩ := List.exists_of_findSome?_eq_some hhit
    have hreads := List.find?_some hfind
    rw [readsAs, hzero, beq_iff_eq, ofDecimal_zero, zero] at hreads
    injection hreads with _ hsignificand
    exact hne hsignificand.symm

/-- The magnitude of a number is written without a sign. -/
theorem isUnsigned_magnitudeText {significand scale : Nat} (h : Canonical significand scale) :
    IsUnsigned (magnitudeText (finite false significand scale h)) := by
  rw [magnitudeText]
  split
  next hzero => exact .whole (isDigits_singleton rfl)
  next hzero =>
    have hne : significand ≠ 0 := by simpa [isZero] using hzero
    refine isUnsigned_positional (fun c hc => Decimal.isDigit_of_mem_significant _ hc) ?_
    intro _
    exact Decimal.significant_ne_nil (shortest_digits_ne_zero .up hne)

/-- The text of a finite number is a numeral. -/
theorem isNumeral_toText {x : Binary64} (h : x.isFinite = true) : IsNumeral x.toText.toList := by
  cases x with
  | nan => simp [isFinite] at h
  | infinite negative => simp [isFinite] at h
  | finite negative significand scale hc =>
    rw [toText, String.toList_ofList]
    exact ⟨negative, _, isUnsigned_magnitudeText hc, rfl⟩

end Binary64

end RelQuery
