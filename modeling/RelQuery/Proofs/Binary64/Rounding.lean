import Mathlib.Algebra.Order.Ring.Nat
import RelQuery.Binary64.Basic

/-!
# Rounding in the range

A ratio of units is rounded at the scale at which its significand has 53 bits.  The
quotient at that scale is below `2 ^ 53`, and unless the scale is least it reaches
`2 ^ 52`.  Rounding moves it by at most one, so it stays between the two or becomes
`2 ^ 53`, and `pack` has a finite number for either while the scale is below the
greatest (`isFinite_round`).  An integer is that far from the end of the range by
hundreds of bits (`isFinite_ofInt`).
-/

namespace RelQuery.Binary64

variable {n d significand scale : Nat} {negative : Bool}

/-! ## Quotients -/

/-- A quotient is rounded down or up. -/
theorem divRound_bounds (n d : Nat) : n / d ≤ divRound n d ∧ divRound n d ≤ n / d + 1 := by
  rw [divRound]
  split
  · exact ⟨Nat.le_succ _, Nat.le_refl _⟩
  · exact ⟨Nat.le_refl _, Nat.le_succ _⟩

/-- A number has at most 53 bits at its scale. -/
theorem div_pow_scale_lt (q : Nat) : q / 2 ^ (q.log2 - 52) < 2 ^ 53 := by
  refine Nat.div_lt_of_lt_mul ?_
  calc q < 2 ^ (q.log2 + 1) := Nat.lt_log2_self
    _ ≤ 2 ^ (q.log2 - 52 + 53) := Nat.pow_le_pow_right (by decide) (by omega)
    _ = 2 ^ (q.log2 - 52) * 2 ^ 53 := Nat.pow_add 2 _ _

/-- A number has at least 53 bits at its scale, unless that is the least. -/
theorem le_div_pow_scale {q : Nat} (h : q.log2 - 52 ≠ 0) : 2 ^ 52 ≤ q / 2 ^ (q.log2 - 52) := by
  have hq : q ≠ 0 := by
    rintro rfl
    exact h rfl
  refine (Nat.le_div_iff_mul_le (Nat.two_pow_pos _)).mpr ?_
  calc 2 ^ 52 * 2 ^ (q.log2 - 52) = 2 ^ q.log2 := by
        rw [← Nat.pow_add]
        exact congrArg _ (by omega)
    _ ≤ q := Nat.log2_self_le hq

/-- A product has at most as many bits as its factors together. -/
theorem log2_mul_lt {m n j k : Nat} (hm : m.log2 < j) (hn : n.log2 < k) :
    (m * n).log2 < j + k := by
  by_cases hzero : m * n = 0
  · rw [hzero, Nat.log2_zero]
    omega
  · obtain ⟨hm', hn'⟩ := Nat.mul_ne_zero_iff.mp hzero
    rw [Nat.log2_lt hzero, Nat.pow_add]
    exact Nat.mul_lt_mul'' ((Nat.log2_lt hm').mp hm) ((Nat.log2_lt hn').mp hn)

theorem log2_unitsInOne : unitsInOne.log2 = 1074 := by decide +kernel

/-! ## Finite numbers -/

/-- A significand of 53 bits, or `2 ^ 53`, is finite below the greatest scale. -/
theorem isFinite_pack (hhigh : significand ≤ 2 ^ 53) (hlow : scale = 0 ∨ 2 ^ 52 ≤ significand)
    (hscale : scale < 2045) : (pack negative significand scale).isFinite = true := by
  rw [pack]
  split
  · rfl
  next hcanonical =>
    -- What is not canonical has one bit too many.
    have hmost : significand = 0x20000000000000 := by
      rw [Canonical] at hcanonical
      omega
    rw [dif_pos ⟨hmost, hscale⟩]
    rfl

/-- A ratio below `2 ^ 2097` units is rounded to a finite number. -/
theorem isFinite_round (h : (n / d).log2 < 2097) : (round negative n d).isFinite = true := by
  have hquotient : n / (d * Nat.pow 2 ((n / d).log2 - 52)) = n / d / 2 ^ ((n / d).log2 - 52) :=
    (Nat.div_div_eq_div_mul n d _).symm
  have hbounds := divRound_bounds n (d * Nat.pow 2 ((n / d).log2 - 52))
  rw [hquotient] at hbounds
  have hlt := div_pow_scale_lt (n / d)
  refine isFinite_pack (by omega) ?_ (by omega)
  by_cases hscale : (n / d).log2 - 52 = 0
  · exact .inl hscale
  · have hle := le_div_pow_scale hscale
    exact .inr (by omega)

/-- An integer of at most 1022 bits has a finite number next to it. -/
theorem isFinite_ofInt {n : Int} (h : n.natAbs.log2 < 1022) : (ofInt n).isFinite = true := by
  refine isFinite_round ?_
  rw [Nat.div_one]
  exact log2_mul_lt h (Nat.lt_succ_of_le (Nat.le_of_eq log2_unitsInOne))

/-- Every integer that a document holds has a finite number next to it. -/
theorem isFinite_ofInt_of_fits {n : Int}
    (h : -0x8000000000000000 ≤ n ∧ n < 0x10000000000000000) : (ofInt n).isFinite = true := by
  refine isFinite_ofInt ?_
  by_cases hn : n.natAbs = 0
  · rw [hn]
    decide
  · have hlt : n.natAbs.log2 < 64 := (Nat.log2_lt hn).mpr (by omega)
    omega

end RelQuery.Binary64
