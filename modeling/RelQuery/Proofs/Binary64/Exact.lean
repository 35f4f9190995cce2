import RelQuery.Proofs.Binary64.Numeral
import RelQuery.Proofs.Binary64.Rounding

/-!
# Exact numbers

A ratio that is a number of the format is rounded to that number (`round_units`), and
ratios with the same value are rounded alike (`round_mul_mul`).

A number *is* an integer when its units are those of the integer (`IsInteger`).

* An integer that any number is, is the integer of the number next to it
  (`isInteger_ofInt`), so `ofInt` loses nothing that the format can hold.
* The number next to an integer is an integer itself (`exists_isInteger_ofInt`): at 53
  bits a significand either holds every unit of the integer or counts more than one.
  Next to a natural number with more bits is the multiple of a power of two next to it
  (`isInteger_ofInt_divRound`).
* It stays on the side of a power of two on which the integer is (`le_units_ofInt`,
  `units_ofInt_le`).
* The integers of sixty-four bits are read off except the least (`toInt64?_eq_some_iff`).
-/

namespace RelQuery.Binary64

variable {n d k significand scale : Nat} {negative : Bool} {x : Binary64} {z : Int}

/-! ## Ratios -/

/-- A quotient is rounded as its ratio is, in any terms. -/
theorem divRound_mul_mul (n d : Nat) (hk : 0 < k) : divRound (n * k) (d * k) = divRound n d := by
  have hlt : d * k < 2 * (n % d * k) ↔ d < 2 * (n % d) := by
    rw [← Nat.mul_assoc]
    exact Nat.mul_lt_mul_right hk
  have heq : d * k = 2 * (n % d * k) ↔ d = 2 * (n % d) := by
    rw [← Nat.mul_assoc]
    exact Nat.mul_left_inj (Nat.ne_of_gt hk)
  simp only [divRound, Nat.mul_div_mul_right n d hk, Nat.mul_mod_mul_right, hlt, heq]

/-- A ratio is rounded alike in any terms. -/
theorem round_mul_mul (negative : Bool) (n d : Nat) (hk : 0 < k) :
    round negative (n * k) (d * k) = round negative n d := by
  simp only [round, Nat.mul_div_mul_right n d hk]
  rw [Nat.mul_right_comm, divRound_mul_mul n _ hk]

/-- A multiple is divided without a rest. -/
theorem divRound_mul (n : Nat) (hd : 0 < d) : divRound (n * d) d = n := by
  rw [divRound, Nat.mul_div_cancel n hd, Nat.mul_mod_left, if_neg (by omega)]

/-- Less than half a unit is rounded to zero. -/
theorem round_eq_zero (negative : Bool) (h : 2 * n < d) : round negative n d = zero negative := by
  have hquotient : n / d = 0 := Nat.div_eq_of_lt (by omega)
  have hrest : n % d = n := Nat.mod_eq_of_lt (by omega)
  have hscale : (n / d).log2 - 52 = 0 := by
    rw [hquotient]
    rfl
  have hone : d * Nat.pow 2 0 = d := Nat.mul_one d
  rw [round, hscale, hone, divRound, hquotient, hrest, if_neg (by omega)]
  rfl

/-! ## Numbers of the format -/

theorem log2_mul_two_pow (hn : n ≠ 0) (k : Nat) : (n * 2 ^ k).log2 = n.log2 + k := by
  have hne : n * 2 ^ k ≠ 0 := Nat.mul_ne_zero hn (Nat.ne_of_gt (Nat.two_pow_pos k))
  refine (Nat.log2_eq_iff hne).mpr ⟨?_, ?_⟩
  · rw [Nat.pow_add]
    exact Nat.mul_le_mul_right _ (Nat.log2_self_le hn)
  · rw [Nat.add_right_comm, Nat.pow_add]
    exact Nat.mul_lt_mul_of_pos_right Nat.lt_log2_self (Nat.two_pow_pos k)

/-- A canonical number has 53 bits at its scale, or the scale is least. -/
theorem log2_sub_of_canonical (h : Canonical significand scale) :
    (significand * 2 ^ scale).log2 - 52 = scale := by
  obtain ⟨hhigh, -, hlow⟩ := h
  by_cases hzero : significand = 0
  · have hscale : scale = 0 := by omega
    rw [hzero, Nat.zero_mul, hscale]
    rfl
  · have hlt : significand.log2 < 53 := (Nat.log2_lt hzero).mpr hhigh
    rw [log2_mul_two_pow hzero]
    obtain hlow | rfl := hlow
    · have hle : 52 ≤ significand.log2 := (Nat.le_log2 hzero).mpr hlow
      omega
    · omega

/-- A number of the format is rounded to itself. -/
theorem round_units (negative : Bool) {p : Bool} (h : Canonical significand scale) :
    round negative (finite p significand scale h).units 1 = finite negative significand scale h := by
  have hscale := log2_sub_of_canonical h
  have hunits : (finite p significand scale h).units = significand * 2 ^ scale := rfl
  have hpow : 1 * Nat.pow 2 scale = 2 ^ scale := Nat.one_mul _
  rw [round, hunits, Nat.div_one, hscale, hpow, divRound_mul _ (Nat.two_pow_pos scale), pack,
    dif_pos h]

/-- A significand stays as it is, or counts one scale higher, or is too great.  The sign is no
matter. -/
theorem pack_cases (significand scale : Nat) :
    (∃ h, ∀ negative, pack negative significand scale = finite negative significand scale h) ∨
    (significand = 2 ^ 53 ∧
      ∃ h, ∀ negative, pack negative significand scale = finite negative (2 ^ 52) (scale + 1) h) ∨
    ∀ negative, pack negative significand scale = infinite negative := by
  by_cases hcanonical : Canonical significand scale
  · exact .inl ⟨hcanonical, fun _ => dif_pos hcanonical⟩
  · by_cases hmost : significand = 0x20000000000000 ∧ scale < 2045
    · refine .inr (.inl ⟨hmost.1, ⟨by decide, by omega, .inl (by decide)⟩, fun negative => ?_⟩)
      rw [pack, dif_neg hcanonical, dif_pos hmost]
      rfl
    · refine .inr (.inr fun negative => ?_)
      rw [pack, dif_neg hcanonical, dif_neg hmost]

/-- A packed significand counts what it counted before. -/
theorem units_pack (h : (pack negative significand scale).isFinite = true) :
    (pack negative significand scale).units = significand * 2 ^ scale := by
  obtain ⟨_, heq⟩ | ⟨rfl, _, heq⟩ | heq := pack_cases significand scale
  · rw [heq]
    rfl
  · rw [heq]
    show 2 ^ 52 * 2 ^ (scale + 1) = 2 ^ 53 * 2 ^ scale
    rw [← Nat.pow_add, ← Nat.pow_add]
    exact congrArg _ (by omega)
  · rw [heq] at h
    cases h

/-- A packed significand keeps its sign. -/
theorem exists_pack_eq (h : (pack negative significand scale).isFinite = true) :
    ∃ m e hc, pack negative significand scale = finite negative m e hc := by
  obtain ⟨_, heq⟩ | ⟨-, _, heq⟩ | heq := pack_cases significand scale
  · exact ⟨_, _, _, heq negative⟩
  · exact ⟨_, _, _, heq negative⟩
  · rw [heq] at h
    cases h

/-- A rounded whole number counts the units of its rounded significand. -/
theorem units_round (h : (round negative n 1).isFinite = true) :
    (round negative n 1).units = divRound n (2 ^ (n.log2 - 52)) * 2 ^ (n.log2 - 52) := by
  have hround : round negative n 1 =
      pack negative (divRound n (2 ^ (n.log2 - 52))) (n.log2 - 52) := by
    have hpow : 1 * Nat.pow 2 (n.log2 - 52) = 2 ^ (n.log2 - 52) := Nat.one_mul _
    rw [round, Nat.div_one, hpow]
  rw [hround] at h ⊢
  exact units_pack h

/-- A whole number keeps its highest bit, or the next higher is all that is left. -/
theorem units_round_bounds (hn : n ≠ 0) (h : (round negative n 1).isFinite = true) :
    2 ^ n.log2 ≤ (round negative n 1).units ∧ (round negative n 1).units ≤ 2 ^ (n.log2 + 1) := by
  rw [units_round h]
  by_cases hscale : n.log2 - 52 = 0
  · rw [hscale, Nat.pow_zero, Nat.mul_one]
    have hexact := divRound_mul n Nat.one_pos
    rw [Nat.mul_one] at hexact
    rw [hexact]
    exact ⟨Nat.log2_self_le hn, Nat.le_of_lt Nat.lt_log2_self⟩
  · have hbounds := divRound_bounds n (2 ^ (n.log2 - 52))
    have hlow := le_div_pow_scale hscale
    have hhigh := div_pow_scale_lt n
    have hlog : n.log2 = 52 + (n.log2 - 52) := by omega
    have hlog' : n.log2 + 1 = 53 + (n.log2 - 52) := by omega
    constructor
    · rw [hlog, Nat.pow_add, ← hlog]
      exact Nat.mul_le_mul_right _ (by omega)
    · rw [hlog', Nat.pow_add]
      exact Nat.mul_le_mul_right _ (by omega)

/-! ## Integers -/

/-- The units of a finite number with its sign. -/
def signedUnits : Binary64 → Int
  | finite negative significand scale h =>
    if negative then -((finite negative significand scale h).units : Int)
    else (finite negative significand scale h).units
  | _ => 0

/-- Whether a number is exactly an integer. -/
def IsInteger (x : Binary64) (z : Int) : Prop :=
  x.isFinite = true ∧ x.signedUnits = z * unitsInOne

/-- One is a power of two in units. -/
theorem unitsInOne_eq : unitsInOne = 2 ^ unitsInOne.log2 := by decide +kernel

/-- The same, for proofs that need not know which power it is. -/
theorem exists_unitsInOne_eq : ∃ bits, unitsInOne = 2 ^ bits := ⟨_, unitsInOne_eq⟩

theorem unitsInOne_pos : 0 < unitsInOne := by
  rw [unitsInOne_eq]
  exact Nat.two_pow_pos _

theorem natAbs_signedUnits (x : Binary64) : x.signedUnits.natAbs = x.units := by
  cases x with
  | nan => rfl
  | infinite negative => rfl
  | finite negative significand scale h =>
    rw [signedUnits]
    split
    · rw [Int.natAbs_neg, Int.natAbs_natCast]
    · rw [Int.natAbs_natCast]

/-- A number that is an integer has the units of its magnitude. -/
theorem IsInteger.units_eq (h : x.IsInteger z) : x.units = z.natAbs * unitsInOne := by
  rw [← natAbs_signedUnits, h.2, Int.natAbs_mul, Int.natAbs_natCast]

/-- A number is one integer at most. -/
theorem IsInteger.unique {z' : Int} (h : x.IsInteger z) (h' : x.IsInteger z') : z = z' := by
  have hne : (unitsInOne : Int) ≠ 0 := Int.natCast_ne_zero.mpr (Nat.ne_of_gt unitsInOne_pos)
  exact Int.eq_of_mul_eq_mul_right hne (h.2.symm.trans h'.2)

/-- A number with the units of a magnitude is the integer with its sign. -/
theorem isInteger_finite (negative : Bool) (h : Canonical significand scale)
    (hn : (finite negative significand scale h).units = n * unitsInOne) :
    (finite negative significand scale h).IsInteger (if negative then -(n : Int) else n) := by
  refine ⟨rfl, ?_⟩
  rw [signedUnits, hn]
  split
  · rw [Int.natCast_mul, Int.neg_mul]
  · rw [Int.natCast_mul]

/-- A finite number is an integer when its units make whole ones. -/
theorem exists_isInteger_iff (h : x.isFinite = true) :
    (∃ z, x.IsInteger z) ↔ unitsInOne ∣ x.units := by
  constructor
  · rintro ⟨z, hz⟩
    exact ⟨z.natAbs, by rw [hz.units_eq, Nat.mul_comm]⟩
  · rintro ⟨n, hn⟩
    cases x with
    | nan => cases h
    | infinite negative => cases h
    | finite negative significand scale hc =>
      exact ⟨_, isInteger_finite negative hc (hn.trans (Nat.mul_comm _ _))⟩

/-- A number that is zero is one of the zeros. -/
theorem exists_eq_zero (h : x.IsInteger 0) : ∃ negative, x = zero negative := by
  have hunits := h.units_eq
  cases x with
  | nan => cases h.1
  | infinite negative => cases h.1
  | finite negative significand scale hc =>
    refine ⟨negative, ?_⟩
    have hsignificand : significand = 0 := by
      by_contra hne
      refine units_ne_zero hne (hunits.trans ?_)
      rw [Int.natAbs_zero, Nat.zero_mul]
    have hscale : scale = 0 := by
      obtain ⟨-, -, hlow⟩ := hc
      omega
    subst hsignificand hscale
    rfl

/-! ## The number next to an integer -/

theorem ofInt_natCast (n : Nat) : ofInt n = round false (n * unitsInOne) 1 := by
  have hnegative : decide ((n : Int) < 0) = false := decide_eq_false (by omega)
  rw [ofInt, hnegative, Int.natAbs_natCast]

/-- The number next to a natural number has no sign. -/
theorem exists_ofInt_natCast_eq (h : (ofInt n).isFinite = true) :
    ∃ m e hc, ofInt n = finite false m e hc := by
  rw [ofInt_natCast, round] at h ⊢
  exact exists_pack_eq h

/-- An integer that some number is, is the integer of the number next to it. -/
theorem isInteger_ofInt (h : x.IsInteger z) : (ofInt z).IsInteger z := by
  have hunits := h.units_eq
  cases x with
  | nan => cases h.1
  | infinite negative => cases h.1
  | finite negative significand scale hc =>
    rw [ofInt, ← hunits, round_units]
    have hinteger := isInteger_finite (decide (z < 0)) hc hunits
    by_cases hz : z < 0
    · rw [if_pos (decide_eq_true hz)] at hinteger
      rwa [show (-(z.natAbs : Int)) = z by omega] at hinteger
    · rw [if_neg (by simpa using hz)] at hinteger
      rwa [show (z.natAbs : Int) = z by omega] at hinteger

/-- An integer has two numbers only where it is zero. -/
theorem ofInt_of_isInteger (h : x.IsInteger z) (hz : z ≠ 0) : ofInt z = x := by
  have hunits := h.units_eq
  cases x with
  | nan => cases h.1
  | infinite negative => cases h.1
  | finite negative significand scale hc =>
    have hsign := h.unique (isInteger_finite negative hc hunits)
    have hnegative : decide (z < 0) = negative := by
      cases negative with
      | false =>
        rw [if_neg Bool.false_ne_true] at hsign
        exact decide_eq_false (by omega)
      | true =>
        rw [if_pos rfl] at hsign
        exact decide_eq_true (by omega)
    rw [ofInt, ← hunits, round_units, hnegative]

/-- The number next to an integer is an integer. -/
theorem exists_isInteger_ofInt (h : (ofInt z).isFinite = true) :
    ∃ z', (ofInt z).IsInteger z' := by
  obtain ⟨bits, hbits⟩ := exists_unitsInOne_eq
  rw [exists_isInteger_iff h]
  rw [ofInt] at h ⊢
  rw [units_round h, hbits]
  generalize (z.natAbs * 2 ^ bits).log2 - 52 = scale
  by_cases hscale : bits ≤ scale
  · exact Nat.dvd_mul_left_of_dvd (Nat.pow_dvd_pow 2 hscale) _
  · -- Every unit of the integer is held, and nothing is rounded.
    have hpow : 2 ^ bits = 2 ^ (bits - scale) * 2 ^ scale := by
      rw [← Nat.pow_add]
      exact congrArg _ (by omega)
    rw [hpow, ← Nat.mul_assoc, divRound_mul _ (Nat.two_pow_pos scale), Nat.mul_assoc]
    exact Nat.dvd_mul_left _ _

/-- The number next to a natural number of `53 + k` bits is the multiple of `2 ^ k` next to
it. -/
theorem isInteger_ofInt_divRound (hlog : n.log2 = 52 + k) (h : (ofInt n).isFinite = true) :
    (ofInt n).IsInteger (divRound n (2 ^ k) * 2 ^ k : Nat) := by
  obtain ⟨bits, hbits⟩ := exists_unitsInOne_eq
  have hne : n ≠ 0 := by
    rintro rfl
    rw [Nat.log2_zero] at hlog
    omega
  have hunits : (ofInt n).units = divRound n (2 ^ k) * 2 ^ k * unitsInOne := by
    rw [ofInt_natCast] at h ⊢
    have hscale : (n * 2 ^ bits).log2 - 52 = k + bits := by
      rw [log2_mul_two_pow hne, hlog]
      omega
    rw [units_round h, hbits, hscale, Nat.pow_add, divRound_mul_mul n _ (Nat.two_pow_pos bits),
      Nat.mul_assoc]
  obtain ⟨significand, scale, hc, heq⟩ := exists_ofInt_natCast_eq h
  rw [heq] at hunits ⊢
  exact isInteger_finite false hc hunits

/-- A natural number of `53 + k` bits is a number exactly when it is a multiple of `2 ^ k`. -/
theorem isInteger_ofInt_iff_dvd (hlog : n.log2 = 52 + k) (h : (ofInt n).isFinite = true) :
    (ofInt n).IsInteger n ↔ 2 ^ k ∣ n := by
  have hnext := isInteger_ofInt_divRound hlog h
  constructor
  · intro hn
    rw [Int.natCast_inj.mp (hn.unique hnext)]
    exact Nat.dvd_mul_left _ _
  · rintro ⟨m, hm⟩
    rwa [hm, Nat.mul_comm, divRound_mul m (Nat.two_pow_pos k), Nat.mul_comm, ← hm] at hnext

/-- The number next to an integer is not below a power of two that the integer reaches. -/
theorem le_units_ofInt (hz : 2 ^ k ≤ z.natAbs) (h : (ofInt z).isFinite = true) :
    2 ^ k * unitsInOne ≤ (ofInt z).units := by
  obtain ⟨bits, hbits⟩ := exists_unitsInOne_eq
  have hne : z.natAbs ≠ 0 := Nat.ne_of_gt (Nat.lt_of_lt_of_le (Nat.two_pow_pos k) hz)
  have hne' : z.natAbs * 2 ^ bits ≠ 0 := Nat.mul_ne_zero hne (Nat.ne_of_gt (Nat.two_pow_pos bits))
  rw [ofInt, hbits] at h ⊢
  refine Nat.le_trans ?_ (units_round_bounds hne' h).1
  rw [log2_mul_two_pow hne, ← Nat.pow_add]
  exact Nat.pow_le_pow_right (by decide) (Nat.add_le_add_right ((Nat.le_log2 hne).mpr hz) _)

/-- The number next to an integer is not above a power of two that the integer does not
reach. -/
theorem units_ofInt_le (hz : z.natAbs < 2 ^ k) (h : (ofInt z).isFinite = true) :
    (ofInt z).units ≤ 2 ^ k * unitsInOne := by
  by_cases hne : z.natAbs = 0
  · have hunits : (ofInt 0).units = 0 := by decide +kernel
    rw [Int.natAbs_eq_zero.mp hne, hunits]
    exact Nat.zero_le _
  · obtain ⟨bits, hbits⟩ := exists_unitsInOne_eq
    have hne' : z.natAbs * 2 ^ bits ≠ 0 :=
      Nat.mul_ne_zero hne (Nat.ne_of_gt (Nat.two_pow_pos bits))
    rw [ofInt, hbits] at h ⊢
    have hlt : z.natAbs.log2 < k := (Nat.log2_lt hne).mpr hz
    refine Nat.le_trans (units_round_bounds hne' h).2 ?_
    rw [log2_mul_two_pow hne, ← Nat.pow_add]
    exact Nat.pow_le_pow_right (by decide) (by omega)

/-! ## Integers of sixty-four bits -/

/-- An integer of sixty-four bits is read off exactly a number that is this integer, and
the least is never read off. -/
theorem toInt64?_eq_some_iff {n : Int64} :
    x.toInt64? = some n ↔ x.IsInteger n.toInt ∧ n ≠ Int64.minValue := by
  cases x with
  | nan => exact ⟨nofun, fun h => nomatch h.1.1⟩
  | infinite negative => exact ⟨nofun, fun h => nomatch h.1.1⟩
  | finite negative significand scale hc =>
    rw [toInt64?]
    constructor
    · intro h
      split at h
      next hwhole =>
        obtain ⟨hrest, hlt⟩ := hwhole
        have hunits : (finite negative significand scale hc).units =
            (finite negative significand scale hc).units / unitsInOne * unitsInOne :=
          (Nat.div_mul_cancel (Nat.dvd_of_mod_eq_zero hrest)).symm
        generalize (finite negative significand scale hc).units / unitsInOne = m at h hlt hunits
        have hinteger := isInteger_finite negative hc hunits
        cases Option.some.inj h
        have hvalue : (Int64.ofInt (if negative = true then -(m : Int) else m)).toInt =
            if negative = true then -(m : Int) else m := by
          apply Int64.toInt_ofInt_of_le
          · split <;> omega
          · split <;> omega
        refine ⟨hvalue.symm ▸ hinteger, fun hmin => ?_⟩
        rw [hmin, Int64.toInt_minValue] at hvalue
        split at hvalue <;> omega
      next => cases h
    · rintro ⟨h, hmin⟩
      have hunits := h.units_eq
      have hlow := n.le_toInt
      have hhigh := n.toInt_lt
      have hne : n.toInt ≠ -2 ^ 63 := fun hn => hmin (Int64.toInt_inj.mp hn)
      have hsigned := h.2.symm.trans (isInteger_finite negative hc hunits).2
      have hcancel := Int.eq_of_mul_eq_mul_right
        (Int.natCast_ne_zero.mpr (Nat.ne_of_gt unitsInOne_pos)) hsigned
      rw [hunits, Nat.mul_mod_left, Nat.mul_div_cancel _ unitsInOne_pos, if_pos ⟨rfl, by omega⟩]
      simp only
      rw [← hcancel, Int64.ofInt_toInt]

end RelQuery.Binary64
