import Mathlib.Tactic.Ring
import RelQuery.Proofs.Binary64.Exact

/-!
# The shortest decimal

What `ofDecimal` makes of a decimal depends on its value alone, not on how many zeros its
digits end in (`ofDecimal_mul_pow`).  Its two comparisons with the exponent only save
work: a decimal below the one for small exponents is less than half a unit.

The search for the shortest decimal of a number finds one that is read as the number, and
the exact expansion behind the search is read as the number as well
(`ofDecimal_shortest`).  The decimal is a natural number exactly when the number is an
integer.

* The grid without places comes after the coarser ones and before the finer ones.  An
  integer is a point of it, so the search ends there at the latest
  (`exists_isNatural_shortest`).
* Whatever is read from a natural number is the number next to it, which is an integer
  (`eq_ofInt_of_isNatural_shortest`).
* From `2 ^ 63` on, numbers are so far apart that the grid of the thousands is fine enough,
  and the natural number ends in three zeros (`thousand_dvd_of_isNatural_shortest`).
-/

namespace RelQuery

/-- Whether a decimal is a natural number. -/
def Decimal.IsNatural (d : Decimal) (n : Nat) : Prop :=
  ∃ a b : Nat, d.exponent = (a : Int) - b ∧ d.digits * 10 ^ a = n * 10 ^ b

/-- A decimal without places is a natural number. -/
theorem Decimal.exists_isNatural {d : Decimal} (h : 0 ≤ d.exponent) : ∃ n, d.IsNatural n := by
  refine ⟨d.digits * 10 ^ d.exponent.toNat, d.exponent.toNat, 0, by omega, ?_⟩
  rw [Nat.pow_zero, Nat.mul_one]

/-- The digits of a multiple of a power of ten end in zeros. -/
theorem toDigits_mul_pow {n : Nat} (hn : 0 < n) (k : Nat) :
    Nat.toDigits 10 (n * 10 ^ k) = Nat.toDigits 10 n ++ List.replicate k '0' := by
  induction k with
  | zero => simp
  | succ k ih =>
    have hpos : 0 < n * 10 ^ k := Nat.mul_pos hn (Nat.pow_pos (by decide))
    have hzero : Nat.toDigits 10 0 = ['0'] := rfl
    have hten : n * 10 ^ (k + 1) = 10 * (n * 10 ^ k) + 0 := by
      rw [Nat.pow_succ]
      ring
    rw [hten, ← Nat.toDigits_append_toDigits (by decide) hpos (by decide), ih, hzero,
      List.append_assoc, ← List.replicate_succ']

namespace Binary64

variable {significand scale digits : Nat} {negative : Bool} {tie : Tie} {x : Binary64}

/-! ## The value of a decimal -/

/-- A decimal is rounded as the ratio of units that it is. -/
theorem ofDecimal_eq_round (negative : Bool) (hne : digits ≠ 0) {a b : Nat}
    (h : (a : Int) - b ≤ 310) :
    ofDecimal negative digits ((a : Int) - b) =
      round negative (digits * 10 ^ a * unitsInOne) (10 ^ b) := by
  rw [ofDecimal.eq_def, if_neg hne, if_neg (by omega)]
  split
  next hlow =>
    -- The decimal is less than half a unit.
    obtain ⟨places, hplaces, hunit⟩ : ∃ places, places = 331 ∧ 4 * unitsInOne ≤ 10 ^ places :=
      ⟨331, rfl, by decide +kernel⟩
    obtain ⟨r, rfl⟩ : ∃ r, b = a + digits.log2 + places + r :=
      ⟨b - (a + digits.log2 + places), by omega⟩
    have hdigits : digits < 2 ^ digits.log2 * 2 := by
      rw [← Nat.pow_succ]
      exact Nat.lt_log2_self
    have hpow : 2 ^ digits.log2 ≤ 10 ^ digits.log2 := Nat.pow_le_pow_left (by decide) _
    refine (round_eq_zero negative ?_).symm
    calc 2 * (digits * 10 ^ a * unitsInOne) = digits * (2 * unitsInOne * 10 ^ a) := by ring
      _ < 2 ^ digits.log2 * 2 * (2 * unitsInOne * 10 ^ a) :=
        Nat.mul_lt_mul_of_pos_right hdigits (Nat.mul_pos
          (Nat.mul_pos (by decide) unitsInOne_pos) (Nat.pow_pos (by decide)))
      _ = 2 ^ digits.log2 * (4 * unitsInOne) * 10 ^ a := by ring
      _ ≤ 10 ^ digits.log2 * 10 ^ places * 10 ^ a :=
        Nat.mul_le_mul_right _ (Nat.mul_le_mul hpow hunit)
      _ = 10 ^ (a + digits.log2 + places) := by
        rw [Nat.pow_add, Nat.pow_add]
        ring
      _ ≤ 10 ^ (a + digits.log2 + places + r) := Nat.pow_le_pow_right (by decide) (by omega)
  next =>
    obtain ⟨k, rfl⟩ | ⟨k, rfl⟩ : (∃ k, a = k + b) ∨ ∃ k, b = a + (k + 1) := by
      by_cases hle : b ≤ a
      · exact .inl ⟨a - b, by omega⟩
      · exact .inr ⟨b - a - 1, by omega⟩
    · have hexponent : ((k + b : Nat) : Int) - b = Int.ofNat k := by
        rw [Int.ofNat_eq_natCast]
        omega
      have hratio := round_mul_mul negative (digits * 10 ^ k * unitsInOne) 1
        (Nat.pow_pos (by decide) : 0 < 10 ^ b)
      rw [hexponent]
      show round negative (digits * 10 ^ k * unitsInOne) 1 = _
      rw [← hratio, Nat.one_mul, Nat.pow_add]
      exact congrArg (round negative · (10 ^ b)) (by ring)
    · have hexponent : (a : Int) - (a + (k + 1) : Nat) = Int.negSucc k := by
        rw [Int.negSucc_eq]
        omega
      have hratio := round_mul_mul negative (digits * unitsInOne) (10 ^ (k + 1))
        (Nat.pow_pos (by decide) : 0 < 10 ^ a)
      rw [hexponent]
      show round negative (digits * unitsInOne) (10 ^ (k + 1)) = _
      rw [← hratio, ← Nat.pow_add, Nat.add_comm (k + 1) a]
      exact congrArg (round negative · (10 ^ (a + (k + 1)))) (by ring)

/-- A decimal is the same number with zeros after its digits. -/
theorem ofDecimal_mul_pow (negative : Bool) (digits k : Nat) {exponent : Int}
    (h : exponent ≤ 310) :
    ofDecimal negative (digits * 10 ^ k) (exponent - k) = ofDecimal negative digits exponent := by
  by_cases hne : digits = 0
  · rw [hne, Nat.zero_mul, ofDecimal_zero, ofDecimal_zero]
  · obtain ⟨a, b, rfl⟩ : ∃ a b : Nat, exponent = (a : Int) - b :=
      ⟨exponent.toNat, (-exponent).toNat, (Int.toNat_sub_toNat_neg exponent).symm⟩
    have hpow : 0 < 10 ^ k := Nat.pow_pos (by decide)
    have hexponent : (a : Int) - b - k = (a : Int) - (b + k : Nat) := by omega
    have hunits : digits * 10 ^ k * 10 ^ a * unitsInOne = digits * 10 ^ a * unitsInOne * 10 ^ k := by
      ring
    rw [hexponent, ofDecimal_eq_round negative (Nat.mul_ne_zero hne (Nat.ne_of_gt hpow)) (by omega),
      ofDecimal_eq_round negative hne h, hunits, Nat.pow_add, round_mul_mul negative _ _ hpow]

/-- A decimal that is a natural number is read as that number. -/
theorem ofDecimal_of_isNatural (negative : Bool) {d : Decimal} {n : Nat} (hd : d.IsNatural n)
    (h : d.exponent ≤ 310) :
    ofDecimal negative d.digits d.exponent = ofDecimal negative n 0 := by
  obtain ⟨a, b, hexponent, hvalue⟩ := hd
  have hdigits := ofDecimal_mul_pow negative d.digits a h
  have hnatural := ofDecimal_mul_pow negative n b (by decide : (0 : Int) ≤ 310)
  rw [← hdigits, ← hnatural, hvalue]
  exact congrArg (ofDecimal negative _) (by omega)

/-- A natural number is read as the number next to it. -/
theorem ofDecimal_natCast (n : Nat) : ofDecimal false n 0 = ofInt n := by
  by_cases hne : n = 0
  · rw [hne]
    decide +kernel
  · have hround := ofDecimal_eq_round false hne (a := 0) (b := 0) (by decide)
    rw [ofInt_natCast]
    simpa using hround

/-- A decimal with too many zeros before the point is infinite. -/
theorem exponent_le_of_isFinite {exponent : Int} (hne : digits ≠ 0)
    (h : (ofDecimal negative digits exponent).isFinite = true) : exponent ≤ 310 := by
  by_contra hhigh
  rw [ofDecimal.eq_def, if_neg hne, if_pos (by omega)] at h
  cases h

/-- The sign is no matter of rounding. -/
theorem pack_of_sign {m e : Nat} {h : Canonical significand scale}
    (hm : pack false m e = finite false significand scale h) (negative : Bool) :
    pack negative m e = finite negative significand scale h := by
  obtain ⟨_, heq⟩ | ⟨-, _, heq⟩ | heq := pack_cases m e
  · cases (heq false).symm.trans hm
    exact heq negative
  · cases (heq false).symm.trans hm
    exact heq negative
  · cases (heq false).symm.trans hm

/-- A sign before the digits is the sign of the number. -/
theorem ofDecimal_of_sign {h : Canonical significand scale} {exponent : Int}
    (hread : ofDecimal false digits exponent = finite false significand scale h)
    (negative : Bool) :
    ofDecimal negative digits exponent = finite negative significand scale h := by
  by_cases hne : digits = 0
  · rw [hne, ofDecimal_zero] at hread ⊢
    cases hread
    rfl
  · have hfinite : (ofDecimal false digits exponent).isFinite = true := by
      rw [hread]
      rfl
    have hexponent := exponent_le_of_isFinite hne hfinite
    obtain ⟨a, b, rfl⟩ : ∃ a b : Nat, exponent = (a : Int) - b :=
      ⟨exponent.toNat, (-exponent).toNat, (Int.toNat_sub_toNat_neg exponent).symm⟩
    rw [ofDecimal_eq_round _ hne hexponent] at hread ⊢
    exact pack_of_sign hread negative

/-! ## The search -/

/-- The grid that the search comes to after as many grids. -/
def gridAt (x : Binary64) (i : Nat) : Int := digitsBeforePoint x.units - (i + 1 : Nat)

/-- Whether neither neighbour of a number on a grid is read as the number. -/
def Misses (tie : Tie) (x : Binary64) (i : Nat) : Prop :=
  ∀ d ∈ neighbours tie x.units (gridAt x i), readsAs x d = false

/-- The shortest decimal is on the first of seventeen grids on which a neighbour is read as
the number, or is the exact expansion where there is none. -/
theorem shortest_cases (tie : Tie) (x : Binary64) :
    (∃ i < 17, shortest tie x ∈ neighbours tie x.units (gridAt x i) ∧
      readsAs x (shortest tie x) = true ∧ ∀ j < i, Misses tie x j) ∨
    (shortest tie x = expansion x.units ∧ ∀ j < 17, Misses tie x j) := by
  have hmisses : ∀ i, (neighbours tie x.units (gridAt x i)).find? (readsAs x) = none →
      Misses tie x i := by
    intro i hi d hd
    exact Bool.eq_false_iff.mpr (List.find?_eq_none.mp hi d hd)
  rw [shortest]
  cases hhit : (List.range 17).findSome? _ with
  | none =>
    refine .inr ⟨rfl, fun j hj => hmisses j ?_⟩
    exact List.findSome?_eq_none_iff.mp hhit j (List.mem_range.mpr hj)
  | some d =>
    obtain ⟨before, i, after, hrange, hfind, hbefore⟩ := List.findSome?_eq_some_iff.mp hhit
    have hi : i ∈ List.range 17 := by
      rw [hrange]
      simp
    refine .inl ⟨i, List.mem_range.mp hi, List.mem_of_find?_eq_some hfind,
      List.find?_some hfind, fun j hj => hmisses j (hbefore j ?_)⟩
    have hj' : j ∈ before ++ i :: after := by
      rw [← hrange]
      exact List.mem_range.mpr (Nat.lt_trans hj (List.mem_range.mp hi))
    rcases List.mem_append.mp hj' with hmem | hmem
    · exact hmem
    · -- The grids are tried in order.
      have hsorted := List.pairwise_lt_range (n := 17)
      rw [hrange, List.pairwise_append, List.pairwise_cons] at hsorted
      rcases List.mem_cons.mp hmem with rfl | hafter
      · exact absurd hj (Nat.lt_irrefl _)
      · exact absurd (hsorted.2.1.1 j hafter) (Nat.lt_asymm hj)

/-- The neighbours of a number on a grid are the points below and above it. -/
theorem mem_neighbours_iff {u n d : Nat} {exponent : Int} (h : onGrid u exponent = (n, d))
    (decimal : Decimal) :
    decimal ∈ neighbours tie u exponent ↔
      decimal = ⟨n / d, exponent⟩ ∨ decimal = ⟨n / d + 1, exponent⟩ := by
  simp only [neighbours, h]
  split <;> simp only [List.mem_cons, List.not_mem_nil, or_false]
  exact or_comm

theorem exponent_of_mem_neighbours {u : Nat} {exponent : Int} {d : Decimal}
    (h : d ∈ neighbours tie u exponent) : d.exponent = exponent := by
  obtain rfl | rfl := (mem_neighbours_iff rfl d).mp h <;> rfl

/-- The exact expansion has a place for each bit of one. -/
theorem exists_expansion_eq (u : Nat) :
    ∃ bits : Nat, unitsInOne = 2 ^ bits ∧ expansion u = ⟨u * 5 ^ bits, -bits⟩ := by
  have hplaces : (-1074 : Int) = -(1074 : Nat) := rfl
  have hbits := log2_unitsInOne
  -- A variable in place of the exponent keeps the powers from being computed.
  rw [expansion, hplaces]
  generalize 1074 = bits at hbits ⊢
  exact ⟨bits, hbits ▸ unitsInOne_eq, rfl⟩

/-- The exact expansion of a number is read as the number. -/
theorem ofDecimal_expansion {h : Canonical significand scale} (hne : significand ≠ 0) :
    ofDecimal false (expansion (finite false significand scale h).units).digits
      (expansion (finite false significand scale h).units).exponent =
    finite false significand scale h := by
  have hround := round_units false (p := false) h
  have hu : (finite false significand scale h).units ≠ 0 := units_ne_zero hne
  generalize (finite false significand scale h).units = u at hround hu ⊢
  obtain ⟨bits, hbits, hexpansion⟩ := exists_expansion_eq u
  have hdigits : u * 5 ^ bits ≠ 0 :=
    Nat.mul_ne_zero hu (Nat.ne_of_gt (Nat.pow_pos (by decide)))
  have hdecimal := ofDecimal_eq_round false hdigits (a := 0) (b := bits) (by omega)
  have hunits : u * 5 ^ bits * 10 ^ 0 * unitsInOne = u * 10 ^ bits := by
    rw [hbits, Nat.pow_zero, Nat.mul_one, Nat.mul_assoc, ← Nat.mul_pow]
  have hexponent : ((0 : Nat) : Int) - bits = -bits := by omega
  have hratio := round_mul_mul false u 1 (Nat.pow_pos (by decide) : 0 < 10 ^ bits)
  rw [Nat.one_mul] at hratio
  rw [hunits, hexponent, hratio, hround] at hdecimal
  rw [hexpansion]
  exact hdecimal

/-- The shortest decimal of a number is read as the number. -/
theorem ofDecimal_shortest (tie : Tie) {h : Canonical significand scale} (hne : significand ≠ 0) :
    ofDecimal false (shortest tie (finite false significand scale h)).digits
      (shortest tie (finite false significand scale h)).exponent =
    finite false significand scale h := by
  obtain ⟨i, -, -, hreads, -⟩ | ⟨hexpansion, -⟩ :=
    shortest_cases tie (finite false significand scale h)
  · exact beq_iff_eq.mp hreads
  · rw [hexpansion]
    exact ofDecimal_expansion hne

/-! ## Natural numbers -/

variable {n : Nat}

/-- Whole ones have as many digits before the point as their number. -/
theorem digitsBeforePoint_mul (hn : 0 < n) :
    digitsBeforePoint (n * unitsInOne) = (Nat.toDigits 10 n).length := by
  have hshifted : ∀ places : Nat,
      ((Nat.toDigits 10 (n * unitsInOne * Nat.pow 10 places / unitsInOne)).length : Int) - places =
        (Nat.toDigits 10 n).length := by
    intro places
    have hdigits : n * unitsInOne * Nat.pow 10 places / unitsInOne = n * 10 ^ places := by
      rw [Nat.mul_right_comm, Nat.mul_div_cancel _ unitsInOne_pos]
      rfl
    rw [hdigits, toDigits_mul_pow hn, List.length_append, List.length_replicate]
    omega
  have hplaces : (400 : Int) = (400 : Nat) := rfl
  rw [digitsBeforePoint, hplaces]
  generalize 400 = places
  exact hshifted places

/-- On the grid of a power of ten, whole ones have their quotient and the next number as
neighbours. -/
theorem mem_neighbours_natCast_iff {exponent : Int} {k : Nat} (h : exponent = k)
    (decimal : Decimal) :
    decimal ∈ neighbours tie (n * unitsInOne) exponent ↔
      decimal = ⟨n / 10 ^ k, exponent⟩ ∨ decimal = ⟨n / 10 ^ k + 1, exponent⟩ := by
  subst h
  have hgrid := onGrid.eq_1 (n * unitsInOne) k
  have hpow : Nat.pow 10 k = 10 ^ k := rfl
  rw [Int.ofNat_eq_natCast, hpow] at hgrid
  rw [mem_neighbours_iff hgrid, Nat.mul_div_mul_right n _ unitsInOne_pos]

/-- The shortest decimal of an integer is a natural number. -/
theorem exists_isNatural_shortest (tie : Tie) {h : Canonical significand scale}
    (hne : significand ≠ 0) (hx : unitsInOne ∣ (finite false significand scale h).units) :
    ∃ n, (shortest tie (finite false significand scale h)).IsNatural n := by
  obtain ⟨n, hn⟩ := hx
  rw [Nat.mul_comm] at hn
  have hround := round_units false (p := false) h
  have hpos : 0 < n := by
    have hu : (finite false significand scale h).units ≠ 0 := units_ne_zero hne
    refine Nat.pos_of_ne_zero fun hzero => hu ?_
    rw [hn, hzero, Nat.zero_mul]
  obtain ⟨i, hi, hmem, -, hbefore⟩ | ⟨hexpansion, -⟩ :=
    shortest_cases tie (finite false significand scale h)
  · refine Decimal.exists_isNatural ?_
    rw [exponent_of_mem_neighbours hmem, gridAt, hn, digitsBeforePoint_mul hpos]
    by_contra hplaces
    -- The grid without places came before, and the number is on it.
    have hlength : 0 < (Nat.toDigits 10 n).length := List.length_pos_iff.mpr Nat.toDigits_ne_nil
    have hgrid : gridAt (finite false significand scale h) ((Nat.toDigits 10 n).length - 1) = 0 := by
      rw [gridAt, hn, digitsBeforePoint_mul hpos]
      omega
    have hmiss := hbefore ((Nat.toDigits 10 n).length - 1) (by omega)
    rw [Misses, hgrid, hn] at hmiss
    have hmem : ⟨n, 0⟩ ∈ neighbours tie (n * unitsInOne) 0 := by
      rw [mem_neighbours_natCast_iff Int.natCast_zero.symm, Nat.pow_zero, Nat.div_one]
      exact .inl rfl
    have hread := hmiss _ hmem
    rw [hn] at hround
    rw [readsAs, ofDecimal_natCast, ofInt_natCast, hround, beq_self_eq_true] at hread
    cases hread
  · obtain ⟨bits, hbits, hbitsexpansion⟩ :=
      exists_expansion_eq (finite false significand scale h).units
    rw [hbitsexpansion, hn, hbits] at hexpansion
    refine ⟨n, 0, bits, ?_, ?_⟩
    · rw [hexpansion, Int.natCast_zero, Int.zero_sub]
    · rw [hexpansion, Nat.pow_zero, Nat.mul_one, Nat.mul_assoc, ← Nat.mul_pow]

/-- A number whose shortest decimal is a natural number is the one next to it. -/
theorem eq_ofInt_of_isNatural_shortest {h : Canonical significand scale} (hne : significand ≠ 0)
    (hn : (shortest tie (finite false significand scale h)).IsNatural n) :
    finite false significand scale h = ofInt n := by
  have hread := ofDecimal_shortest tie (h := h) hne
  have hfinite : (ofDecimal false (shortest tie (finite false significand scale h)).digits
      (shortest tie (finite false significand scale h)).exponent).isFinite = true := by
    rw [hread]
    rfl
  have hexponent := exponent_le_of_isFinite (shortest_digits_ne_zero tie hne) hfinite
  rw [← hread, ofDecimal_of_isNatural false hn hexponent, ofDecimal_natCast]

/-- A number whose shortest decimal is a natural number is an integer. -/
theorem dvd_units_of_isNatural_shortest {h : Canonical significand scale} (hne : significand ≠ 0)
    (hn : (shortest tie (finite false significand scale h)).IsNatural n) :
    unitsInOne ∣ (finite false significand scale h).units := by
  have heq := eq_ofInt_of_isNatural_shortest hne hn
  have hfinite : (ofInt n).isFinite = true := by
    rw [← heq]
    rfl
  rw [heq]
  exact (exists_isInteger_iff hfinite).mp (exists_isInteger_ofInt hfinite)

/-! ## Natural numbers of sixty-four bits -/

section Thousands

variable {m k : Nat}

/-- From `2 ^ 63` on, a natural number at most five hundred away from a number is read as the
number. -/
theorem ofInt_eq_of_near (hx : x.IsInteger m) (hlow : 2 ^ 63 ≤ m) (hhigh : m ≤ 2 ^ 64)
    (hdvd : 2 ^ 11 ∣ m) (hbelow : k ≤ m + 500) (habove : m ≤ k + 500) : ofInt k = x := by
  have hne : k ≠ 0 := by omega
  have hfinite : (ofInt k).isFinite = true := by
    refine isFinite_ofInt ?_
    rw [Int.natAbs_natCast]
    exact Nat.lt_trans ((Nat.log2_lt hne).mpr (by omega : k < 2 ^ 65)) (by decide)
  -- The numbers next to `m` are twice as near below a power of two as above it.
  obtain ⟨t, hlog, hround⟩ : ∃ t, k.log2 = 52 + t ∧ divRound k (2 ^ t) * 2 ^ t = m := by
    by_cases hsmall : k < 2 ^ 63
    · refine ⟨10, (Nat.log2_eq_iff hne).mpr ⟨by omega, by omega⟩, ?_⟩
      simp only [divRound]
      split <;> omega
    · by_cases hgreat : k < 2 ^ 64
      · refine ⟨11, (Nat.log2_eq_iff hne).mpr ⟨by omega, by omega⟩, ?_⟩
        simp only [divRound]
        split <;> omega
      · refine ⟨12, (Nat.log2_eq_iff hne).mpr ⟨by omega, by omega⟩, ?_⟩
        simp only [divRound]
        split <;> omega
  have hnext := isInteger_ofInt_divRound hlog hfinite
  rw [hround] at hnext
  have hm : (m : Int) ≠ 0 := by omega
  exact (ofInt_of_isInteger hnext hm).symm.trans (ofInt_of_isInteger hx hm)

/-- So a multiple of a thousand is read as the number. -/
theorem exists_mem_neighbours_thousands (tie : Tie) (hx : x.IsInteger m) (hlow : 2 ^ 63 ≤ m)
    (hhigh : m ≤ 2 ^ 64) (hdvd : 2 ^ 11 ∣ m) :
    ∃ d ∈ neighbours tie (m * unitsInOne) 3, readsAs x d = true := by
  have hread : ∀ c, c * 10 ^ 3 ≤ m + 500 → m ≤ c * 10 ^ 3 + 500 → readsAs x ⟨c, 3⟩ = true := by
    intro c hbelow habove
    have hnatural : (⟨c, 3⟩ : Decimal).IsNatural (c * 10 ^ 3) :=
      ⟨3, 0, rfl, by rw [Nat.pow_zero, Nat.mul_one]⟩
    rw [readsAs, ofDecimal_of_isNatural false hnatural (by decide : (3 : Int) ≤ 310),
      ofDecimal_natCast, ofInt_eq_of_near hx hlow hhigh hdvd hbelow habove, beq_self_eq_true]
  have hthree : (3 : Int) = (3 : Nat) := rfl
  simp only [mem_neighbours_natCast_iff hthree]
  by_cases hnear : m ≤ m / 10 ^ 3 * 10 ^ 3 + 500
  · exact ⟨_, .inl rfl, hread _ (by omega) hnear⟩
  · exact ⟨_, .inr rfl, hread _ (by omega) (by omega)⟩

theorem three_le_exponent_shortest (tie : Tie) (hx : x.IsInteger m) (hlow : 2 ^ 63 ≤ m)
    (hhigh : m ≤ 2 ^ 64) (hdvd : 2 ^ 11 ∣ m) : 3 ≤ (shortest tie x).exponent := by
  have hunits : x.units = m * unitsInOne := hx.units_eq
  have hpoint : digitsBeforePoint x.units = (Nat.toDigits 10 m).length := by
    rw [hunits, digitsBeforePoint_mul (by omega)]
  have hmost : (Nat.toDigits 10 m).length ≤ 20 :=
    (Nat.length_toDigits_le_iff (by decide) (by decide)).mpr (by omega)
  have hleast : ¬(Nat.toDigits 10 m).length ≤ 3 := by
    rw [Nat.length_toDigits_le_iff (by decide) (by decide)]
    omega
  obtain ⟨d, hmem, hreads⟩ := exists_mem_neighbours_thousands tie hx hlow hhigh hdvd
  have hgrid : gridAt x ((Nat.toDigits 10 m).length - 4) = 3 := by
    rw [gridAt, hpoint]
    omega
  have hhit : ¬Misses tie x ((Nat.toDigits 10 m).length - 4) := by
    intro hmiss
    rw [Misses, hgrid, hunits] at hmiss
    cases hreads.symm.trans (hmiss d hmem)
  obtain ⟨i, -, hshortest, -, hbefore⟩ | ⟨-, hbefore⟩ := shortest_cases tie x
  · rw [exponent_of_mem_neighbours hshortest, gridAt, hpoint]
    by_contra hplaces
    exact hhit (hbefore _ (by omega))
  · exact absurd (hbefore _ (by omega)) hhit

/-- From `2 ^ 63` on, the shortest decimal of the number next to a natural number ends in
three zeros. -/
theorem thousand_dvd_of_isNatural_shortest {z : Nat} (hlow : 2 ^ 63 ≤ n) (hhigh : n < 2 ^ 64)
    (hz : (shortest tie (ofInt n)).IsNatural z) : 1000 ∣ z := by
  have hne : n ≠ 0 := by omega
  have hlog : n.log2 = 52 + 11 := (Nat.log2_eq_iff hne).mpr ⟨by omega, by omega⟩
  have hfinite : (ofInt n).isFinite = true := isFinite_ofInt_of_fits ⟨by omega, by omega⟩
  have hbounds : 2 ^ 63 ≤ divRound n (2 ^ 11) * 2 ^ 11 ∧ divRound n (2 ^ 11) * 2 ^ 11 ≤ 2 ^ 64 := by
    simp only [divRound]
    split <;> omega
  have hexponent := three_le_exponent_shortest tie (isInteger_ofInt_divRound hlog hfinite)
    hbounds.1 hbounds.2 (Nat.dvd_mul_left _ _)
  obtain ⟨a, b, hab, hvalue⟩ := hz
  obtain ⟨r, rfl⟩ : ∃ r, a = r + 3 + b := ⟨a - 3 - b, by omega⟩
  rw [Nat.pow_add, ← Nat.mul_assoc] at hvalue
  rw [← Nat.eq_of_mul_eq_mul_right (Nat.pow_pos (by decide)) hvalue, Nat.pow_add]
  exact Nat.dvd_mul_left_of_dvd (Nat.dvd_mul_left _ _) _

end Thousands

end Binary64

end RelQuery
