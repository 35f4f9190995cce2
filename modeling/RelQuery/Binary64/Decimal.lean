import RelQuery.Binary64.Basic

/-!
# Decimal digits of a binary64 number

Two directions between a number and decimal digits.

* `ofDecimal` is the number nearest to `digits · 10 ^ exponent`.
* `shortest` is the decimal with the fewest digits that `ofDecimal` takes back
  to the number, and of those the nearest to it.  When two are equally near,
  the caller says whether the upper or the even one is meant.

The search looks at one to seventeen digits.  On each grid only the two
neighbours of the number can be nearest, so it tries those two, the nearer one
first.  The exact expansion stands behind the search, so the answer reads back
without an appeal to the fact that seventeen digits are enough.
-/

namespace RelQuery

/-- A decimal: `digits · 10 ^ exponent`. -/
structure Decimal where
  /-- The digits, read as one natural number. -/
  digits : Nat
  /-- The power of ten they are multiplied by. -/
  exponent : Int
  deriving DecidableEq

/-- What becomes of a number half way between two decimals. -/
inductive Tie where
  /-- The upper one. -/
  | up
  /-- The one whose last digit is even. -/
  | even
  deriving DecidableEq

namespace Binary64

/-! ## From digits to a number -/

/-- The number nearest to `digits · 10 ^ exponent`.  The two comparisons answer
for exponents that no digit can bring back into the range. -/
def ofDecimal (negative : Bool) (digits : Nat) (exponent : Int) : Binary64 :=
  if digits = 0 then zero negative
  else if 310 < exponent then infinite negative
  else if exponent < -(330 + digits.log2 : Int) then zero negative
  else
    match exponent with
    | .ofNat k => round negative (digits * Nat.pow 10 k * unitsInOne) 1
    | .negSucc k => round negative (digits * unitsInOne) (Nat.pow 10 (k + 1))

/-! ## From a number to digits -/

/-- How many digits a positive number of units has before the decimal point:
the `p` with `10 ^ (p - 1) ≤ x < 10 ^ p`.  Four hundred places more than the
least number needs make the shifted number whole. -/
def digitsBeforePoint (u : Nat) : Int :=
  ((Nat.toDigits 10 (u * Nat.pow 10 400 / unitsInOne)).length : Int) - 400

/-- The number of units as a multiple of `10 ^ exponent`: numerator and
denominator. -/
def onGrid (u : Nat) : Int → Nat × Nat
  | .ofNat k => (u, Nat.pow 10 k * unitsInOne)
  | .negSucc k => (u * Nat.pow 10 (k + 1), unitsInOne)

/-- The neighbours of a number on the grid of `10 ^ exponent`, the nearer one
first. -/
def neighbours (tie : Tie) (u : Nat) (exponent : Int) : List Decimal :=
  let (n, d) := onGrid u exponent
  let q := n / d
  let r := n % d
  let upperFirst := d < 2 * r ∨ d = 2 * r ∧ (tie = .up ∨ q % 2 = 1)
  if upperFirst then [⟨q + 1, exponent⟩, ⟨q, exponent⟩] else [⟨q, exponent⟩, ⟨q + 1, exponent⟩]

/-- The exact decimal expansion of a number of units. -/
def expansion (u : Nat) : Decimal := ⟨u * Nat.pow 5 1074, -1074⟩

/-- Whether a decimal is read as the positive number with this significand and
scale. -/
def readsAs (x : Binary64) (d : Decimal) : Bool := ofDecimal false d.digits d.exponent == x

/-- The shortest decimal that is read as the number `x`, which is positive and
finite. -/
def shortest (tie : Tie) (x : Binary64) : Decimal :=
  let point := digitsBeforePoint x.units
  let hit := (List.range 17).findSome? fun (i : Nat) =>
    (neighbours tie x.units (point - (i + 1 : Nat))).find? (readsAs x)
  hit.getD (expansion x.units)

/-! ## Checks -/

example : shortest .up (ofDecimal false 1 (-1)) = ⟨1, -1⟩ := by decide +kernel

example : shortest .up (round false 1 1) = ⟨5, -324⟩ := by decide +kernel

example : shortest .up (ofDecimal false 112589990684262425 (-2)) = ⟨11258999068426243, -1⟩ := by
  decide +kernel

example : shortest .even (ofDecimal false 112589990684262425 (-2)) = ⟨11258999068426242, -1⟩ := by
  decide +kernel

end Binary64

end RelQuery
