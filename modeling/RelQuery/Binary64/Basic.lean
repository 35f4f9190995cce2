/-!
# Binary64 numbers

A binary64 number is not a number, an infinity, or `± m · 2 ^ e` units, where
the unit is `2 ^ -1074`, the least positive number of the format.  Counting in
units keeps every exponent a natural number, and every operation below is a
statement about natural numbers that closed tests can evaluate.

* `Canonical m e` bounds the significand by 53 bits and asks that it fills them
  unless the scale is least, so each number has one form.
* `round` takes a ratio of units to the nearest number, a half going to the
  even significand, and to an infinity from the top of the range on.
* Every other operation is an exact ratio followed by one `round`.
-/

namespace RelQuery

/-! ## The format -/

/-- The form in which a significand and a scale stand for a number: 53 bits,
all of them used unless the scale is `0`. -/
def Canonical (significand scale : Nat) : Prop :=
  significand < 0x20000000000000 ∧ scale ≤ 2045 ∧ (0x10000000000000 ≤ significand ∨ scale = 0)

instance (significand scale : Nat) : Decidable (Canonical significand scale) :=
  inferInstanceAs (Decidable (_ ∧ _ ∧ _))

/-- A binary64 number.  The two zeros differ. -/
inductive Binary64 where
  /-- Not a number. -/
  | nan
  /-- Greater than every finite number, or less. -/
  | infinite (negative : Bool)
  /-- `± significand · 2 ^ scale` units. -/
  | finite (negative : Bool) (significand scale : Nat) (canonical : Canonical significand scale)
  deriving DecidableEq

namespace Binary64

/-- The number of units in one. -/
def unitsInOne : Nat := Nat.pow 2 1074

/-- Whether a number is neither an infinity nor not a number. -/
def isFinite : Binary64 → Bool
  | finite .. => true
  | _ => false

/-- The magnitude of a finite number in units, and `0` for the others. -/
def units : Binary64 → Nat
  | finite _ significand scale _ => significand * Nat.pow 2 scale
  | _ => 0

/-- The zero of a sign. -/
def zero (negative : Bool) : Binary64 := finite negative 0 0 (by decide)

/-! ## Rounding -/

/-- A significand of at most `2 ^ 53` at its scale.  `2 ^ 53` is written
`2 ^ 52` one scale higher, and a scale above the greatest is infinite. -/
def pack (negative : Bool) (significand scale : Nat) : Binary64 :=
  if h : Canonical significand scale then finite negative significand scale h
  else if h : significand = 0x20000000000000 ∧ scale < 2045 then
    finite negative 0x10000000000000 (scale + 1) ⟨by decide, by omega, .inl (Nat.le_refl _)⟩
  else infinite negative

/-- The quotient rounded to the nearest natural number, a half to the even one. -/
def divRound (n d : Nat) : Nat :=
  let q := n / d
  let r := n % d
  if d < 2 * r ∨ d = 2 * r ∧ q % 2 = 1 then q + 1 else q

/-- The number nearest to `n / d` units. -/
def round (negative : Bool) (n d : Nat) : Binary64 :=
  let scale := (n / d).log2 - 52
  pack negative (divRound n (d * Nat.pow 2 scale)) scale

/-! ## Arithmetic -/

/-- The product of two finite numbers, rounded once.  Any other pair gives the
first number. -/
def times : Binary64 → Binary64 → Binary64
  | finite p m e h, finite q n f k =>
    round (p != q) ((finite p m e h).units * (finite q n f k).units) unitsInOne
  | x, _ => x

/-- The quotient of two finite numbers, rounded once.  Any other pair, and a
divisor of zero, gives the first number. -/
def dividedBy : Binary64 → Binary64 → Binary64
  | finite p m e h, finite q n f k =>
    if n = 0 then finite p m e h
    else round (p != q) ((finite p m e h).units * unitsInOne) (finite q n f k).units
  | x, _ => x

/-- The number with its sign turned. -/
def negate : Binary64 → Binary64
  | nan => nan
  | infinite negative => infinite !negative
  | finite negative significand scale h => finite (!negative) significand scale h

/-- The number nearest to an integer. -/
def ofInt (n : Int) : Binary64 := round (decide (n < 0)) (n.natAbs * unitsInOne) 1

/-- Whether a number is one of the zeros. -/
def isZero : Binary64 → Bool
  | finite _ significand _ _ => significand == 0
  | _ => false

/-- The integer a number stands for, when its magnitude is a whole number below
`2 ^ 63`. -/
def toInt64? : Binary64 → Option Int64
  | finite negative significand scale h =>
    let u := (finite negative significand scale h).units
    if u % unitsInOne = 0 ∧ u / unitsInOne < 0x8000000000000000 then
      let n : Int := (u / unitsInOne : Nat)
      some (Int64.ofInt (if negative then -n else n))
    else none
  | _ => none

/-! ## Checks -/

example : (ofInt 3).toInt64? = some 3 := by decide +kernel

example : ofInt 0x20000000000001 = ofInt 0x20000000000000 := by decide +kernel

example : (ofInt 0x8000000000000000).toInt64? = none := by decide +kernel

example : round false (Nat.pow 2 2098) 1 = infinite false := by decide +kernel

end Binary64

end RelQuery
