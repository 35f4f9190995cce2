import RelQuery.Json.Basic

/-!
# Reading JSON numbers

A JSON number is a whole part, places after a point and an exponent.

* Without places and exponent it is a whole number if it fits sixty-four bits.
  `-0` does not, since only a binary64 zero has a sign.
* Any other number is read in one pass.  The leading digits that fit sixty-four
  bits without a sign are the significand, later digits only count as places,
  and the significand is scaled by a power of ten with one rounding.  So a
  number with many digits, or far from one, may miss the nearest binary64
  number by its last bit.
* A number beyond the finite range is no number, and one below it is zero.
-/

namespace RelQuery.Json

/-! ## Scaling -/

/-- The binary64 number nearest to a power of ten. -/
def powerOfTen (k : Nat) : Binary64 := Binary64.ofDecimal false 1 k

/-- A number times `10 ^ exponent`, by the powers of ten up to 308.  A smaller
exponent is brought into reach by dividing first, which leaves zero after three
steps, and a greater one is out of range. -/
def scaled : Nat → Binary64 → Int → Option Binary64
  | 0, x, _ => some x
  | steps + 1, x, exponent =>
    if exponent.natAbs ≤ 308 then
      if 0 ≤ exponent then some (x.times (powerOfTen exponent.natAbs))
      else some (x.dividedBy (powerOfTen exponent.natAbs))
    else if x.isZero then some x
    else if 0 ≤ exponent then none
    else scaled steps (x.dividedBy (powerOfTen 308)) (exponent + 308)

/-- The number with a sign, if it is finite. -/
def Number.ofBinary64? (negative : Bool) (x : Binary64) : Option Number :=
  let x := if negative then x.negate else x
  if h : x.isFinite = true then some (.decimal x h) else none

/-! ## Digits -/

/-- The digits that a significand can take before it leaves sixty-four bits,
and how many are left over. -/
def gather (significand : Nat) : List Char → Nat × Nat
  | [] => (significand, 0)
  | c :: cs =>
    let next := significand * 10 + (c.toNat - 48)
    if next < 0x10000000000000000 then gather next cs else (significand, cs.length + 1)

/-- A number as it is spelt. -/
structure Spelling where
  /-- Whether a minus stands first. -/
  negative : Bool
  /-- The digits before the point. -/
  whole : List Char
  /-- The digits after the point. -/
  places : List Char
  /-- The exponent, if one is written. -/
  exponent : Option Int

/-- The whole number of a significand, if it fits sixty-four bits. -/
def Number.ofWhole? (negative : Bool) (n : Nat) : Option Number :=
  if negative then
    if h : 1 ≤ n ∧ n ≤ 0x8000000000000000 then some (.integer (-(n : Int)) (by omega)) else none
  else if h : n < 0x10000000000000000 then some (.integer (n : Int) (by omega)) else none

/-- The number of a spelling, if it is in range. -/
def Spelling.number? (s : Spelling) : Option Number :=
  let (significand, more) := gather 0 s.whole
  let whole := if s.places = [] ∧ s.exponent = none ∧ more = 0 then
      Number.ofWhole? s.negative significand else none
  match whole with
  | some n => some n
  | none =>
    let (significand, lost) := gather significand s.places
    let exponent : Int := more - ((s.places.length - lost : Nat) : Int) + s.exponent.getD 0
    (scaled 4 (Binary64.ofInt significand) exponent).bind (Number.ofBinary64? s.negative)

/-! ## The grammar -/

/-- The whole part: one zero, or digits that do not start with zero. -/
def readWhole : List Char → Option (List Char × List Char)
  | '0' :: cs =>
    match cs with
    | c :: _ => if c.isDigit then none else some (['0'], cs)
    | [] => some (['0'], [])
  | c :: cs =>
    if c.isDigit then some (c :: cs.takeWhile Char.isDigit, cs.dropWhile Char.isDigit) else none
  | [] => none

/-- The places: none, or a point and at least one digit. -/
def readPlaces : List Char → Option (List Char × List Char)
  | '.' :: cs =>
    let places := cs.takeWhile Char.isDigit
    if places = [] then none else some (places, cs.dropWhile Char.isDigit)
  | cs => some ([], cs)

/-- The digits of an exponent. -/
def readPower (negative : Bool) (cs : List Char) : Option (Option Int × List Char) :=
  let digits := cs.takeWhile Char.isDigit
  let n : Int := (Nat.ofDigitChars 10 digits 0 : Nat)
  if digits = [] then none
  else some (some (if negative then -n else n), cs.dropWhile Char.isDigit)

/-- The exponent: none, or its mark, a sign if any, and at least one digit. -/
def readExponent : List Char → Option (Option Int × List Char)
  | c :: cs =>
    if c = 'e' ∨ c = 'E' then
      match cs with
      | '-' :: ds => readPower true ds
      | '+' :: ds => readPower false ds
      | ds => readPower false ds
    else some (none, c :: cs)
  | [] => some (none, [])

/-- The spelling of an unsigned number and the characters after it. -/
def readUnsigned (negative : Bool) (cs : List Char) : Option (Spelling × List Char) := do
  let (whole, cs) ← readWhole cs
  let (places, cs) ← readPlaces cs
  let (exponent, cs) ← readExponent cs
  return (⟨negative, whole, places, exponent⟩, cs)

/-- The spelling of a number and the characters after it. -/
def readSpelling : List Char → Option (Spelling × List Char)
  | '-' :: cs => readUnsigned true cs
  | cs => readUnsigned false cs

/-! ## Checks -/

/-- The text of the number that a text spells. -/
def spelt (s : String) : Option String :=
  ((readSpelling s.toList).bind fun p => p.1.number?).map Number.toText

example : spelt "18446744073709551615" = some "18446744073709551615" ∧
    spelt "-0" = some "-0.0" ∧ spelt "18446744073709551616" = some "1.8446744073709552e+19" := by
  decide +kernel

example : spelt "1e400" = none ∧ spelt "1e-400" = some "0.0" ∧ spelt "0e400" = some "0.0" := by
  decide +kernel

example : spelt "01" = none ∧ spelt "1." = none ∧ spelt "1e" = none ∧
    spelt "3e23" = some "2.9999999999999997e+23" := by
  decide +kernel

end RelQuery.Json
