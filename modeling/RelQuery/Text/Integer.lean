/-!
# Decimal integers

Whole numbers in decimal digits, written and read.

* `naturalText` and `integerText` write no sign but a minus, and no leading
  zero.
* `readInteger?` reads a run of digits after at most one sign, leading zeros
  allowed.
* `readInt64?` reads the same and refuses what does not fit sixty-four bits.
* `hexValue?` is the value of one digit of base sixteen.
-/

namespace RelQuery.Text

/-! ## Writing -/

/-- The digits of a natural number. -/
def naturalText (n : Nat) : String := String.ofList (Nat.toDigits 10 n)

/-- The characters of an integer. -/
def integerChars : Int → List Char
  | .ofNat n => Nat.toDigits 10 n
  | .negSucc n => '-' :: Nat.toDigits 10 (n + 1)

/-- The text of an integer. -/
def integerText (n : Int) : String := String.ofList (integerChars n)

/-! ## Reading -/

/-- The natural number of a non-empty run of digits. -/
def readNatural? (cs : List Char) : Option Nat :=
  if cs ≠ [] ∧ cs.all Char.isDigit = true then some (Nat.ofDigitChars 10 cs 0) else none

/-- The integer of a run of digits with at most one sign before it. -/
def readInteger? : List Char → Option Int
  | '-' :: cs => (readNatural? cs).map fun n => -(n : Int)
  | '+' :: cs => (readNatural? cs).map Int.ofNat
  | cs => (readNatural? cs).map Int.ofNat

/-- The integer, if it fits sixty-four bits with a sign. -/
def toInt64? (n : Int) : Option Int64 :=
  if -0x8000000000000000 ≤ n ∧ n < 0x8000000000000000 then some (Int64.ofInt n) else none

/-- The sixty-four bit integer that a text spells. -/
def readInt64? (s : String) : Option Int64 := (readInteger? s.toList).bind toInt64?

/-! ## Base sixteen -/

/-- The value of a digit of base sixteen. -/
def hexValue? (c : Char) : Option Nat :=
  let n := c.toNat
  if c.isDigit then some (n - 48)
  else if 97 ≤ n ∧ n ≤ 102 then some (n - 87)
  else if 65 ≤ n ∧ n ≤ 70 then some (n - 55)
  else none

/-! ## Checks -/

example : integerText (-42) = "-42" ∧ integerText 0 = "0" := by decide +kernel

example : readInt64? "+007" = some 7 ∧ readInt64? "9223372036854775808" = none := by decide +kernel

example : readInt64? "" = none ∧ readInt64? "-" = none ∧ readInt64? "1_0" = none := by
  decide +kernel

end RelQuery.Text
