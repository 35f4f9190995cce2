import RelQuery.Query.Basic

/-!
# Literals

The literals that a statement holds, read back as values.  A literal between
blanks is one of three.

* The word `NULL` in any ASCII case.
* A string between single quotes, in which a quote is written twice.
* A number: a minus if any, digits without a leading zero, and a point with
  digits after it if any.

A number without a point is a whole number and one with a point is a binary64
number.  Where it fits neither, the literal is the text of the number.
-/

namespace RelQuery

/-- A literal of a statement. -/
inductive Literal where
  /-- The null literal. -/
  | null
  /-- A whole number. -/
  | int (n : Int64)
  /-- A number with places. -/
  | float (x : Binary64)
  /-- A string. -/
  | string (s : String)
  deriving DecidableEq

namespace Literal

/-- The value that a literal stands for. -/
def toValue : Literal → Value
  | null => .null
  | int n => .int n
  | float x => .float x
  | string s => .string s

/-! ## Numbers -/

/-- Digits as the whole part of a number: at least one, and no zero before
another. -/
def isWholePart : List Char → Bool
  | [] => false
  | '0' :: cs => cs.isEmpty
  | cs => cs.all Char.isDigit

/-- The digits before and after the point of an unsigned number. -/
def digitsOfNumber? (cs : List Char) : Option (List Char × Option (List Char)) :=
  let whole := cs.takeWhile Char.isDigit
  if isWholePart whole then
    match cs.dropWhile Char.isDigit with
    | [] => some (whole, none)
    | '.' :: places =>
      if places ≠ [] ∧ places.all Char.isDigit = true then some (whole, some places) else none
    | _ => none
  else none

/-- The number of an unsigned text that follows a sign, if it is in range. -/
def unsignedNumber? (negative : Bool) (cs : List Char) : Option (Option Literal) :=
  match digitsOfNumber? cs with
  | none => none
  | some (whole, none) =>
    let n : Int := (Nat.ofDigitChars 10 whole 0 : Nat)
    some ((Text.toInt64? (if negative then -n else n)).map int)
  | some (whole, some places) =>
    let digits := Nat.ofDigitChars 10 (whole ++ places) 0
    let x := Binary64.ofDecimal negative digits (-(places.length : Int))
    some (if x.isFinite then some (float x) else none)

/-- Whether a text is a number, and the number if it is in range. -/
def readNumber? : List Char → Option (Option Literal)
  | '-' :: cs => unsignedNumber? true cs
  | cs => unsignedNumber? false cs

/-- The number that a text spells. -/
def ofNumber? (text : String) : Option Literal := (readNumber? text.toList).bind id

/-! ## Strings -/

/-- The characters up to the closing quote, which is the last character. -/
def readQuoted? : List Char → Option (List Char)
  | [] => none
  | ['\''] => some []
  | '\'' :: '\'' :: cs => (readQuoted? cs).map ('\'' :: ·)
  | '\'' :: _ :: _ => none
  | c :: cs => (readQuoted? cs).map (c :: ·)

/-! ## Literals -/

/-- The literal that a text without outer blanks spells. -/
def ofTrimmed? (text : String) : Option Literal :=
  if Text.sameWord text "NULL" then some null
  else
    match text.toList with
    | '\'' :: cs => (readQuoted? cs).map fun s => string (String.ofList s)
    | cs => (readNumber? cs).map fun n => n.getD (string text)

/-- The literal that a text spells between blanks. -/
def ofText? (text : String) : Option Literal := ofTrimmed? (Text.trim text)

/-! ## Checks -/

example : ofNumber? "-42" = some (int (-42)) ∧ ofNumber? "007" = none ∧ ofNumber? "1." = none := by
  decide +kernel

example : ofNumber? "0.5" = some (float (Binary64.ofDecimal false 5 (-1))) := by decide +kernel

example : ofText? " 'it''s' " = some (string "it's") ∧ ofText? "'open" = none := by decide +kernel

example : ofText? "99999999999999999999" = some (string "99999999999999999999") := by decide +kernel

example : ofText? "null" = some null ∧ ofText? "NULLS" = none ∧ ofText? "'a''" = none := by
  decide +kernel

end Literal

end RelQuery
