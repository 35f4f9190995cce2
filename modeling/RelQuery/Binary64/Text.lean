import RelQuery.Binary64.Decimal
import RelQuery.Text.Blank
import RelQuery.Text.Integer

/-!
# The texts of a binary64 number

Two ways to write a number and one to read it.

* `toText` writes positional notation only: `1`, `0.0000001`, `-0`, and one
  followed by its zeros however many there are.  It has no exponent and no
  point without need.
* `toJsonText` writes positional notation with at least one place for decimal
  exponents from -5 to 15, and `d.ddde±n` outside.
* `ofText?` reads a sign, digits with a point anywhere, and an exponent, or one
  of the words `inf`, `infinity` and `nan` in any case.

Both writers use the shortest digits that read back.  They differ in what they
do with a tie, so the choice is made here and not in the search.
-/

namespace RelQuery

/-! ## Digits and the point -/

/-- The digits of a decimal without zeros at the end, and how many of them, or
zeros after them, stand before the point. -/
def Decimal.significant (d : Decimal) : List Char × Int :=
  let ds := Nat.toDigits 10 d.digits
  ((ds.reverse.dropWhile (· == '0')).reverse, ds.length + d.exponent)

/-- Digits in positional notation. -/
def positional (digits : List Char) : Int → List Char
  | .ofNat 0 => '0' :: '.' :: digits
  | .ofNat p =>
    if digits.length ≤ p then digits ++ List.replicate (p - digits.length) '0'
    else digits.take p ++ '.' :: digits.drop p
  | .negSucc p => '0' :: '.' :: List.replicate (p + 1) '0' ++ digits

/-- The minus sign of a negative number. -/
def signText (negative : Bool) : List Char := if negative then ['-'] else []

namespace Binary64

/-! ## Writing -/

/-- The magnitude of a finite number in positional notation. -/
def magnitudeText (x : Binary64) : List Char :=
  if x.isZero then ['0']
  else
    let (digits, point) := (shortest .up x).significant
    positional digits point

/-- The number in positional notation. -/
def toText : Binary64 → String
  | nan => "NaN"
  | infinite negative => if negative then "-inf" else "inf"
  | finite negative significand scale h =>
    String.ofList (signText negative ++ magnitudeText (finite false significand scale h))

/-- Digits with a point after the first one, if more follow. -/
def scientific : List Char → List Char
  | [] => []
  | [d] => [d]
  | d :: ds => d :: '.' :: ds

/-- The exponent of scientific notation with its mark and sign. -/
def exponentText : Int → List Char
  | .ofNat n => 'e' :: '+' :: Nat.toDigits 10 n
  | .negSucc n => 'e' :: '-' :: Nat.toDigits 10 (n + 1)

/-- The magnitude of a finite number as a JSON number. -/
def magnitudeJson (x : Binary64) : List Char :=
  if x.isZero then ['0', '.', '0']
  else
    let (digits, point) := (shortest .even x).significant
    if -5 ≤ point - 1 ∧ point - 1 ≤ 15 then
      let text := positional digits point
      if text.contains '.' then text else text ++ ['.', '0']
    else scientific digits ++ exponentText (point - 1)

/-- The number as a JSON number.  Only a finite number has one. -/
def toJsonText? : Binary64 → Option String
  | finite negative significand scale h =>
    some (String.ofList (signText negative ++ magnitudeJson (finite false significand scale h)))
  | _ => none

/-! ## Reading -/

/-- The words for the numbers that have no digits. -/
def ofWord? (negative : Bool) (word : String) : Option Binary64 :=
  if Text.sameWord word "inf" || Text.sameWord word "infinity" then some (infinite negative)
  else if Text.sameWord word "nan" then some nan
  else none

/-- The digits after a point and what follows them. -/
def fraction : List Char → List Char × List Char
  | '.' :: cs => (cs.takeWhile Char.isDigit, cs.dropWhile Char.isDigit)
  | cs => ([], cs)

/-- An unsigned number in digits. -/
def ofDigits? (negative : Bool) (cs : List Char) : Option Binary64 :=
  let whole := cs.takeWhile Char.isDigit
  let (places, rest) := fraction (cs.dropWhile Char.isDigit)
  let digits := Nat.ofDigitChars 10 (whole ++ places) 0
  if whole = [] ∧ places = [] then none
  else
    match rest with
    | [] => some (ofDecimal negative digits (-(places.length : Int)))
    | c :: cs =>
      if c = 'e' ∨ c = 'E' then
        (Text.readInteger? cs).map fun e => ofDecimal negative digits (e - places.length)
      else none

/-- An unsigned number, in digits or by its word. -/
def ofUnsigned? (negative : Bool) (cs : List Char) : Option Binary64 :=
  ofDigits? negative cs <|> ofWord? negative (String.ofList cs)

/-- The number a text spells. -/
def ofText? (s : String) : Option Binary64 :=
  match s.toList with
  | '-' :: cs => ofUnsigned? true cs
  | '+' :: cs => ofUnsigned? false cs
  | cs => ofUnsigned? false cs

/-! ## Checks -/

example : (ofText? "1e-7").map toText = some "0.0000001" := by decide +kernel

example : (ofText? "-0.0").map toText = some "-0" ∧ (ofText? "1e3").map toText = some "1000" := by
  decide +kernel

example : ((ofText? "1e16").bind toJsonText?, (ofText? "1.5e-6").bind toJsonText?) =
    (some "1e+16", some "1.5e-6") := by
  decide +kernel

example : ofText? "." = none ∧ ofText? "1e" = none ∧
    ofText? "+Infinity" = some (infinite false) := by
  decide +kernel

end Binary64

end RelQuery
