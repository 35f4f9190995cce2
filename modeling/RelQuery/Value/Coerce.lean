import RelQuery.Error
import RelQuery.Query.Basic

/-!
# Coercion

A declared type decides the shape of a value.  `coerce` gives a value the shape
of a tag or refuses it.

* Null has every type, and an untyped field takes every value as it is.
* A list or a query has no declared type.
* A truth value counts as `1` or `0`.
* A number is an integer when it has no fraction and fits.
* A text is trimmed before it is read as a number or a truth value.  A text
  that becomes a number must spell a finite one.
-/

namespace RelQuery

/-- The words for true, in small letters. -/
def trueWords : List String := ["1", "true", "t", "yes", "y", "on"]

/-- The words for false, in small letters. -/
def falseWords : List String := ["0", "false", "f", "no", "n", "off", ""]

namespace Value

/-- The refusal of a value. -/
def misfit (value : Value) (tag : TypeTag) : CastError := ⟨tag, value.display⟩

/-- The text of a scalar. -/
def toText? : Value → Option Value
  | string s => some (string s)
  | int n => some (string (Text.integerText n.toInt))
  | float x => some (string x.toText)
  | bool b => some (string (if b then "1" else "0"))
  | _ => none

/-- The whole number of a scalar. -/
def toInteger? : Value → Option Value
  | int n => some (int n)
  | bool b => some (int (if b then 1 else 0))
  | float x => x.toInt64?.map int
  | string s => (Text.readInt64? (Text.trim s)).map int
  | _ => none

/-- The binary64 number of a scalar. -/
def toFloat? : Value → Option Value
  | float x => some (float x)
  | int n => some (float (Binary64.ofInt n.toInt))
  | bool b => some (float (Binary64.ofInt (if b then 1 else 0)))
  | string s =>
    match Binary64.ofText? (Text.trim s) with
    | some x => if x.isFinite then some (float x) else none
    | none => none
  | _ => none

/-- The truth value of a scalar. -/
def toBoolean? : Value → Option Value
  | bool b => some (bool b)
  | int n => some (bool (n != 0))
  | float x => some (bool !x.isZero)
  | string s =>
    let word := Text.lowerAscii (Text.trim s)
    if word ∈ trueWords then some (bool true)
    else if word ∈ falseWords then some (bool false)
    else none
  | _ => none

/-- The value in the shape of a tag. -/
def coerce (value : Value) (tag : TypeTag) : Except CastError Value :=
  match value, tag with
  | null, _ => .ok null
  | v, .untyped => .ok v
  | v, .string => v.toText?.elim (.error (v.misfit tag)) .ok
  | v, .integer => v.toInteger?.elim (.error (v.misfit tag)) .ok
  | v, .float => v.toFloat?.elim (.error (v.misfit tag)) .ok
  | v, .boolean => v.toBoolean?.elim (.error (v.misfit tag)) .ok

end Value

end RelQuery
