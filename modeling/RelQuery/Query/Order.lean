import RelQuery.Error
import RelQuery.Json.Basic
import RelQuery.Query.Basic

/-!
# Sort orders

A sort order is written as a text, an object or an array of either.

* A text is cut at its commas, and every part that is not blank is a term.
* An object has a field in each key and its direction in the value.  A value
  that is no string means ascending.
* An array is its items in order.  Null is the empty order.

A term is one word, or one word, spaces and a word of letters.  In the second
case the last word is the direction, and every word but `desc` means ascending.
Any other term is an expression.  It keeps its last word unless that is `asc`
or `desc`, which is then the direction.
-/

namespace RelQuery.OrderTerm

/-! ## Terms -/

/-- Whether a character separates the two words of a plain term. -/
def isTermSpace (c : Char) : Bool := c = ' ' || c = '\t' || c = '\r' || c = '\n'

/-- The direction word of a plain term: nothing, or spaces and letters. -/
def plainDirection? (rest : List Char) : Option Direction :=
  match rest.takeWhile isTermSpace, rest.dropWhile isTermSpace with
  | [], [] => some .asc
  | _ :: _, word =>
    if word ≠ [] ∧ word.all Char.isAlpha = true then some (Direction.ofText (String.ofList word))
    else none
  | [], _ :: _ => none

/-- A term of one word and a direction, read from a text without outer blanks. -/
def plain? (cs : List Char) : Option OrderTerm :=
  let field := cs.takeWhile fun c => !Text.isBlank c
  (plainDirection? (cs.dropWhile fun c => !Text.isBlank c)).map fun d => ⟨String.ofList field, d⟩

/-- The direction that a last word names. -/
def lastDirection? (word : List Char) : Option Direction :=
  if Text.sameWord (String.ofList word) "asc" then some .asc
  else if Text.sameWord (String.ofList word) "desc" then some .desc
  else none

/-- An expression and the direction after its last blank. -/
def expression? (cs : List Char) : Option OrderTerm := do
  let (before, word) ← Text.splitAtLastBlank cs
  let direction ← lastDirection? word
  let field := Text.dropEndBlanks before
  if field.isEmpty then none else some ⟨String.ofList field, direction⟩

/-- The term of a text.  A blank text has none. -/
def ofText? (text : String) : Option OrderTerm :=
  let cs := Text.trimChars text.toList
  if cs.isEmpty then none
  else some ((plain? cs <|> expression? cs).getD ⟨String.ofList cs, .asc⟩)

/-- The terms of a text, cut at its commas. -/
def listOfText (text : String) : List OrderTerm :=
  (Text.splitAt ',' text.toList).filterMap fun part => ofText? (String.ofList part)

/-! ## Documents -/

/-- The direction in the value of an object. -/
def directionOf : Json → Direction
  | .string s => Direction.ofText s
  | _ => .asc

mutual

/-- The terms of a sort order in a document. -/
def listOfJson : Json → Except Error (List OrderTerm)
  | .null => .ok []
  | .string s => .ok (listOfText s)
  | .object entries => .ok (entries.map fun e => ⟨e.1, directionOf e.2⟩)
  | .array items => listOfItems items
  | .bool b => .error (.orderShape (Json.bool b).compact)
  | .number n => .error (.orderShape (Json.number n).compact)

/-- The terms of several sort orders, one after another. -/
def listOfItems : List Json → Except Error (List OrderTerm)
  | [] => .ok []
  | item :: items => do
    let terms ← listOfJson item
    let more ← listOfItems items
    return terms ++ more

end

/-! ## Checks -/

example : ofText? " title  DESC " = some ⟨"title", .desc⟩ ∧
    ofText? "title dasc" = some ⟨"title", .asc⟩ := by
  decide +kernel

example : ofText? "price * qty DESC" = some ⟨"price * qty", .desc⟩ ∧ ofText? "  " = none := by
  decide +kernel

example : ofText? "price * qty" = some ⟨"price * qty", .asc⟩ := by decide +kernel

example : listOfText "author_id, title DESC" = [⟨"author_id", .asc⟩, ⟨"title", .desc⟩] := by
  decide +kernel

end RelQuery.OrderTerm
