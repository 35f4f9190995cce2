import RelQuery.Json.Number

/-!
# The outline of a JSON text

Documents are decoded while they are read, so what a document says before its
first fault can decide the answer.  An *outline* is all that can be read of a
text: the values up to the first break of the syntax, with marks where only the
contents are at fault.

* `broken` stands where the syntax breaks.  Nothing is read after it.
* A number out of range and a string with half of a surrogate pair keep their
  place without a value.
* `tooDeep` wraps an array or object inside 127 others.

A value is *closed* when its syntax is whole, which is all that is asked of a
value no one looks at.  It is *sound* when it is a JSON value (`json?`).

An object may embed a JSON text: its one entry is the text under `embeddingKey`,
and it stands for the value of the text.  Embedded texts count wherever any
value may stand (`settled?`), and not where an object has keys of its own.
-/

namespace RelQuery.Json

/-! ## Outlines -/

/-- What can be read of a JSON text. -/
inductive Outline where
  /-- The word `null`. -/
  | null
  /-- One of the words `true` and `false`. -/
  | bool (b : Bool)
  /-- A number, if it is in range. -/
  | number (n : Option Number)
  /-- A string, if its escapes name characters. -/
  | string (s : Option String)
  /-- An array. -/
  | array (items : List Outline)
  /-- An object, with every entry as it was written. -/
  | object (entries : List (Option String × Outline))
  /-- A value that is nested too deeply. -/
  | tooDeep (value : Outline)
  /-- The place where the syntax breaks. -/
  | broken

namespace Outline

mutual

/-- Whether the syntax of a value is whole. -/
def isClosed : Outline → Bool
  | array items => itemsClosed items
  | object entries => entriesClosed entries
  | tooDeep value => isClosed value
  | broken => false
  | _ => true

/-- Whether the syntax of every item is whole. -/
def itemsClosed : List Outline → Bool
  | [] => true
  | item :: items => isClosed item && itemsClosed items

/-- Whether the syntax of every entry is whole. -/
def entriesClosed : List (Option String × Outline) → Bool
  | [] => true
  | (_, value) :: entries => isClosed value && entriesClosed entries

end

mutual

/-- The value, if it has no fault.  Repeated keys stay. -/
def json? : Outline → Option Json
  | null => some .null
  | bool b => some (.bool b)
  | number n => n.map .number
  | string s => s.map .string
  | array items => (itemsJson? items).map .array
  | object entries => (entriesJson? entries).map .object
  | tooDeep _ => none
  | broken => none

/-- The items of an array, if none has a fault. -/
def itemsJson? : List Outline → Option (List Json)
  | [] => some []
  | item :: items =>
    match json? item, itemsJson? items with
    | some item, some items => some (item :: items)
    | _, _ => none

/-- The entries of an object, if none has a fault. -/
def entriesJson? : List (Option String × Outline) → Option (List (String × Json))
  | [] => some []
  | (key, value) :: entries =>
    match key, json? value, entriesJson? entries with
    | some key, some value, some entries => some ((key, value) :: entries)
    | _, _, _ => none

end

end Outline

/-! ## Strings -/

/-- The value of four digits of base sixteen. -/
def hex4? (a b c d : Char) : Option Nat := do
  let a ← Text.hexValue? a
  let b ← Text.hexValue? b
  let c ← Text.hexValue? c
  let d ← Text.hexValue? d
  return ((a * 16 + b) * 16 + c) * 16 + d

/-- The character that a one-letter escape names. -/
def escaped? (c : Char) : Option Char :=
  if c = '"' ∨ c = '\\' ∨ c = '/' then some c
  else if c = 'b' then some '\x08'
  else if c = 'f' then some '\x0c'
  else if c = 'n' then some '\n'
  else if c = 'r' then some '\r'
  else if c = 't' then some '\t'
  else none

/-- A character before the rest of a string, if the rest names characters. -/
def prepend (c : Char) : Option (List Char) × List Char → Option (List Char) × List Char
  | (s, rest) => (s.map (c :: ·), rest)

/-- The characters up to the closing quote and those after it.  The characters
are missing when an escape names half of a surrogate pair, and everything is
missing when the syntax breaks. -/
def readChars : List Char → Option (Option (List Char) × List Char)
  | [] => none
  | '"' :: rest => some (some [], rest)
  | '\\' :: 'u' :: a :: b :: c :: d :: '\\' :: 'u' :: p :: q :: r :: s :: rest =>
    match hex4? a b c d with
    | none => none
    | some n =>
      if 0xd800 ≤ n ∧ n < 0xdc00 then
        match hex4? p q r s with
        | none => none
        | some m =>
          if 0xdc00 ≤ m ∧ m < 0xe000 then
            let code := 0x10000 + (n - 0xd800) * 1024 + (m - 0xdc00)
            (readChars rest).map (prepend (Char.ofNat code))
          else (readChars ('\\' :: 'u' :: p :: q :: r :: s :: rest)).map fun t => (none, t.2)
      else if 0xdc00 ≤ n ∧ n < 0xe000 then
        (readChars ('\\' :: 'u' :: p :: q :: r :: s :: rest)).map fun t => (none, t.2)
      else (readChars ('\\' :: 'u' :: p :: q :: r :: s :: rest)).map (prepend (Char.ofNat n))
  | '\\' :: 'u' :: a :: b :: c :: d :: rest =>
    match hex4? a b c d with
    | none => none
    | some n =>
      if 0xd800 ≤ n ∧ n < 0xe000 then (readChars rest).map fun t => (none, t.2)
      else (readChars rest).map (prepend (Char.ofNat n))
  | '\\' :: c :: rest =>
    match escaped? c with
    | none => none
    | some e => (readChars rest).map (prepend e)
  | c :: rest => if c.toNat < 32 then none else (readChars rest).map (prepend c)
  termination_by structural cs => cs

/-- The string after its opening quote. -/
def readString (cs : List Char) : Option (Option String × List Char) :=
  (readChars cs).map fun (s, rest) => (s.map String.ofList, rest)

/-! ## Values -/

/-- Whether a character may stand between the tokens of a JSON text. -/
def isSpace (c : Char) : Bool := c = ' ' || c = '\t' || c = '\n' || c = '\r'

/-- The characters from the first that is not a space on. -/
def skipSpace (cs : List Char) : List Char := cs.dropWhile isSpace

/-- How many arrays and objects may stand around a value. -/
def maxNesting : Nat := 127

/-- A word's value, or the break where the word is another. -/
def readWord (word : List Char) (value : Outline) (cs : List Char) : Outline × List Char :=
  match Text.after? word cs with
  | some rest => (value, rest)
  | none => (.broken, [])

/-- A number, or the break in it. -/
def readNumber (cs : List Char) : Outline × List Char :=
  match readSpelling cs with
  | some (spelling, rest) => (.number spelling.number?, rest)
  | none => (.broken, [])

/-- A value inside `depth` arrays and objects, wrapped if that is too deep. -/
def nested (depth : Nat) (value : Outline) : Outline :=
  if depth < maxNesting then value else .tooDeep value

mutual

/-- The value at the start of a text, inside `depth` arrays and objects, and
the characters after it.  The fuel bounds the steps. -/
def readValue : Nat → Nat → List Char → Outline × List Char
  | 0, _, _ => (.broken, [])
  | fuel + 1, depth, cs =>
    match skipSpace cs with
    | 'n' :: rest => readWord ['u', 'l', 'l'] .null rest
    | 't' :: rest => readWord ['r', 'u', 'e'] (.bool true) rest
    | 'f' :: rest => readWord ['a', 'l', 's', 'e'] (.bool false) rest
    | '"' :: rest =>
      match readString rest with
      | some (s, rest) => (.string s, rest)
      | none => (.broken, [])
    | '[' :: rest =>
      match skipSpace rest with
      | ']' :: rest => (nested depth (.array []), rest)
      | rest =>
        let (items, rest) := readItems fuel (depth + 1) rest
        (nested depth (.array items), rest)
    | '\x7b' :: rest =>
      match skipSpace rest with
      | '\x7d' :: rest => (nested depth (.object []), rest)
      | rest =>
        let (entries, rest) := readEntries fuel (depth + 1) rest
        (nested depth (.object entries), rest)
    | rest => readNumber rest

/-- The items of an array from a value on, and the characters after the closing
bracket. -/
def readItems : Nat → Nat → List Char → List Outline × List Char
  | 0, _, _ => ([.broken], [])
  | fuel + 1, depth, cs =>
    let (item, rest) := readValue fuel depth cs
    match skipSpace rest with
    | ']' :: rest => ([item], rest)
    | ',' :: rest =>
      let (items, rest) := readItems fuel depth rest
      (item :: items, rest)
    | _ => ([item, .broken], [])

/-- The entries of an object from a key on, and the characters after the closing
brace. -/
def readEntries : Nat → Nat → List Char → List (Option String × Outline) × List Char
  | 0, _, _ => ([(some "", .broken)], [])
  | fuel + 1, depth, cs =>
    match skipSpace cs with
    | '"' :: rest =>
      match readString rest with
      | none => ([(some "", .broken)], [])
      | some (key, rest) =>
        match skipSpace rest with
        | ':' :: rest =>
          let (value, rest) := readValue fuel depth rest
          match skipSpace rest with
          | '\x7d' :: rest => ([(key, value)], rest)
          | ',' :: rest =>
            let (entries, rest) := readEntries fuel depth rest
            ((key, value) :: entries, rest)
          | _ => ([(key, value), (some "", .broken)], [])
        | _ => ([(key, .broken)], [])
    | _ => ([(some "", .broken)], [])

end

/-! ## Texts -/

/-- The outline of the value a text starts with, and whether nothing but space
follows it. -/
def Outline.ofText (text : String) : Outline × Bool :=
  let cs := text.toList
  let (value, rest) := readValue (2 * cs.length + 2) 0 cs
  (value, (skipSpace rest).isEmpty)

/-- The outline of a text that holds one value and nothing after it. -/
def Outline.ofWholeText (text : String) : Outline :=
  match ofText text with
  | (value, true) => value
  | (_, false) => .broken

/-! ## Embedded texts -/

/-- The key of an object that embeds a text. -/
def embeddingKey : String := "$serde_json::private::RawValue"

/-- The text that an object embeds, if its first key says that it embeds one.
The text is missing where it is no string or other entries follow. -/
def embedded? : List (String × Json) → Option (Option String)
  | [] => none
  | (key, value) :: rest =>
    if key = embeddingKey then
      match value, rest with
      | .string text, [] => some (some text)
      | _, _ => some none
    else none

mutual

/-- The value with a value of `read` for every embedded text. -/
def expand? (read : String → Option Json) : Json → Option Json
  | array items => (expandItems? read items).map .array
  | object entries =>
    match embedded? entries with
    | some text => text.bind read
    | none => (expandEntries? read entries).map .object
  | value => some value

/-- The items of an array, expanded. -/
def expandItems? (read : String → Option Json) : List Json → Option (List Json)
  | [] => some []
  | item :: items =>
    match expand? read item, expandItems? read items with
    | some item, some items => some (item :: items)
    | _, _ => none

/-- The entries of an object with their values expanded. -/
def expandEntries? (read : String → Option Json) :
    List (String × Json) → Option (List (String × Json))
  | [] => some []
  | (key, value) :: entries =>
    match expand? read value, expandEntries? read entries with
    | some value, some entries => some ((key, value) :: entries)
    | _, _ => none

end

/-- The value of an embedded text.  Texts inside it are shorter than it, so the
fuel, which bounds how deep they lie, need not exceed its length. -/
def ofEmbedded? : Nat → String → Option Json
  | 0, _ => none
  | fuel + 1, text => (Outline.ofWholeText text).json?.bind (expand? (ofEmbedded? fuel))

/-- The value with its embedded texts read and every key of every object once, if
it has no fault. -/
def Outline.settled? (value : Outline) : Option Json :=
  (value.json?.bind (expand? fun text => ofEmbedded? text.length text)).map settle

/-- The settled value of a text. -/
def ofText? (text : String) : Option Json := (Outline.ofWholeText text).settled?

/-- Entries of an outline with their values settled. -/
def settledEntries? : List (Option String × Outline) → Option (List (String × Json))
  | [] => some []
  | (key, value) :: entries =>
    match key, value.settled?, settledEntries? entries with
    | some key, some value, some entries => some ((key, value) :: entries)
    | _, _, _ => none

/-- The entries of the object in a text, each key once. -/
def entriesOfText? (text : String) : Option (Entries Json) :=
  match Outline.ofWholeText text with
  | .object entries => (settledEntries? entries).map Entries.settle
  | _ => none

/-! ## Checks -/

/-- A text read and written again without spaces. -/
def compacted (text : String) : Option String := (ofText? text).map compact

example : compacted " [1, \x7b\"a\": null, \"b\": 2, \"a\": \"\\u00e9\"\x7d] " =
    some "[1,\x7b\"a\":\"é\",\"b\":2\x7d]" := by
  decide +kernel

example : compacted "\"\\ud83d\\ude00\"" = some "\"😀\"" ∧ compacted "\"\\ud800\"" = none := by
  decide +kernel

example : (Outline.ofWholeText "\"\\ud800x\"").isClosed = true ∧ compacted "[1,]" = none := by
  decide +kernel

example :
    compacted "[\x7b\"$serde_json::private::RawValue\": \"[ 1 ]\"\x7d]" = some "[[1]]" ∧
      compacted "\x7b\"$serde_json::private::RawValue\": 1\x7d" = none := by
  decide +kernel

example : compacted "1 2" = none ∧ compacted "tru" = none ∧ compacted "" = none := by decide +kernel

end RelQuery.Json
