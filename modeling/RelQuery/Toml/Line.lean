import RelQuery.Toml.Scalar

/-!
# TOML lines

A TOML text is a sequence of lines, and every line that is not blank is a header
or an entry.  A comment may end any line.  Arrays may span lines and hold
comments.  Tables in braces stay on one line and have no comma after their last
entry.

Keys have a bounded number of parts, and values are nested to a bounded depth.
-/

namespace RelQuery.Toml

/-- How many parts a key may have, and how many arrays and tables in braces may
stand around a value. -/
def maxParts : Nat := 79

/-! ## Keys -/

/-- Whether a character may stand in a key without quotes. -/
def isBare (c : Char) : Bool := c.isAlphanum || c = '-' || c = '_'

/-- One part of a key: bare, or between single or double quotes. -/
def readPart : List Char → Option (String × List Char)
  | '"' :: rest => (readBasic rest).map fun r => (String.ofList r.1, r.2)
  | '\'' :: rest => (readLiteral rest).map fun r => (String.ofList r.1, r.2)
  | cs =>
    let name := cs.takeWhile isBare
    if name.isEmpty then none else some (String.ofList name, cs.dropWhile isBare)

/-- A key of at most so many parts.  Blanks may stand around each. -/
def readParts : Nat → List Char → Option (List String × List Char)
  | 0, _ => none
  | room + 1, cs => do
    let (part, rest) ← readPart (skipSpace cs)
    match skipSpace rest with
    | '.' :: rest => (readParts room rest).map fun r => (part :: r.1, r.2)
    | rest => some ([part], rest)

/-- A key with the blanks around it: the parts before the last, and the last. -/
def readKey (cs : List Char) : Option ((List String × String) × List Char) := do
  let (parts, rest) ← readParts maxParts cs
  let last ← parts.getLast?
  some ((parts.dropLast, last), rest)

/-! ## Blank space -/

/-- The characters after a comment, if there is one. -/
def skipComment : List Char → List Char
  | '#' :: rest => rest.dropWhile isPlain
  | rest => rest

/-- The characters after the end of a line: blanks, a comment, and a line break
or the end of the text. -/
def afterLine? (cs : List Char) : Option (List Char) :=
  match skipComment (skipSpace cs) with
  | [] => some []
  | rest => afterBreak? rest

/-- The characters after blanks, comments and line breaks.  A comment reaches to
a line break. -/
def skipLines (commented : Bool) : List Char → List Char
  | [] => []
  | '\r' :: '\n' :: rest => skipLines false rest
  | '\n' :: rest => skipLines false rest
  | c :: rest =>
    if commented then if isPlain c then skipLines true rest else c :: rest
    else if isSpace c then skipLines false rest
    else if c = '#' then skipLines true rest
    else c :: rest

/-! ## Values -/

mutual

/-- The value at the start of a text, with room for so many levels of nesting.
The fuel bounds the steps. -/
def readValue : Nat → Nat → List Char → Option (Toml × List Char)
  | 0, _, _ => none
  | fuel + 1, room, cs =>
    match cs, room with
    | '[' :: _, 0 => none
    | '\x7b' :: _, 0 => none
    | '[' :: rest, room + 1 => (readItems fuel room rest).map fun r => (.array r.1, r.2)
    | '\x7b' :: rest, room + 1 =>
      match skipSpace rest with
      | '\x7d' :: rest => some (.inline [], rest)
      | rest => (readInline fuel room [] rest).map fun r => (.inline r.1, r.2)
    | cs, _ => readScalar cs

/-- The items of an array, after its opening bracket or a comma. -/
def readItems : Nat → Nat → List Char → Option (List Toml × List Char)
  | 0, _, _ => none
  | fuel + 1, room, cs =>
    match skipLines false cs with
    | ']' :: rest => some ([], rest)
    | cs => do
      let (item, rest) ← readValue fuel room cs
      match skipLines false rest with
      | ']' :: rest => some ([item], rest)
      | ',' :: rest => (readItems fuel room rest).map fun r => (item :: r.1, r.2)
      | _ => none

/-- The entries of a table in braces from a key on, added to those before. -/
def readInline : Nat → Nat → Entries Toml → List Char → Option (Entries Toml × List Char)
  | 0, _, _, _ => none
  | fuel + 1, room, entries, cs => do
    let ((path, key), rest) ← readKey cs
    let rest ← Text.after? ['='] rest
    let (value, rest) ← readValue fuel room (skipSpace rest)
    let entries ← assignAt .header entries path key value
    match skipSpace rest with
    | '\x7d' :: rest => some (entries, rest)
    | ',' :: rest => readInline fuel room entries rest
    | _ => none

end

/-! ## Lines -/

/-- A line that says something. -/
inductive Line where
  /-- The header of a table. -/
  | table (path : List String) (key : String)
  /-- The header of one more table of an array. -/
  | item (path : List String) (key : String)
  /-- A key with its value. -/
  | entry (path : List String) (key : String) (value : Toml)

/-- A header: its key, and the characters after the closing brackets. -/
def readHeader (closing : List Char) (make : List String → String → Line) (cs : List Char) :
    Option (Line × List Char) := do
  let ((path, key), rest) ← readKey cs
  some (make path key, ← Text.after? closing rest)

/-- An entry. -/
def readEntry (cs : List Char) : Option (Line × List Char) := do
  let ((path, key), rest) ← readKey cs
  let rest ← Text.after? ['='] rest
  let (value, rest) ← readValue (2 * rest.length + 2) maxParts (skipSpace rest)
  some (.entry path key value, rest)

/-- A header or an entry. -/
def readLine : List Char → Option (Line × List Char)
  | '[' :: '[' :: rest => readHeader [']', ']'] .item rest
  | '[' :: rest => readHeader [']'] .table rest
  | cs => readEntry cs

/-- The lines of a text, without the blank ones.  The fuel bounds their number. -/
def readLines : Nat → List Char → Option (List Line)
  | 0, _ => none
  | fuel + 1, cs =>
    match skipSpace cs with
    | [] => some []
    | cs =>
      match afterLine? cs with
      | some rest => readLines fuel rest
      | none => do
        let (line, rest) ← readLine cs
        let lines ← readLines fuel (← afterLine? rest)
        some (line :: lines)

end RelQuery.Toml
