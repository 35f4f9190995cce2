import RelQuery.Binary64.Decimal
import RelQuery.Calendar
import RelQuery.Text.Integer
import RelQuery.Toml.Basic

/-!
# TOML scalars

Every reader takes the start of a text and gives the value with the characters
after it.

* A string stands between one or three double quotes, where a backslash
  escapes, or between one or three single quotes, where nothing does.  Three
  quotes admit line breaks, and up to two more quotes may stand before the
  closing three.
* A number may have underscores between digits.  A whole number may be written
  in base sixteen, eight or two, and must fit sixty-four bits.  A number with
  places may not be so great that it becomes infinite.
* A date has its days checked against the month.  A time may follow it.
-/

namespace RelQuery.Toml

/-! ## Characters and lines -/

/-- Whether a character is a blank within a line. -/
def isSpace (c : Char) : Bool := c = ' ' || c = '\t'

/-- The characters from the first that is no blank on. -/
def skipSpace (cs : List Char) : List Char := cs.dropWhile isSpace

/-- Whether a character may stand in a comment or in a quoted text. -/
def isPlain (c : Char) : Bool := c = '\t' || decide (32 ≤ c.toNat ∧ c.toNat ≠ 127)

/-- The characters after a line break. -/
def afterBreak? : List Char → Option (List Char)
  | '\n' :: rest => some rest
  | '\r' :: '\n' :: rest => some rest
  | _ => none

/-! ## Strings -/

/-- The character whose number is written in base sixteen. -/
def charOf? (digits : List Char) : Option Char := do
  let n ← digits.foldlM (fun n c => (Text.hexValue? c).map (n * 16 + ·)) 0
  if n.isValidChar then some (Char.ofNat n) else none

/-- The character that a one-letter escape names. -/
def escaped? (c : Char) : Option Char :=
  if c = '"' ∨ c = '\\' then some c
  else if c = 'b' then some '\x08'
  else if c = 'f' then some '\x0c'
  else if c = 'n' then some '\n'
  else if c = 'r' then some '\r'
  else if c = 't' then some '\t'
  else none

/-- A character before what is read of the rest. -/
def before (c : Char) (rest : Option (List Char × List Char)) : Option (List Char × List Char) :=
  rest.map fun r => (c :: r.1, r.2)

/-- The characters up to a double quote. -/
def readBasic : List Char → Option (List Char × List Char)
  | [] => none
  | '"' :: rest => some ([], rest)
  | '\\' :: 'u' :: a :: b :: c :: d :: rest =>
    (charOf? [a, b, c, d]).bind fun x => before x (readBasic rest)
  | '\\' :: 'U' :: a :: b :: c :: d :: e :: f :: g :: h :: rest =>
    (charOf? [a, b, c, d, e, f, g, h]).bind fun x => before x (readBasic rest)
  | '\\' :: c :: rest => (escaped? c).bind fun x => before x (readBasic rest)
  | c :: rest => if isPlain c then before c (readBasic rest) else none
  termination_by structural cs => cs

/-- The characters up to a single quote. -/
def readLiteral : List Char → Option (List Char × List Char)
  | [] => none
  | '\'' :: rest => some ([], rest)
  | c :: rest => if isPlain c then before c (readLiteral rest) else none

/-- The characters up to three double quotes.  A backslash at the end of a line
escapes the blanks and line breaks after it, which are skipped then. -/
def readBasicLines (skipping : Bool) : List Char → Option (List Char × List Char)
  | [] => none
  | '"' :: '"' :: '"' :: '"' :: '"' :: rest => some (['"', '"'], rest)
  | '"' :: '"' :: '"' :: '"' :: rest => some (['"'], rest)
  | '"' :: '"' :: '"' :: rest => some ([], rest)
  | '\\' :: 'u' :: a :: b :: c :: d :: rest =>
    (charOf? [a, b, c, d]).bind fun x => before x (readBasicLines false rest)
  | '\\' :: 'U' :: a :: b :: c :: d :: e :: f :: g :: h :: rest =>
    (charOf? [a, b, c, d, e, f, g, h]).bind fun x => before x (readBasicLines false rest)
  | '\\' :: c :: rest =>
    match escaped? c with
    | some x => before x (readBasicLines false rest)
    | none =>
      if (afterBreak? (skipSpace (c :: rest))).isSome then readBasicLines true (c :: rest) else none
  | '\r' :: '\n' :: rest =>
    if skipping then readBasicLines true rest else before '\n' (readBasicLines false rest)
  | '\n' :: rest =>
    if skipping then readBasicLines true rest else before '\n' (readBasicLines false rest)
  | c :: rest =>
    if skipping && isSpace c then readBasicLines true rest
    else if isPlain c then before c (readBasicLines false rest)
    else none
  termination_by structural cs => cs

/-- The characters up to three single quotes. -/
def readLiteralLines : List Char → Option (List Char × List Char)
  | [] => none
  | '\'' :: '\'' :: '\'' :: '\'' :: '\'' :: rest => some (['\'', '\''], rest)
  | '\'' :: '\'' :: '\'' :: '\'' :: rest => some (['\''], rest)
  | '\'' :: '\'' :: '\'' :: rest => some ([], rest)
  | '\r' :: '\n' :: rest => before '\n' (readLiteralLines rest)
  | '\n' :: rest => before '\n' (readLiteralLines rest)
  | c :: rest => if isPlain c then before c (readLiteralLines rest) else none
  termination_by structural cs => cs

/-- The characters without a line break at the start. -/
def dropBreak (cs : List Char) : List Char := (afterBreak? cs).getD cs

/-- The string at the start of a text. -/
def readString : List Char → Option (Toml × List Char)
  | '"' :: '"' :: '"' :: rest => (readBasicLines false (dropBreak rest)).map text
  | '"' :: rest => (readBasic rest).map text
  | '\'' :: '\'' :: '\'' :: rest => (readLiteralLines (dropBreak rest)).map text
  | '\'' :: rest => (readLiteral rest).map text
  | _ => none
where
  /-- A string of the characters that were read. -/
  text (read : List Char × List Char) : Toml × List Char := (.string (String.ofList read.1), read.2)

/-! ## Numbers -/

/-- Digits, with single underscores between them. -/
def readRun (isDigit : Char → Bool) : List Char → List Char × List Char
  | [] => ([], [])
  | '_' :: c :: rest =>
    if isDigit c then
      let (digits, rest) := readRun isDigit rest
      (c :: digits, rest)
    else ([], '_' :: c :: rest)
  | c :: rest =>
    if isDigit c then
      let (digits, rest) := readRun isDigit rest
      (c :: digits, rest)
    else ([], c :: rest)

/-- At least one digit, with single underscores between digits. -/
def readDigits (isDigit : Char → Bool) : List Char → Option (List Char × List Char)
  | c :: rest => if isDigit c then some (readRun isDigit (c :: rest)) else none
  | [] => none

/-- The digits of a whole part: one zero, or digits that start with another. -/
def readWhole : List Char → Option (List Char × List Char)
  | '0' :: rest => some (['0'], rest)
  | cs => readDigits Char.isDigit cs

/-- A sign, if there is one: whether it is a minus. -/
def readSign : List Char → Bool × List Char
  | '-' :: rest => (true, rest)
  | '+' :: rest => (false, rest)
  | rest => (false, rest)

/-- A whole number with a sign that is given. -/
def signed (negative : Bool) (n : Nat) : Int := if negative then -n else n

/-- The exponent of a number, if one is written. -/
def readExponent : List Char → Option (Int × List Char)
  | c :: rest =>
    if c = 'e' ∨ c = 'E' then
      let (negative, rest) := readSign rest
      (readDigits Char.isDigit rest).map fun r => (signed negative (Nat.ofDigitChars 10 r.1 0), r.2)
    else none
  | [] => none

/-- The places of a number, if there are any. -/
def readPlaces : List Char → Option (List Char × List Char)
  | '.' :: rest => readDigits Char.isDigit rest
  | _ => none

/-- A decimal number whose value is not beyond every finite one. -/
def decimal? (negative : Bool) (whole places : List Char) (exponent : Int) : Option Toml :=
  let digits := Nat.ofDigitChars 10 (whole ++ places) 0
  let x := Binary64.ofDecimal negative digits (exponent - places.length)
  if x = .infinite false then none else some (.float x)

/-- A number in decimal digits, after its sign. -/
def readDecimal (negative : Bool) (cs : List Char) : Option (Toml × List Char) := do
  let (whole, rest) ← readWhole cs
  match readPlaces rest with
  | some (places, rest) =>
    match readExponent rest with
    | some (exponent, rest) => (decimal? negative whole places exponent).map fun x => (x, rest)
    | none => (decimal? negative whole places 0).map fun x => (x, rest)
  | none =>
    match readExponent rest with
    | some (exponent, rest) => (decimal? negative whole [] exponent).map fun x => (x, rest)
    | none =>
      (Text.toInt64? (signed negative (Nat.ofDigitChars 10 whole 0))).map fun n =>
        (.integer n, rest)

/-- A number of a base other than ten. -/
def readBased (base : Nat) (cs : List Char) : Option (Toml × List Char) := do
  let (digits, rest) ← readDigits (fun c => (Text.hexValue? c).any (· < base)) cs
  let n := digits.foldl (fun n c => n * base + (Text.hexValue? c).getD 0) 0
  (Text.toInt64? n).map fun n => (.integer n, rest)

/-- A number after its sign: in digits, or one of the words for those without. -/
def readUnsigned (negative : Bool) (cs : List Char) : Option (Toml × List Char) :=
  match Text.after? ['i', 'n', 'f'] cs, Text.after? ['n', 'a', 'n'] cs with
  | some rest, _ => some (.float (.infinite negative), rest)
  | none, some rest => some (.float .nan, rest)
  | none, none => readDecimal negative cs

/-- The number at the start of a text. -/
def readNumber : List Char → Option (Toml × List Char)
  | '0' :: 'x' :: rest => readBased 16 rest
  | '0' :: 'o' :: rest => readBased 8 rest
  | '0' :: 'b' :: rest => readBased 2 rest
  | cs => readUnsigned (readSign cs).1 (readSign cs).2

/-! ## Dates and times -/

/-- A number of exactly so many digits. -/
def readFixed : Nat → List Char → Option (Nat × List Char)
  | 0, cs => some (0, cs)
  | k + 1, c :: cs => do
    if c.isDigit then
      let (n, rest) ← readFixed k cs
      some ((c.toNat - 48) * Nat.pow 10 k + n, rest)
    else none
  | _ + 1, [] => none

/-- A number of two digits between two bounds. -/
def readPair (least greatest : Nat) (cs : List Char) : Option (Nat × List Char) := do
  let (n, rest) ← readFixed 2 cs
  if least ≤ n ∧ n ≤ greatest then some (n, rest) else none

/-- The characters after a date. -/
def afterDate? (cs : List Char) : Option (List Char) := do
  let (year, cs) ← readFixed 4 cs
  let (month, cs) ← readPair 1 12 (← Text.after? ['-'] cs)
  let (_, cs) ← readPair 1 (daysIn year month) (← Text.after? ['-'] cs)
  some cs

/-- The characters after the fraction of a second, if there is one. -/
def afterFraction : List Char → List Char
  | '.' :: c :: rest => if c.isDigit then rest.dropWhile Char.isDigit else '.' :: c :: rest
  | cs => cs

/-- The characters after a time of the day. -/
def afterTime? (cs : List Char) : Option (List Char) := do
  let (_, cs) ← readPair 0 23 cs
  let (_, cs) ← readPair 0 59 (← Text.after? [':'] cs)
  let (_, cs) ← readPair 0 60 (← Text.after? [':'] cs)
  some (afterFraction cs)

/-- The characters after an offset from universal time. -/
def afterOffset? : List Char → Option (List Char)
  | c :: cs =>
    if c = 'Z' ∨ c = 'z' then some cs
    else if c = '+' ∨ c = '-' then do
      let (_, cs) ← readPair 0 23 cs
      let (_, cs) ← readPair 0 59 (← Text.after? [':'] cs)
      some cs
    else none
  | [] => none

/-- The characters after the time that follows a date, if one does. -/
def afterTimeOfDate (cs : List Char) : List Char :=
  match cs with
  | c :: rest =>
    if c = 'T' ∨ c = 't' ∨ c = ' ' then
      match afterTime? rest with
      | some rest => (afterOffset? rest).getD rest
      | none => cs
    else cs
  | [] => cs

/-- The date or time at the start of a text. -/
def readMoment (cs : List Char) : Option (Toml × List Char) := do
  let rest ← (afterDate? cs).map afterTimeOfDate <|> afterTime? cs
  some (.moment (String.ofList (cs.take (cs.length - rest.length))), rest)

/-! ## Scalars -/

/-- A truth value at the start of a text. -/
def readBool (cs : List Char) : Option (Toml × List Char) :=
  match Text.after? ['t', 'r', 'u', 'e'] cs, Text.after? ['f', 'a', 'l', 's', 'e'] cs with
  | some rest, _ => some (.bool true, rest)
  | none, some rest => some (.bool false, rest)
  | none, none => none

/-- The scalar at the start of a text. -/
def readScalar (cs : List Char) : Option (Toml × List Char) :=
  readString cs <|> readBool cs <|> readMoment cs <|> readNumber cs

/-! ## Checks -/

/-- Whether a text is one string, and which. -/
def stringOf? (s : String) : Option String :=
  match readString s.toList with
  | some (.string t, []) => some t
  | _ => none

example : stringOf? "\"t\\tq\\\"\\u00e9\"" = some "t\tq\"é" ∧ stringOf? "\"\\ud800\"" = none := by
  decide +kernel

example : stringOf? "\"\"\"\na\\\n  b\"\"\"\"\"" = some "ab\"\"" ∧
    stringOf? "'''''''''" = none := by
  decide +kernel

/-- Whether a text is one whole number, and which. -/
def integerOf? (s : String) : Option Int64 :=
  match readNumber s.toList with
  | some (.integer n, []) => some n
  | _ => none

example : integerOf? "1_000" = some 1000 ∧ integerOf? "0x10" = some 16 ∧
    integerOf? "+9" = some 9 := by
  decide +kernel

example : integerOf? "9223372036854775808" = none ∧ integerOf? "01" = none ∧
    integerOf? "1__0" = none := by
  decide +kernel

example : afterDate? "2001-02-29".toList = none ∧ afterTime? "07:32:00.5".toList = some [] := by
  decide +kernel

end RelQuery.Toml
