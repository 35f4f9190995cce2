/-!
# Control sequences

A text for a terminal may hold *control sequences*, which start with the escape
character and are not shown.  `shown` is what is left of a text without them.

* After the escape character come intermediate characters and a last one.  A
  bracket in their place opens a control sequence with parameters, which ends
  with a letter.  Other openings start a string that goes on to the next escape
  character, and that of a system command also ends with the bell.
* Cancel and substitute end whatever is open.
* Of the control characters only white space is shown, also inside a sequence,
  though not inside a string.

What is shown inside a sequence starts a *run*.  A run goes on to the next
character that is not shown on its own, and there the sequence goes on, unless
the run has a character beyond ASCII, which ends the sequence.
-/

namespace RelQuery.Text

/-- What is open where a text has been read to. -/
inductive Sequence where
  /-- Nothing. -/
  | plain
  /-- An escape character. -/
  | escape
  /-- An escape character with intermediate characters. -/
  | intermediate
  /-- A control sequence with parameters. -/
  | parameters
  /-- A system command. -/
  | command
  /-- Any other string. -/
  | string
  deriving DecidableEq, Repr

namespace Sequence

/-- Whether a control character is white space. -/
def isLayout (c : Char) : Bool := c = '\t' || c = '\n' || c = '\x0c' || c = '\r'

/-- Whether a character is shown where a sequence stands. -/
def shows (s : Sequence) (c : Char) : Bool :=
  match s with
  | plain => isLayout c || decide (0x20 ≤ c.toNat ∧ c.toNat ≠ 0x7f)
  | escape => isLayout c
  | intermediate => isLayout c
  | parameters => isLayout c
  | command => false
  | string => false

/-- Whether a character lies in a range of code points. -/
def isIn (low high : Nat) (c : Char) : Bool := decide (low ≤ c.toNat ∧ c.toNat ≤ high)

/-- What the character after an escape character opens. -/
def opened (c : Char) : Sequence :=
  if isIn 0x20 0x2f c then intermediate
  else if c = '[' then parameters
  else if c = ']' then command
  else if c = 'P' ∨ c = 'X' ∨ c = '^' ∨ c = '_' then string
  else if isIn 0x30 0x7e c then plain
  else escape

/-- What is open after a character. -/
def next (s : Sequence) (c : Char) : Sequence :=
  if c = '\x18' ∨ c = '\x1a' then plain
  else if c = '\x1b' then escape
  else
    match s with
    | plain => plain
    | escape => opened c
    | intermediate => if isIn 0x30 0x7e c then plain else intermediate
    | parameters => if isIn 0x40 0x7e c then plain else parameters
    | command => if c = '\x07' then plain else command
    | string => string

/-- The shown characters of a text, where `s` is open and perhaps interrupted by
a run. -/
def shownChars (s : Sequence) (inRun : Bool) : List Char → List Char
  | [] => []
  | c :: cs =>
    if shows (if inRun then plain else s) c then
      c :: shownChars (if c.toNat < 0x80 then s else plain) true cs
    else shownChars (next s c) false cs

end Sequence

/-- What a terminal shows of a text. -/
def shown (s : String) : String := String.ofList (Sequence.shownChars .plain false s.toList)

/-- A text in bold letters. -/
def bold (s : String) : String := "\x1b[1m" ++ s ++ "\x1b[0m"

/-! ## Checks -/

example : shown (bold "a" ++ "b\x07\x7f") = "ab" := by decide +kernel

example : shown "a\x1b]0;b\x07c\x1bPd\x1b\\e" = "ace" := by decide +kernel

example : shown "\x1b[3\nx\x07mb" = "\nxb" ∧ shown "\x1b[3\né\x07mb" = "\némb" := by decide +kernel

end RelQuery.Text
