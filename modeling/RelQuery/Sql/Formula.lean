import RelQuery.Query.Basic
import RelQuery.Sql.Piece

/-!
# Formulas of a condition

A condition is written as a formula: *atoms*, which are tests and raw text, with
connectives and parentheses.  Keeping these apart until the last step lets a
reader of formulas speak about them without looking into an atom.

A group is the members that say something, joined by its connective.

* No member leaves no formula, and one member stands for itself.
* Among several, raw text is put in parentheses, since it may hold connectives.
* A group inside another is put in parentheses once (`enclose`).
-/

namespace RelQuery

/-- A part of a formula. -/
inductive Token where
  /-- A test or raw text. -/
  | atom (pieces : List Piece)
  /-- A connective between two members. -/
  | connective (c : Connective)
  /-- An opening parenthesis. -/
  | opening
  /-- A closing parenthesis. -/
  | closing
  deriving DecidableEq, Repr

namespace Token

/-- The pieces of a token. -/
def pieces : Token → List Piece
  | atom ps => ps
  | connective c => [.text c.joiner]
  | opening => [.text "("]
  | closing => [.text ")"]

/-- The pieces of a formula. -/
def piecesOf (tokens : List Token) : List Piece := tokens.flatMap pieces

/-- A formula in parentheses. -/
def enclose (tokens : List Token) : List Token := opening :: tokens ++ [closing]

end Token

/-- A member of a group as it is written. -/
structure Fragment where
  /-- The formula. -/
  tokens : List Token
  /-- Whether it is raw text. -/
  isRaw : Bool
  deriving DecidableEq, Repr

namespace Fragment

/-- A member among others. -/
def beside (f : Fragment) : List Token := if f.isRaw then Token.enclose f.tokens else f.tokens

/-- Members with a connective between neighbours. -/
def chain (c : Connective) : List Fragment → List Token
  | [] => []
  | [f] => f.beside
  | f :: fs => f.beside ++ .connective c :: chain c fs

/-- The formula of a group, if any member says something. -/
def join (c : Connective) : List Fragment → Option (List Token)
  | [] => none
  | [f] => some f.tokens
  | fs => some (chain c fs)

/-- Raw text without outer blanks, if anything is left of it. -/
def ofRaw? (sql : String) : Option Fragment :=
  let text := Text.trim sql
  if text = "" then none else some ⟨[.atom [.text text]], true⟩

end Fragment

end RelQuery
