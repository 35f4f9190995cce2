import RelQuery.Text.Blank

/-!
# Pieces of a statement

Databases differ in how they delimit identifiers and escape strings and in
nothing else that a statement needs.  So a statement is a list of *pieces*:
plain text, identifiers, and values of strings.  A *generator* writes the two
kinds that differ, and `Generator.render` writes a list of pieces one after
another.

A dotted name is cut at its dots, and each segment is an identifier of its own.
The segment `*` is plain text.
-/

namespace RelQuery

/-- A part of a statement. -/
inductive Piece where
  /-- Text that is the same for every database. -/
  | text (s : String)
  /-- One segment of a name. -/
  | identifier (name : String)
  /-- The value of a string literal. -/
  | string (value : String)
  deriving DecidableEq, Repr

/-- What a database expects of identifiers and strings. -/
structure Generator where
  /-- An identifier with its delimiters. -/
  quoteIdentifier : String → String
  /-- A string literal with its quotes. -/
  stringLiteral : String → String

namespace Generator

/-- The text of a piece. -/
def renderPiece (g : Generator) : Piece → String
  | .text s => s
  | .identifier name => g.quoteIdentifier name
  | .string value => g.stringLiteral value

@[simp] theorem renderPiece_text (g : Generator) (s : String) : g.renderPiece (.text s) = s := rfl

@[simp] theorem renderPiece_identifier (g : Generator) (name : String) :
    g.renderPiece (.identifier name) = g.quoteIdentifier name := rfl

@[simp] theorem renderPiece_string (g : Generator) (value : String) :
    g.renderPiece (.string value) = g.stringLiteral value := rfl

/-- The text of a list of pieces. -/
def render (g : Generator) (pieces : List Piece) : String := String.join (pieces.map g.renderPiece)

@[simp] theorem render_nil (g : Generator) : g.render [] = "" := rfl

@[simp] theorem render_cons (g : Generator) (p : Piece) (ps : List Piece) :
    g.render (p :: ps) = g.renderPiece p ++ g.render ps := by
  apply String.toList_injective
  simp [render, String.toList_join]

/-- A text is written as it is. -/
theorem render_text (g : Generator) (s : String) : g.render [.text s] = s := by
  rw [render_cons, render_nil, String.append_empty, renderPiece_text]

/-- Pieces that follow each other are written one after the other. -/
@[simp] theorem render_append (g : Generator) (xs ys : List Piece) :
    g.render (xs ++ ys) = g.render xs ++ g.render ys := by
  apply String.toList_injective
  simp [render, String.toList_join]

end Generator

/-! ## Lists of pieces -/

namespace Piece

/-- Several lists of pieces with a text between neighbours. -/
def intercalate (separator : String) : List (List Piece) → List Piece
  | [] => []
  | [pieces] => pieces
  | pieces :: rest => pieces ++ .text separator :: intercalate separator rest

/-- The segment of a name. -/
def ofSegment (segment : List Char) : Piece :=
  if segment = ['*'] then .text "*" else .identifier (String.ofList segment)

/-- A dotted name, a segment at a time. -/
def ofName (name : String) : List Piece :=
  intercalate "." ((Text.splitAt '.' name.toList).map fun segment => [ofSegment segment])

end Piece

/-- Pieces with a text between neighbours are written with that text between them. -/
theorem Generator.render_intercalate (g : Generator) (separator : String)
    (xs : List (List Piece)) :
    g.render (Piece.intercalate separator xs) = separator.intercalate (xs.map g.render) := by
  induction xs with
  | nil => rfl
  | cons x xs ih =>
    cases xs with
    | nil => simp [Piece.intercalate]
    | cons y ys =>
      have hcons : Piece.intercalate separator (x :: y :: ys) =
          x ++ .text separator :: Piece.intercalate separator (y :: ys) := rfl
      rw [hcons, Generator.render_append, Generator.render_cons, ih]
      simp only [List.map_cons]
      rw [String.intercalate_cons_cons, String.append_assoc]
      rfl

/-! ## Names -/

/-- A segment of a name as a database expects it. -/
def Generator.quoteSegment (g : Generator) (segment : List Char) : String :=
  if segment = ['*'] then "*" else g.quoteIdentifier (String.ofList segment)

/-- A dotted name as a database expects it. -/
def Generator.quoteName (g : Generator) (name : String) : String :=
  String.intercalate "." ((Text.splitAt '.' name.toList).map g.quoteSegment)

/-- The text of a dotted name is that of its pieces. -/
theorem Generator.quoteName_eq (g : Generator) (name : String) :
    g.quoteName name = g.render (Piece.ofName name) := by
  have hsegment : ∀ segment, g.render [Piece.ofSegment segment] = g.quoteSegment segment := by
    intro segment
    rw [Generator.render_cons, Generator.render_nil, String.append_empty, Piece.ofSegment,
      Generator.quoteSegment]
    split <;> rfl
  rw [Piece.ofName, Generator.render_intercalate, List.map_map, Generator.quoteName]
  refine congrArg (String.intercalate ".") (List.map_congr_left fun segment _ => ?_)
  exact (hsegment segment).symm

/-! ## Checks -/

example : Piece.ofName "Model.*" = [.identifier "Model", .text ".", .text "*"] := by decide +kernel

example : Piece.ofName "a..b" =
    [.identifier "a", .text ".", .identifier "", .text ".", .identifier "b"] := by
  decide +kernel

end RelQuery
