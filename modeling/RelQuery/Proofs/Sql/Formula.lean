import Mathlib.Data.List.Forall2
import RelQuery.Sql.Formula

/-!
# Reading formulas

A database reads the condition of a statement as a boolean formula: `AND` binds
tighter than `OR`, and parentheses group.  Tests and raw text are the atoms.
`Formula.read?` is that reading, one token after another.

The reader is in one of two places: an operand is due, or an operand has just
been read.  Beside that it keeps, for every pair of parentheses that is open,
what stands to the left: a conjunction that waits for the operand, and before it
a disjunction that waits for the conjunction (`Pending`).

Tokens are an *operand* of a formula when any reader that expects an operand
takes them for that formula (`IsOperand`).  They *spell* a formula when they do
so between parentheses (`Spells`).  What stands between is bridged by two laws.

* An operand spells its formula, and tokens that spell a formula are an operand
  once they are enclosed.
* Operands with one connective between neighbours spell their combination
  (`spells_chain`).  With another connective around them this would fail, which
  is why a group inside another is enclosed.

So `join` spells the combination of the members of a group (`spells_join`).  Raw
text may spell any formula and still does not come apart beside others.
-/

namespace RelQuery

/-! ## Formulas -/

/-- The truth value of several members under a connective. -/
def Connective.combine : Connective → List Bool → Bool
  | and, values => values.all id
  | or, values => values.any id

/-- A boolean formula over tests and raw text. -/
inductive Formula where
  /-- A test or raw text. -/
  | atom (pieces : List Piece)
  /-- Two formulas under a connective. -/
  | compound (c : Connective) (left right : Formula)
  deriving DecidableEq

namespace Formula

/-- The truth value of a formula when its atoms have truth values. -/
def eval (truth : List Piece → Bool) : Formula → Bool
  | atom pieces => truth pieces
  | compound c left right => c.combine [left.eval truth, right.eval truth]

/-- A formula after what may stand before it under a connective. -/
def follow (c : Connective) (before : Option Formula) (f : Formula) : Formula :=
  match before with
  | none => f
  | some g => compound c g f

/-- Several formulas under a connective, from left to right. -/
def combine (c : Connective) (f : Formula) (fs : List Formula) : Formula :=
  fs.foldl (compound c) f

/-- The truth value of a combination is the combination of the truth values. -/
theorem eval_combine (truth : List Piece → Bool) (c : Connective) (f : Formula)
    (fs : List Formula) :
    (combine c f fs).eval truth = c.combine ((f :: fs).map (eval truth)) := by
  induction fs generalizing f with
  | nil => cases c <;> simp [combine, Connective.combine]
  | cons g gs ih =>
    have hstep : combine c f (g :: gs) = combine c (compound c f g) gs := rfl
    rw [hstep, ih]
    cases c <;> simp [eval, Connective.combine, Bool.and_assoc, Bool.or_assoc]

end Formula

/-! ## The reader -/

/-- What stands before an operand inside one pair of parentheses. -/
structure Pending where
  /-- The members of a disjunction that are whole. -/
  disjunction : Option Formula := none
  /-- The members so far of the conjunction that the operand belongs to. -/
  conjunction : Option Formula := none

namespace Pending

/-- The conjunction that ends with an operand. -/
def conjoin (p : Pending) (f : Formula) : Formula := Formula.follow .and p.conjunction f

/-- The formula that ends with an operand. -/
def close (p : Pending) (f : Formula) : Formula := Formula.follow .or p.disjunction (p.conjoin f)

/-- What stands before the next operand, after an operand and a connective.
`AND` continues the conjunction and `OR` ends it. -/
def push (p : Pending) (f : Formula) : Connective → Pending
  | .and => ⟨p.disjunction, some (p.conjoin f)⟩
  | .or => ⟨some (p.close f), none⟩

end Pending

/-- Where a reader of formulas stands. -/
inductive Reader where
  /-- An operand is due. -/
  | before (pending : Pending) (outer : List Pending)
  /-- An operand has been read. -/
  | after (pending : Pending) (outer : List Pending) (operand : Formula)

namespace Reader

/-- The reader after a token, if the token may stand there. -/
def step? : Reader → Token → Option Reader
  | before p outer, .atom pieces => some (after p outer (.atom pieces))
  | before p outer, .opening => some (before {} (p :: outer))
  | after p outer f, .connective c => some (before (p.push f c) outer)
  | after p (q :: outer) f, .closing => some (after q outer (p.close f))
  | _, _ => none

/-- The reader after several tokens. -/
def run? : Reader → List Token → Option Reader
  | r, [] => some r
  | r, t :: ts => (r.step? t).bind fun r => run? r ts

/-- Tokens that follow each other are read one after the other. -/
theorem run?_append (r : Reader) (ts us : List Token) :
    r.run? (ts ++ us) = (r.run? ts).bind fun r => r.run? us := by
  induction ts generalizing r with
  | nil => rfl
  | cons t ts ih =>
    rw [List.cons_append, run?, run?, Option.bind_assoc]
    exact Option.bind_congr fun r _ => ih r

end Reader

/-- The formula that tokens spell as a whole. -/
def Formula.read? (tokens : List Token) : Option Formula :=
  match (Reader.before {} []).run? tokens with
  | some (.after p [] f) => some (p.close f)
  | _ => none

/-! ## Operands -/

namespace Token

/-- Whether tokens are read as a formula wherever an operand is due. -/
def IsOperand (tokens : List Token) (f : Formula) : Prop :=
  ∀ p outer, (Reader.before p outer).run? tokens = some (.after p outer f)

/-- Whether tokens are read as a formula between parentheses. -/
def Spells (tokens : List Token) (f : Formula) : Prop :=
  ∀ outer, ∃ p g, (Reader.before {} outer).run? tokens = some (.after p outer g) ∧ p.close g = f

variable {tokens : List Token} {f : Formula}

theorem isOperand_atom (pieces : List Piece) : IsOperand [atom pieces] (.atom pieces) := by
  intro p outer
  rfl

theorem IsOperand.spells (h : IsOperand tokens f) : Spells tokens f := by
  intro outer
  exact ⟨{}, f, h {} outer, rfl⟩

/-- Tokens that spell a formula are read as that formula. -/
theorem Spells.read? (h : Spells tokens f) : Formula.read? tokens = some f := by
  obtain ⟨p, g, hrun, hclose⟩ := h []
  rw [Formula.read?, hrun]
  exact congrArg some hclose

/-- Tokens that spell a formula are an operand once they are enclosed. -/
theorem Spells.isOperand_enclose (h : Spells tokens f) : IsOperand (enclose tokens) f := by
  intro p outer
  obtain ⟨q, g, hrun, hclose⟩ := h (p :: outer)
  have hopen : (Reader.before p outer).step? opening = some (.before {} (p :: outer)) := rfl
  rw [enclose, List.cons_append, Reader.run?, hopen, Option.bind_some, Reader.run?_append, hrun,
    Option.bind_some]
  show some (Reader.after p outer (q.close g)) = _
  rw [hclose]

end Token

/-! ## Chains of operands -/

namespace Pending

/-- Whether a connective continues what stands before an operand without ending
a member of it. -/
def Continues (p : Pending) : Connective → Prop
  | .and => p.disjunction = none
  | .or => p.conjunction = none

variable {p : Pending} {c : Connective}

/-- Between parentheses nothing stands before the first operand. -/
theorem continues_empty (c : Connective) : ({} : Pending).Continues c := by
  cases c <;> rfl

/-- A connective goes on as it began. -/
theorem Continues.push (h : p.Continues c) (f : Formula) : (p.push f c).Continues c := by
  cases c with
  | and => exact h
  | or => rfl

/-- Two operands under a connective that goes on are combined. -/
theorem Continues.close_push (h : p.Continues c) (f g : Formula) :
    (p.push f c).close g = .compound c (p.close f) g := by
  cases c with
  | and =>
    have hnone : p.disjunction = none := h
    simp [Pending.push, close, conjoin, Formula.follow, hnone]
  | or => rfl

end Pending

namespace Fragment

/-- Whether a member of a group is written as a formula: alone it spells the
formula, and beside others it is an operand. -/
structure Writes (m : Fragment) (f : Formula) : Prop where
  /-- What the member spells where it is the only one. -/
  alone : Token.Spells m.tokens f
  /-- What the member is among others. -/
  among : Token.IsOperand m.beside f

variable {m : Fragment} {f : Formula}

/-- Raw text may spell any formula. -/
theorem Writes.of_raw (h : Token.Spells m.tokens f) (hraw : m.isRaw = true) : m.Writes f := by
  refine ⟨h, ?_⟩
  rw [beside, if_pos hraw]
  exact h.isOperand_enclose

/-- What is not raw text has to be an operand by itself. -/
theorem Writes.of_operand (h : Token.IsOperand m.tokens f) (hraw : m.isRaw = false) :
    m.Writes f := by
  refine ⟨h.spells, ?_⟩
  rw [beside, if_neg (by simp [hraw])]
  exact h

/-- A chain is read as the combination of its members, after whatever its
connective continues. -/
theorem run?_chain {c : Connective} {p : Pending} (hp : p.Continues c) (outer : List Pending)
    (hm : m.Writes f) {ms : List Fragment} {fs : List Formula}
    (hms : List.Forall₂ Writes ms fs) :
    ∃ q g, (Reader.before p outer).run? (chain c (m :: ms)) = some (.after q outer g) ∧
      q.close g = Formula.combine c (p.close f) fs := by
  induction hms generalizing p m f with
  | nil => exact ⟨p, f, hm.among p outer, rfl⟩
  | @cons m' f' ms fs hm' hms ih =>
    obtain ⟨q, g, hrun, hclose⟩ := ih (hp.push f) hm'
    refine ⟨q, g, ?_, ?_⟩
    · have hpush : (Reader.after p outer f).step? (.connective c) =
          some (.before (p.push f c) outer) := rfl
      rw [chain, Reader.run?_append, hm.among p outer, Option.bind_some, Reader.run?, hpush,
        Option.bind_some]
      · exact hrun
      · exact List.cons_ne_nil m' ms
    · rw [hclose, hp.close_push]
      rfl

/-- Members with a connective between neighbours spell their combination. -/
theorem spells_chain {c : Connective} (hm : m.Writes f) {ms : List Fragment} {fs : List Formula}
    (hms : List.Forall₂ Writes ms fs) :
    Token.Spells (chain c (m :: ms)) (Formula.combine c f fs) := by
  intro outer
  exact run?_chain (Pending.continues_empty c) outer hm hms

/-- A group spells a formula with the truth value of its members combined. -/
theorem spells_join {c : Connective} {ms : List Fragment} {fs : List Formula}
    {tokens : List Token} (hms : List.Forall₂ Writes ms fs) (h : join c ms = some tokens) :
    ∃ g, Token.Spells tokens g ∧
      ∀ truth, g.eval truth = c.combine (fs.map (Formula.eval truth)) := by
  cases hms with
  | nil => simp [join] at h
  | @cons m f ms fs hm hms =>
    refine ⟨Formula.combine c f fs, ?_, fun truth => Formula.eval_combine truth c f fs⟩
    cases hms with
    | nil =>
      have htokens : m.tokens = tokens := by simpa [join] using h
      rw [← htokens]
      exact hm.alone
    | cons hm' hms =>
      have htokens := Option.some.inj h
      rw [← htokens]
      exact spells_chain hm (.cons hm' hms)

end Fragment

/-! ## Checks -/

example (a b c : List Piece) :
    Formula.read? [.atom a, .connective .or, .atom b, .connective .and, .atom c] =
      some (.compound .or (.atom a) (.compound .and (.atom b) (.atom c))) := rfl

example (a b c : List Piece) :
    Formula.read?
        (Token.enclose [.atom a, .connective .or, .atom b] ++ [.connective .and, .atom c]) =
      some (.compound .and (.compound .or (.atom a) (.atom b)) (.atom c)) := rfl

end RelQuery
