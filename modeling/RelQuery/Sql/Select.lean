import RelQuery.Sql.Clause
import RelQuery.Sql.Formula
import RelQuery.Sql.Test

/-!
# Reads and conditions

A read may hold conditions and a condition may hold reads, so the pieces of both
are given here.

* `select` gives a read at a depth, without the closing semicolon.
* `whereFormula` gives the condition of a statement.  The outermost group is
  the implicit conjunction and takes no parentheses.  A test that stands alone
  keeps its field as it is written.
* `fragment` gives a condition inside a group, where fields become columns.
* `test` gives a comparison.  A read on the right side is one level deeper.

Schemas are asked for in the order in which models are met.
-/

namespace RelQuery

/-- Where a condition stands. -/
structure Scope where
  /-- What compiling depends on. -/
  context : Context
  /-- The target of the statement. -/
  target : Target
  /-- The alias of the target, if the statement declares one. -/
  qualifier : Option String
  /-- How many queries stand around. -/
  depth : Nat

namespace Sql

mutual

/-- A read at a depth. -/
def select (ctx : Context) (depth : Nat) : Query → Lookups (List Piece)
  | ⟨kind, model, fields, conditions, joins, _, _, limit, offset, order, _⟩ => do
    Lookups.ofExcept (ctx.checkDepth depth)
    let target ← ctx.target kind model
    let joined ← Lookups.ofExcept (Clause.joins ctx (depth + 1) joins)
    let filter ← whereOptional ⟨ctx, target, some target.model.name, depth⟩ conditions
    return .text "SELECT " :: Clause.fields fields ++ .text " FROM " :: Clause.source target.model
      ++ joined.flatMap (fun clause => .text " " :: clause)
      ++ Clause.after filter
      ++ Clause.after (Clause.order target order)
      ++ Clause.after (Clause.limit limit offset)

/-- The clause of a condition that may be absent. -/
def whereOptional (scope : Scope) : Option Condition → Lookups (Option (List Piece))
  | none => return none
  | some c => do
    let formula ← whereFormula scope c
    return formula.map fun tokens => .text "WHERE " :: Token.piecesOf tokens

/-- The formula of the condition of a statement, if it says anything. -/
def whereFormula (scope : Scope) : Condition → Lookups (Option (List Token))
  | .raw sql => return (Fragment.ofRaw? sql).map Fragment.tokens
  | .leaf field op value => do
    return some [.atom (← test scope [.text field] field op value)]
  | .group _ [.leaf field op value] => do
    return some [.atom (← test scope [.text field] field op value)]
  | .group connective members => do
    return Fragment.join connective (← fragments scope members)

/-- A condition inside a group, if it says anything. -/
def fragment (scope : Scope) : Condition → Lookups (Option Fragment)
  | .raw sql => return Fragment.ofRaw? sql
  | .leaf field op value => do
    let column := scope.target.column scope.qualifier field
    return some ⟨[.atom (← test scope column field op value)], false⟩
  | .group connective members => do
    return (Fragment.join connective (← fragments scope members)).map fun tokens =>
      ⟨Token.enclose tokens, false⟩

/-- The members of a group that say something. -/
def fragments (scope : Scope) : List Condition → Lookups (List Fragment)
  | [] => return []
  | c :: cs => do
    let first ← fragment scope c
    let rest ← fragments scope cs
    return first.toList ++ rest

/-- A comparison of a column with a value. -/
def test (scope : Scope) (column : List Piece) (field : String) (op : Operator) :
    Value → Lookups (List Piece)
  | .query q =>
    match op with
    | .eq => do return Target.membership column "IN" (← select scope.context (scope.depth + 1) q)
    | .ne => do
      return Target.membership column "NOT IN" (← select scope.context (scope.depth + 1) q)
    | op => .fail (.operatorOnQuery op field)
  | value => .ofExcept (scope.target.test column field op value)

end

end Sql

end RelQuery
