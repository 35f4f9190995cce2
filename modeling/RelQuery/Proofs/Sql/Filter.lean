import RelQuery.Proofs.Query.Meaning
import RelQuery.Proofs.Query.Place

/-!
# Filters of documents

A condition that is read from a document is full: all its groups have members and
all its raw texts hold something.  The same is true of the conditions of the
queries inside it, at every place, since each of them is read from a document of
its own (`Document.exists_query_at?`).

The writer leaves out what is blank and nothing else.  So a condition that was read
is never left out: where nothing fails, there is a clause, and its body is a
formula (`clause_of_ofJson`).
-/

namespace RelQuery

open Query (Place)

/-! ## Queries that are read -/

namespace Document

variable {d : Document} {q : Query}

/-- The condition of a query that is read is read from a document. -/
theorem exists_ofJson_of_conditions {c : Condition} (h : d.query = .ok q)
    (hc : q.conditions = some c) : ∃ v, Condition.ofJson v = .ok (some c) := by
  have hread := content_of_lookup h .conditions
  cases hlookup : d.parts.lookup .conditions with
  | none =>
    rw [hlookup] at hread
    have hnone : q.conditions = none := Query.Content.conditions.inj hread
    rw [hc] at hnone
    cases hnone
  | some part =>
    rw [hlookup] at hread
    have hpart : part.readPart .conditions = .ok (.conditions (some c)) := by
      rw [← hc]
      exact hread
    obtain ⟨v, -, hv⟩ := settled?_of_readPart_conditions hpart
    exact ⟨v, hv⟩

/-- Every query at a place of a query that is read is read from a document. -/
theorem exists_query_at? {place : Place} {direct : Bool} {inner : Query} (h : d.query = .ok q)
    (hat : q.at? place = some (direct, inner)) : ∃ d' : Document, d'.query = .ok inner := by
  induction place generalizing d q direct with
  | nil =>
    cases hat
    exact ⟨d, h⟩
  | cons step place ih =>
    cases step with
    | join i =>
      obtain ⟨q', hq', hat⟩ := Option.bind_eq_some_iff.mp hat
      obtain ⟨d', -, hd'⟩ := exists_getElem?_of_forall₂ (describes h).joins.flip hq'
      exact ih hd' hat
    | test i =>
      obtain ⟨⟨b, q'⟩, hq', hat⟩ := Option.bind_eq_some_iff.mp hat
      obtain ⟨⟨rest, found⟩, hrest, hfound⟩ := Option.bind_eq_some_iff.mp hat
      cases hfound
      obtain ⟨d', -, hd'⟩ := exists_getElem?_of_forall₂ (describes h).tested.flip hq'
      exact ih hd' hrest

end Document

/-- A condition that is read is the condition of a query that is read. -/
theorem Document.query_conditions {d : Json} {c : Option Condition}
    (h : Condition.ofJson d = .ok c) :
    (Document.value (.object [("conditions", d)])).query = .ok { conditions := c } := by
  have hkey : Query.Part.ofKey? "conditions" = some .conditions := by decide +kernel
  simp [Document.query, Query.ofJson, Query.ofEntries, hkey, Query.contentOf, h, asRule, Except.map,
    Query.withContent, bind, Except.bind]

/-! ## Conditions that are written -/

namespace Sql

/-- Whether every statement with a condition fails or has a clause for it, the body
of which is the text of a formula. -/
def HasClause (c : Condition) : Prop :=
  ∀ (g : Generator) (scope : Scope),
    (∃ e, (g.whereOptional scope (some c)).outcome = .error e) ∨
      ∃ tokens f, (g.whereOptional scope (some c)).outcome =
          .ok (some ("WHERE " ++ g.render (Token.piecesOf tokens))) ∧
        Formula.read? tokens = some f

theorem hasClause_of_isFull {c : Condition} (h : c.IsFull) : HasClause c := by
  intro g scope
  have hblank := whereFormula_eq_none_iff scope c
  rw [Condition.isBlank_of_isFull h] at hblank
  rw [Generator.outcome_whereOptional_some]
  cases hformula : (whereFormula scope c).outcome with
  | error e => exact .inl ⟨e, rfl⟩
  | ok formula =>
    cases formula with
    | none => simp [hformula] at hblank
    | some tokens =>
      obtain ⟨f, hspells, -⟩ := whereFormula_spells scope hformula
      exact .inr ⟨tokens, f, rfl, hspells.read?⟩

/-- A condition that is read from a document is full and is never left out of a
statement.  Nor is the condition of any query inside it. -/
theorem clause_of_ofJson {d : Json} {c : Condition} (h : Condition.ofJson d = .ok (some c)) :
    (c.IsFull ∧ HasClause c) ∧
    ∀ (place : Place) (direct : Bool) (inner : Query) (c' : Condition),
      ({ conditions := some c } : Query).at? place = some (direct, inner) →
      inner.conditions = some c' → c'.IsFull ∧ HasClause c' := by
  have hread : ∀ {v : Json} {c' : Condition}, Condition.ofJson v = .ok (some c') →
      c'.IsFull ∧ HasClause c' := by
    intro v c' hv
    have hfull := (reading_of_condition hv).full c' (by simp)
    exact ⟨hfull, hasClause_of_isFull hfull⟩
  refine ⟨hread h, fun place direct inner c' hat hc' => ?_⟩
  obtain ⟨d', hd'⟩ := Document.exists_query_at? (Document.query_conditions h) hat
  obtain ⟨v, hv⟩ := Document.exists_ofJson_of_conditions hd' hc'
  exact hread hv

/-- A document with a query in it.  Both have members that say nothing. -/
def authorDocument : Json :=
  .array
    [.null, .string " ",
      .object
        [("or", .object [("a", .object []), ("b", .array [])]),
          ("author", .object [("$query", .object
            [("model", .string "User"), ("conditions", .array [.object [], .string "x = 1"])])])]]

/-- The query in `authorDocument`. -/
def authorQuery : Query where
  model := some ⟨"User", "User", "id"⟩
  conditions := some (.group .and [.raw "x = 1"])

/-- The condition of `authorDocument`. -/
def authorCondition : Condition :=
  .group .and
    [.group .and [.group .or [.leaf "b" .eq (.list [])], .leaf "author" .eq (.query authorQuery)]]

theorem clause_of_ofJson_authorDocument :
    Condition.ofJson authorDocument = .ok (some authorCondition) ∧
    ({ conditions := some authorCondition } : Query).at? [.test 0] = some (true, authorQuery) ∧
    authorQuery.conditions = some (.group .and [.raw "x = 1"]) ∧
    (authorCondition.IsFull ∧ HasClause authorCondition) ∧
    (Condition.group .and [.raw "x = 1"]).IsFull ∧
    HasClause (.group .and [.raw "x = 1"]) :=
  have h : Condition.ofJson authorDocument = .ok (some authorCondition) := rfl
  have hat : ({ conditions := some authorCondition } : Query).at? [.test 0] =
      some (true, authorQuery) := rfl
  have hkept := clause_of_ofJson h
  ⟨h, hat, rfl, hkept.1, hkept.2 [.test 0] true authorQuery _ hat rfl⟩

end Sql

end RelQuery
