import RelQuery.Proofs.Query.Inner
import RelQuery.Proofs.Query.Parts

/-!
# Places of queries

A query holds other queries: its joins, and the queries of its condition.  A
*place* leads from a query to one of them, step by step.  The same place leads
through a query document, from the document to the part that is read as that
query (`Document.exists_at?`).

One step of that is `Document.describes`: the model of a query, its joins and
the queries in its condition are read, one by one, from what the document gives
for them.
-/

namespace RelQuery

open Json (Outline)

/-! ## Documents inside documents -/

namespace Document

/-- The JSON value that a document is, if it has no fault. -/
def json? : Document → Option Json
  | outline d => d.json?
  | value d => some d

/-- The JSON value of a document as a condition, its embedded texts read. -/
def settled? : Document → Option Json
  | outline d => d.settled?
  | value d => some d

/-- The items of a document that is an array. -/
def items : Document → List Document
  | outline (.array items) => items.map outline
  | value (.array items) => items.map value
  | _ => []

/-- What a document gives for the model. -/
def model? (d : Document) : Option Json := (d.parts.lookup .model).bind json?

/-- The documents of the joins. -/
def joins (d : Document) : List Document := (d.parts.lookup .joins).elim [] items

/-- The documents of the queries in the condition. -/
def tested (d : Document) : List Document :=
  (((d.parts.lookup .conditions).bind settled?).elim [] (Json.queries .condition)).map value

end Document

/-- The queries in the condition of a query, each with whether a test compares
with it directly. -/
def Query.tested (q : Query) : List (Bool × Query) := Condition.allQueries q.conditions.toList

/-! ## What documents describe -/

/-- Whether a document gives the model of a query, the documents of its joins and
those of the queries in its condition. -/
structure Document.Describes (d : Document) (q : Query) : Prop where
  /-- The model is read from what the document gives for it. -/
  model : d.model?.elim (some none) (·.optional? Entity.ofJson?) = some q.model
  /-- The joins are read one by one. -/
  joins : List.Forall₂ (fun d q => d.query = .ok q) d.joins q.joins
  /-- The queries in the condition are read one by one. -/
  tested : List.Forall₂ (fun d inner => d.query = .ok inner.2) d.tested q.tested

theorem readable_eq_ok_iff {α : Type} {x : Option α} {a : α} :
    readable x = .ok a ↔ x = some a := by
  cases x <;> simp [readable]

theorem asRule_eq_ok_iff {α : Type} {x : Except Error α} {a : α} :
    asRule x = .ok a ↔ x = .ok a := by
  cases x <;> simp [asRule]

namespace Query

/-- The queries of an array are read one by one. -/
theorem forall₂_of_listOfItems {items : List Json} {qs : List Query}
    (h : listOfItems items = .ok qs) :
    List.Forall₂ (fun d q => ofJson d = .ok q) items qs := by
  induction items generalizing qs with
  | nil =>
    cases h
    exact .nil
  | cons item items ih =>
    rw [listOfItems, bind_eq_ok_iff] at h
    obtain ⟨q, hq, h⟩ := h
    obtain ⟨qs, hqs, h⟩ := bind_eq_ok_iff.mp h
    cases h
    exact .cons hq (ih hqs)

theorem forall₂_of_listOfOutlines {items : List Outline} {qs : List Query}
    (h : listOfOutlines items = .ok qs) :
    List.Forall₂ (fun d q => ofOutline d = .ok q) items qs := by
  induction items generalizing qs with
  | nil =>
    cases h
    exact .nil
  | cons item items ih =>
    rw [listOfOutlines, bind_eq_ok_iff] at h
    obtain ⟨q, hq, h⟩ := h
    obtain ⟨qs, hqs, h⟩ := bind_eq_ok_iff.mp h
    cases h
    exact .cons hq (ih hqs)

end Query

namespace Document

variable {q : Query} {d : Document}

/-- The model is read from the JSON value that is given for it. -/
theorem json?_of_readPart_model {m : Option Entity} (h : d.readPart .model = .ok (.model m)) :
    ∃ v, d.json? = some v ∧ v.optional? Entity.ofJson? = some m := by
  cases d with
  | outline d =>
    simp only [readPart, Query.contentOf, bind_eq_ok_iff, readable_eq_ok_iff] at h
    obtain ⟨v, hv, m', hm, h⟩ := h
    cases h
    exact ⟨v, readable_eq_ok_iff.mp hv, hm⟩
  | value d =>
    simp only [readPart, Query.contentOf, bind_eq_ok_iff, readable_eq_ok_iff] at h
    obtain ⟨v, hv, m', hm, h⟩ := h
    cases hv
    cases h
    exact ⟨d, rfl, hm⟩

/-- The joins are read from the items that are given for them. -/
theorem forall₂_of_readPart_joins {qs : List Query} (h : d.readPart .joins = .ok (.joins qs)) :
    List.Forall₂ (fun d q => d.query = .ok q) d.items qs := by
  cases d with
  | outline d =>
    obtain ⟨qs', hqs, h⟩ := map_eq_ok_iff.mp h
    cases h
    cases d with
    | array items =>
      rw [Query.outlineJoins] at hqs
      exact List.forall₂_map_left_iff.mpr (Query.forall₂_of_listOfOutlines hqs)
    | _ => cases hqs
  | value d =>
    obtain ⟨qs', hqs, h⟩ := map_eq_ok_iff.mp h
    cases h
    cases d with
    | array items =>
      rw [Query.joinsOf] at hqs
      exact List.forall₂_map_left_iff.mpr (Query.forall₂_of_listOfItems hqs)
    | _ => cases hqs

/-- The condition is read from the JSON value that is given for it. -/
theorem settled?_of_readPart_conditions {c : Option Condition}
    (h : d.readPart .conditions = .ok (.conditions c)) :
    ∃ v, d.settled? = some v ∧ Condition.ofJson v = .ok c := by
  cases d with
  | outline d =>
    obtain ⟨c', hc, h⟩ := map_eq_ok_iff.mp h
    cases h
    obtain ⟨v, hv, hc⟩ := bind_eq_ok_iff.mp hc
    exact ⟨v, readable_eq_ok_iff.mp hv, asRule_eq_ok_iff.mp hc⟩
  | value d =>
    obtain ⟨c', hc, h⟩ := map_eq_ok_iff.mp h
    cases h
    exact ⟨d, rfl, asRule_eq_ok_iff.mp hc⟩

/-- A document that is read as a query describes it. -/
theorem describes (h : d.query = .ok q) : d.Describes q := by
  constructor
  · have hmodel := content_of_lookup h .model
    rw [model?]
    cases hlookup : d.parts.lookup .model with
    | none =>
      rw [hlookup] at hmodel
      exact congrArg some (Query.Content.model.inj hmodel).symm
    | some v =>
      rw [hlookup] at hmodel
      obtain ⟨json, hjson, hm⟩ := json?_of_readPart_model hmodel
      rw [Option.bind_some, hjson]
      exact hm
  · have hjoins := content_of_lookup h .joins
    rw [joins]
    cases hlookup : d.parts.lookup .joins with
    | none =>
      rw [hlookup] at hjoins
      rw [Query.Content.joins.inj hjoins]
      exact .nil
    | some v =>
      rw [hlookup] at hjoins
      exact forall₂_of_readPart_joins hjoins
  · have hconditions := content_of_lookup h .conditions
    rw [tested, Query.tested, List.forall₂_map_left_iff]
    cases hlookup : d.parts.lookup .conditions with
    | none =>
      rw [hlookup] at hconditions
      rw [Query.Content.conditions.inj hconditions]
      exact .nil
    | some v =>
      rw [hlookup] at hconditions
      obtain ⟨json, hjson, hc⟩ := settled?_of_readPart_conditions hconditions
      rw [Option.bind_some, hjson]
      exact reads_of_condition hc

end Document

/-! ## Places -/

/-- A step from a query to a query inside it. -/
inductive Query.Step where
  /-- To a join. -/
  | join (i : Nat)
  /-- To a query in the condition. -/
  | test (i : Nat)

/-- The steps from a query to a query inside it. -/
abbrev Query.Place := List Query.Step

/-- The query at a place, with whether every test on the way compares with a
query directly. -/
def Query.at? : Place → Query → Option (Bool × Query)
  | [], q => some (true, q)
  | .join i :: place, q => do
    let inner ← q.joins[i]?
    inner.at? place
  | .test i :: place, q => do
    let (direct, inner) ← q.tested[i]?
    let (rest, found) ← inner.at? place
    return (direct && rest, found)

/-- The document at a place. -/
def Document.at? : Query.Place → Document → Option Document
  | [], d => some d
  | .join i :: place, d => do
    let inner ← d.joins[i]?
    inner.at? place
  | .test i :: place, d => do
    let inner ← d.tested[i]?
    inner.at? place

/-- Items that are related stand at the same index. -/
theorem exists_getElem?_of_forall₂ {α β : Type} {R : α → β → Prop} {xs : List α} {ys : List β}
    (h : List.Forall₂ R xs ys) {i : Nat} {x : α} (hx : xs[i]? = some x) :
    ∃ y, ys[i]? = some y ∧ R x y := by
  induction h generalizing i with
  | nil => simp at hx
  | cons hxy _ ih =>
    cases i with
    | zero =>
      cases hx
      exact ⟨_, rfl, hxy⟩
    | succ i =>
      rw [List.getElem?_cons_succ] at hx ⊢
      exact ih hx

/-- The document at a place of a document is read as the query at that place. -/
theorem Document.exists_at? {place : Query.Place} {d found : Document} {q : Query}
    (h : d.query = .ok q) (hfound : d.at? place = some found) :
    ∃ direct inner, q.at? place = some (direct, inner) ∧ found.query = .ok inner := by
  induction place generalizing d q with
  | nil =>
    cases hfound
    exact ⟨true, q, rfl, h⟩
  | cons step place ih =>
    cases step with
    | join i =>
      obtain ⟨d', hd', hfound⟩ := Option.bind_eq_some_iff.mp hfound
      obtain ⟨q', hq', hread⟩ := exists_getElem?_of_forall₂ (describes h).joins hd'
      obtain ⟨direct, inner, hinner, hquery⟩ := ih hread hfound
      exact ⟨direct, inner, by rw [Query.at?, hq']; exact hinner, hquery⟩
    | test i =>
      obtain ⟨d', hd', hfound⟩ := Option.bind_eq_some_iff.mp hfound
      obtain ⟨⟨direct, q'⟩, hq', hread⟩ := exists_getElem?_of_forall₂ (describes h).tested hd'
      obtain ⟨rest, inner, hinner, hquery⟩ := ih hread hfound
      refine ⟨direct && rest, inner, ?_, hquery⟩
      rw [Query.at?, hq']
      simp [hinner]

end RelQuery
