import RelQuery.Proofs.Outcome
import RelQuery.Query.Document

/-!
# The parts of a document

A query document is read from the outline of a text or, inside a condition, from
a value that has been read as a whole.  A `Document` is either.  Both readers go
through the entries of an object, or the items of an array, and put one part
after another into a query.  Here they are brought into one form.

* `Document.parts` lists the parts that a document names, each with what it
  gives for the part.
* `Query.Filled` relates a query, the parts that are put into it and the query
  they make.  No part stands twice, so the order does not matter.

A document that is read fills the empty query with its parts (`Document.filled`).
Hence every part of its query has the contents that are read for it, or its
default where it is not named (`Document.content_of_lookup`).
-/

namespace RelQuery

open Json (Outline)

namespace Query

/-! ## Contents -/

/-- The part that contents are for. -/
def Content.part : Content → Part
  | .kind _ => .kind
  | .model _ => .model
  | .fields _ => .fields
  | .conditions _ => .conditions
  | .joins _ => .joins
  | .constraint _ => .constraint
  | .joinKind _ => .joinKind
  | .limit _ => .limit
  | .offset _ => .offset
  | .order _ => .order
  | .payload _ => .payload

/-- The contents of a part. -/
def content (q : Query) : Part → Content
  | .kind => .kind q.kind
  | .model => .model q.model
  | .fields => .fields q.fields
  | .conditions => .conditions q.conditions
  | .joins => .joins q.joins
  | .constraint => .constraint q.constraint
  | .joinKind => .joinKind q.joinKind
  | .limit => .limit q.limit
  | .offset => .offset q.offset
  | .order => .order q.order
  | .payload => .payload q.payload

/-- Putting in a part sets its contents. -/
theorem content_withContent_part (q : Query) (content : Content) :
    (q.withContent content).content content.part = content := by
  cases content <;> rfl

/-- Putting in a part leaves every other part as it is. -/
theorem content_withContent_of_ne {q : Query} {content : Content} {part : Part}
    (h : content.part ≠ part) : (q.withContent content).content part = q.content part := by
  cases content <;> cases part <;> first | rfl | exact absurd rfl h

/-- What is read for a part are contents of that part. -/
theorem part_of_contentOf {part : Part} {value : Except Fault Json}
    {conditions : Unit → Except Fault (Option Condition)} {joins : Unit → Except Fault (List Query)}
    {payload : Unit → Except Fault (Option (Entries Value))} {content : Content}
    (h : contentOf part value conditions joins payload = .ok content) : content.part = part := by
  cases part with
  | conditions | joins | payload =>
    obtain ⟨_, -, rfl⟩ := map_eq_ok_iff.mp h
    rfl
  | _ =>
    simp only [contentOf, bind_eq_ok_iff] at h
    obtain ⟨_, -, _, -, h⟩ := h
    cases h
    rfl

end Query

/-! ## Documents -/

/-- A query document. -/
inductive Document where
  /-- What can be read of a text. -/
  | outline (d : Outline)
  /-- A value inside a condition, which has been read as a whole. -/
  | value (d : Json)

namespace Document

/-- The document in a text. -/
def ofText (text : String) : Document := outline (Outline.ofText text).1

/-- The query of a document. -/
def query : Document → Except Fault Query
  | outline d => Query.ofOutline d
  | value d => Query.ofJson d

/-- The parts that a document names, each with what it gives for the part. -/
def parts : Document → List (Query.Part × Document)
  | outline (.object entries) =>
    entries.filterMap fun e => (e.1.bind Query.Part.ofKey?).map (·, outline e.2)
  | outline (.array items) => Query.Part.all.zip (items.map outline)
  | value (.object entries) => entries.filterMap fun e => (Query.Part.ofKey? e.1).map (·, value e.2)
  | value (.array items) => Query.Part.all.zip (items.map value)
  | _ => []

/-- The contents of a part by what a document gives for it. -/
def readPart (part : Query.Part) : Document → Except Fault Query.Content
  | outline d =>
    Query.contentOf part (Query.outlineValue part d) (fun _ => Query.outlineCondition d)
      (fun _ => Query.outlineJoins d) (fun _ => Query.outlinePayload d)
  | value d =>
    Query.contentOf part (.ok d) (fun _ => asRule (Condition.ofJson d))
      (fun _ => Query.joinsOf d) (fun _ => Query.payloadOf d)

open Query (Part Content)

variable {q q' : Query} {part : Part} {v : Document} {content : Content}
  {parts : List (Part × Document)}

theorem part_of_readPart (h : v.readPart part = .ok content) : content.part = part := by
  cases v with
  | outline d =>
    rw [readPart] at h
    exact Query.part_of_contentOf h
  | value d =>
    rw [readPart] at h
    exact Query.part_of_contentOf h

/-! ## Filling a query -/

/-- Whether the parts, each read and put in one after another, make the second
query from the first. -/
inductive Filled : Query → List (Part × Document) → Query → Prop where
  /-- Without parts the query stays as it is. -/
  | nil {q : Query} : Filled q [] q
  /-- A part is put in, and none after it is the same. -/
  | cons {q q' : Query} {part : Part} {v : Document} {content : Content}
      {parts : List (Part × Document)} (read : v.readPart part = .ok content)
      (fresh : part ∉ parts.map Prod.fst) (rest : Filled (q.withContent content) parts q') :
      Filled q ((part, v) :: parts) q'

namespace Filled

/-- A part that was not seen before is put in. -/
theorem cons_of_not_mem {seen : List Part} (hread : v.readPart part = .ok content)
    (hseen : part ∉ seen)
    (h : Filled (q.withContent content) parts q' ∧ ∀ p ∈ part :: seen, p ∉ parts.map Prod.fst) :
    Filled q ((part, v) :: parts) q' ∧ ∀ p ∈ seen, p ∉ ((part, v) :: parts).map Prod.fst := by
  obtain ⟨hfilled, hfresh⟩ := h
  refine ⟨.cons hread (hfresh part (.head _)) hfilled, fun p hp => ?_⟩
  rw [List.map_cons, List.mem_cons, not_or]
  refine ⟨?_, hfresh p (.tail _ hp)⟩
  rintro rfl
  exact hseen hp

/-- A part that is due is put in, and not a second time. -/
theorem cons_of_nodup {due : List Part} {vs : List Document} (hdue : (part :: due).Nodup)
    (hread : v.readPart part = .ok content)
    (h : Filled (q.withContent content) (due.zip vs) q') :
    Filled q ((part :: due).zip (v :: vs)) q' := by
  refine .cons hread (fun hmem => (List.nodup_cons.mp hdue).1 ?_) h
  obtain ⟨pair, hpair, heq⟩ := List.mem_map.mp hmem
  rw [← heq]
  exact (List.of_mem_zip hpair).1

/-- A part that is not named stays as it was. -/
theorem content_eq (h : Filled q parts q') (hpart : part ∉ parts.map Prod.fst) :
    q'.content part = q.content part := by
  induction h with
  | nil => rfl
  | cons hread _ _ ih =>
    rw [List.map_cons, List.mem_cons, not_or] at hpart
    rw [ih hpart.2, Query.content_withContent_of_ne]
    rw [part_of_readPart hread]
    exact Ne.symm hpart.1

/-- A part that is named has the contents that are read for it. -/
theorem read_of_mem (h : Filled q parts q') (hmem : (part, v) ∈ parts) :
    v.readPart part = .ok (q'.content part) := by
  induction h with
  | nil => cases hmem
  | cons hread hfresh hrest ih =>
    rcases List.mem_cons.mp hmem with heq | hmem
    · cases heq
      rw [hrest.content_eq hfresh, hread]
      obtain rfl := part_of_readPart hread
      rw [Query.content_withContent_part]
    · exact ih hmem

end Filled

/-! ## Readers fill queries -/

/-- The entries of an object name new parts and fill a query with them. -/
theorem filled_of_ofEntries {entries : List (String × Json)} {seen : List Part}
    (h : Query.ofEntries seen q entries = .ok q') :
    Filled q (value (.object entries)).parts q' ∧
      ∀ part ∈ seen, part ∉ (value (.object entries)).parts.map Prod.fst := by
  induction entries generalizing seen q with
  | nil =>
    rw [Query.ofEntries] at h
    cases h
    exact ⟨.nil, fun _ _ => List.not_mem_nil⟩
  | cons entry entries ih =>
    obtain ⟨key, v⟩ := entry
    rw [Query.ofEntries] at h
    cases hkey : Part.ofKey? key with
    | none =>
      simp only [hkey] at h
      simpa [parts, hkey] using ih h
    | some part =>
      simp only [hkey] at h
      split at h
      next => cases h
      next hseen =>
        obtain ⟨content, hcontent, h⟩ := bind_eq_ok_iff.mp h
        have hparts : (value (.object ((key, v) :: entries))).parts =
            (part, value v) :: (value (.object entries)).parts := by simp [parts, hkey]
        rw [hparts]
        exact Filled.cons_of_not_mem hcontent hseen (ih h)

/-- The entries of an outline name new parts and fill a query with them. -/
theorem filled_of_ofOutlineEntries {entries : List (Option String × Outline)} {seen : List Part}
    (h : Query.ofOutlineEntries seen q entries = .ok q') :
    Filled q (outline (.object entries)).parts q' ∧
      ∀ part ∈ seen, part ∉ (outline (.object entries)).parts.map Prod.fst := by
  induction entries generalizing seen q with
  | nil =>
    rw [Query.ofOutlineEntries] at h
    cases h
    exact ⟨.nil, fun _ _ => List.not_mem_nil⟩
  | cons entry entries ih =>
    obtain ⟨key?, d⟩ := entry
    cases key? with
    | none => cases h
    | some key =>
      rw [Query.ofOutlineEntries] at h
      obtain ⟨_, hkey', h⟩ := bind_eq_ok_iff.mp h
      cases hkey'
      cases hkey : Part.ofKey? key with
      | none =>
        simp only [hkey] at h
        split at h
        next => simpa [parts, hkey] using ih h
        next => cases h
      | some part =>
        simp only [hkey] at h
        split at h
        next => cases h
        next hseen =>
          obtain ⟨content, hcontent, h⟩ := bind_eq_ok_iff.mp h
          have hparts : (outline (.object ((some key, d) :: entries))).parts =
              (part, outline d) :: (outline (.object entries)).parts := by simp [parts, hkey]
          rw [hparts]
          exact Filled.cons_of_not_mem hcontent hseen (ih h)

/-- The items of an array fill a query with the parts that are due. -/
theorem filled_of_ofItems {items : List Json} {due : List Part} (hdue : due.Nodup)
    (h : Query.ofItems due q items = .ok q') :
    Filled q (due.zip (items.map value)) q' := by
  induction items generalizing due q with
  | nil =>
    rw [Query.ofItems] at h
    cases h
    rw [List.map_nil, List.zip_nil_right]
    exact .nil
  | cons v items ih =>
    cases due with
    | nil => cases h
    | cons part due =>
      rw [Query.ofItems] at h
      obtain ⟨content, hcontent, h⟩ := bind_eq_ok_iff.mp h
      exact .cons_of_nodup hdue hcontent (ih hdue.of_cons h)

/-- The items of an outline fill a query with the parts that are due. -/
theorem filled_of_ofOutlineItems {items : List Outline} {due : List Part} (hdue : due.Nodup)
    (h : Query.ofOutlineItems due q items = .ok q') :
    Filled q (due.zip (items.map outline)) q' := by
  induction items generalizing due q with
  | nil =>
    rw [Query.ofOutlineItems] at h
    cases h
    rw [List.map_nil, List.zip_nil_right]
    exact .nil
  | cons d items ih =>
    cases due with
    | nil => cases h
    | cons part due =>
      rw [Query.ofOutlineItems] at h
      obtain ⟨content, hcontent, h⟩ := bind_eq_ok_iff.mp h
      exact .cons_of_nodup hdue hcontent (ih hdue.of_cons h)

/-- A document that is read as a query fills the empty query with its parts. -/
theorem filled {d : Document} (h : d.query = .ok q) : Filled {} d.parts q := by
  have hall : Part.all.Nodup := by decide
  cases d with
  | outline d =>
    cases d with
    | object entries =>
      rw [query, Query.ofOutline] at h
      exact (filled_of_ofOutlineEntries h).1
    | array items =>
      rw [query, Query.ofOutline] at h
      exact filled_of_ofOutlineItems hall h
    | _ => cases h
  | value d =>
    cases d with
    | object entries =>
      rw [query, Query.ofJson] at h
      exact (filled_of_ofEntries h).1
    | array items =>
      rw [query, Query.ofJson] at h
      exact filled_of_ofItems hall h
    | _ => cases h

/-- A part has the contents that are read from what the document gives for it, or
its default. -/
theorem content_of_lookup {d : Document} (h : d.query = .ok q) (part : Part) :
    match d.parts.lookup part with
    | some v => readPart part v = .ok (q.content part)
    | none => q.content part = ({} : Query).content part := by
  cases hlookup : d.parts.lookup part with
  | none =>
    refine (filled h).content_eq fun hmem => ?_
    obtain ⟨entry, hentry, heq⟩ := List.mem_map.mp hmem
    have hne := List.lookup_eq_none_iff.mp hlookup entry hentry
    simp [heq] at hne
  | some v =>
    obtain ⟨before, after, heq, -⟩ := List.lookup_eq_some_iff.mp hlookup
    exact (filled h).read_of_mem (heq ▸ List.mem_append_right _ (.head _))

end Document

end RelQuery
