import RelQuery.Proofs.Outcome
import RelQuery.Schema.Cache

/-!
# What a cache keeps

The second step of a look-up makes the check of the first one again, so a look-up
is a `fill` (`lookUp_eq_fill`), and a fill does one of three things (`fill_cases`).

* It finds the entry and changes nothing.
* It asks, and the answer becomes the last entry.
* It asks, and the failure leaves the entries as they were.

A look-up therefore keeps every entry that there is, and it changes no answer of
the cache, as long as the resolver stays the same (`schemaFor_lookUpAll`).  The
questions that look-ups ask are listed by `questions`.  A model is asked about again
only after failures (`pairwise_questions`).
-/

namespace RelQuery

/-! ## Entries -/

namespace Entries

variable {α : Type} {key : String} {value : α} {entries : Entries α}

theorem find?_eq_none_iff : find? key entries = none ↔ key ∉ keys entries := by
  induction entries with
  | nil => simp [find?, keys]
  | cons e rest ih =>
    obtain ⟨k, v⟩ := e
    by_cases h : k = key
    · simp [find?, keys, h]
    · simp only [find?, if_neg h, ih, keys, List.map_cons, List.mem_cons]
      simp [Ne.symm h]

theorem mem_of_find? (h : find? key entries = some value) : (key, value) ∈ entries := by
  induction entries with
  | nil => cases h
  | cons e rest ih =>
    obtain ⟨k, v⟩ := e
    by_cases hk : k = key
    · simp only [find?, if_pos hk, Option.some.injEq] at h
      simp [hk, h]
    · simp only [find?, if_neg hk] at h
      exact .tail _ (ih h)

/-- A new key is put at the end. -/
theorem put_eq_append (h : find? key entries = none) :
    put key value entries = entries ++ [(key, value)] := by
  induction entries with
  | nil => rfl
  | cons e rest ih =>
    obtain ⟨k, v⟩ := e
    by_cases hk : k = key
    · simp [find?, hk] at h
    · simp only [find?, if_neg hk] at h
      simp [put, hk, ih h]

end Entries

namespace SchemaCache

variable {resolver : Resolver} {cache : SchemaCache} {model : String}

/-! ## The steps of a look-up -/

theorem fill_of_found {entry : CachedSchema} (h : cache.find? model = some entry) :
    cache.fill resolver model = (.ok entry, cache) := by
  simp [fill, h]

theorem fill_of_resolved {schema : Schema} (h : cache.find? model = none)
    (hschema : Schema.resolve resolver model = .ok schema) :
    cache.fill resolver model =
      (.ok ⟨schema, cache.asked⟩,
        ⟨cache.entries ++ [(model, ⟨schema, cache.asked⟩)], cache.asked + 1⟩) := by
  simp [fill, h, hschema, Entries.put_eq_append h]

theorem fill_of_failed {e : Error} (h : cache.find? model = none)
    (he : Schema.resolve resolver model = .error e) :
    cache.fill resolver model = (.error e, { cache with asked := cache.asked + 1 }) := by
  simp [fill, h, he]

/-- A fill finds an entry, or it asks and keeps the answer, or it asks in vain. -/
theorem fill_cases (resolver : Resolver) (cache : SchemaCache) (model : String) :
    (∃ entry, cache.find? model = some entry ∧
      cache.fill resolver model = (.ok entry, cache)) ∨
    (∃ schema, cache.find? model = none ∧ Schema.resolve resolver model = .ok schema ∧
      cache.fill resolver model =
        (.ok ⟨schema, cache.asked⟩,
          ⟨cache.entries ++ [(model, ⟨schema, cache.asked⟩)], cache.asked + 1⟩)) ∨
    (∃ e, cache.find? model = none ∧ Schema.resolve resolver model = .error e ∧
      cache.fill resolver model = (.error e, { cache with asked := cache.asked + 1 })) := by
  cases hfind : cache.find? model with
  | some entry => exact .inl ⟨entry, rfl, fill_of_found hfind⟩
  | none =>
    cases hresolve : Schema.resolve resolver model with
    | ok schema => exact .inr (.inl ⟨schema, rfl, rfl, fill_of_resolved hfind hresolve⟩)
    | error e => exact .inr (.inr ⟨e, rfl, rfl, fill_of_failed hfind hresolve⟩)

/-- Looking first and filling on a miss is filling. -/
theorem lookUp_eq_fill : cache.lookUp resolver model = cache.fill resolver model := by
  cases hfind : cache.find? model with
  | some entry => rw [fill_of_found hfind, lookUp, hfind]
  | none => rw [lookUp, hfind]

/-! ## Entries and answers after look-ups -/

theorem find?_append (entry : CachedSchema) (asked : Nat) (other : String) :
    find? ⟨cache.entries ++ [(model, entry)], asked⟩ other =
      (cache.find? other).or (if model = other then some entry else none) := by
  rw [find?, Entries.find?_append]
  rfl

/-- A look-up keeps the entries that there are. -/
theorem find?_lookUp_of_eq_some {other : String} {entry : CachedSchema}
    (h : cache.find? other = some entry) :
    (cache.lookUp resolver model).2.find? other = some entry := by
  rw [lookUp_eq_fill]
  rcases fill_cases resolver cache model with
    ⟨found, -, hfill⟩ | ⟨schema, -, -, hfill⟩ | ⟨e, -, -, hfill⟩
  · rw [hfill, h]
  · rw [hfill, find?_append, h, Option.some_or]
  · rw [hfill]
    exact h

/-- An answer of the cache is that of the entry, or else that of the resolver. -/
theorem schemaFor_eq (resolver : Resolver) (cache : SchemaCache) (model : String) :
    cache.schemaFor resolver model =
      match cache.find? model with
      | some entry => .ok entry.schema
      | none => Schema.resolve resolver model := by
  rw [schemaFor, lookUp_eq_fill]
  rcases fill_cases resolver cache model with
    ⟨entry, hfind, hfill⟩ | ⟨schema, hfind, hresolve, hfill⟩ | ⟨e, hfind, hresolve, hfill⟩
  · rw [hfill, hfind]
    rfl
  · rw [hfill, hfind, hresolve]
    rfl
  · rw [hfill, hfind, hresolve]
    rfl

/-- A look-up changes no answer. -/
theorem schemaFor_lookUp : (cache.lookUp resolver model).2.schemaFor resolver =
    cache.schemaFor resolver := by
  funext other
  rw [lookUp_eq_fill]
  rcases fill_cases resolver cache model with
    ⟨entry, -, hfill⟩ | ⟨schema, hfind, hresolve, hfill⟩ | ⟨e, -, -, hfill⟩
  · rw [hfill]
  · rw [hfill, schemaFor_eq, schemaFor_eq, find?_append]
    cases hother : cache.find? other with
    | some entry => rw [Option.some_or]
    | none =>
      by_cases heq : model = other
      · subst heq
        simp [hresolve]
      · simp [heq]
  · rw [hfill, schemaFor_eq, schemaFor_eq]
    rfl

/-- Look-ups change no answer. -/
theorem schemaFor_lookUpAll (models : List String) :
    (cache.lookUpAll resolver models).schemaFor resolver = cache.schemaFor resolver := by
  induction models generalizing cache with
  | nil => rfl
  | cons model models ih => rw [lookUpAll, ih, schemaFor_lookUp]

/-- Look-ups keep the entries that there are. -/
theorem find?_lookUpAll_of_eq_some {other : String} {entry : CachedSchema} (models : List String)
    (h : cache.find? other = some entry) :
    (cache.lookUpAll resolver models).find? other = some entry := by
  induction models generalizing cache with
  | nil => exact h
  | cons model models ih => exact ih (find?_lookUp_of_eq_some h)

/-- A look-up that answers leaves an entry with the answer. -/
theorem exists_find?_lookUp {schema : Schema} (h : cache.schemaFor resolver model = .ok schema) :
    ∃ entry, (cache.lookUp resolver model).2.find? model = some entry ∧ entry.schema = schema := by
  rw [schemaFor, lookUp_eq_fill] at h
  rw [lookUp_eq_fill]
  rcases fill_cases resolver cache model with
    ⟨entry, hfind, hfill⟩ | ⟨found, hfind, -, hfill⟩ | ⟨e, -, -, hfill⟩
  · rw [hfill] at h ⊢
    exact ⟨entry, hfind, Except.ok.inj h⟩
  · rw [hfill] at h ⊢
    refine ⟨⟨found, cache.asked⟩, ?_, Except.ok.inj h⟩
    rw [find?_append, hfind, Option.none_or, if_pos rfl]
  · rw [hfill] at h
    cases h

/-- Every model that is looked up and has a schema has an entry with it afterwards. -/
theorem exists_find?_lookUpAll {models : List String} {schema : Schema}
    (hmem : model ∈ models) (h : cache.schemaFor resolver model = .ok schema) :
    ∃ entry, (cache.lookUpAll resolver models).find? model = some entry ∧
      entry.schema = schema := by
  induction models generalizing cache with
  | nil => cases hmem
  | cons first models ih =>
    rcases List.mem_cons.mp hmem with rfl | hmem
    · obtain ⟨entry, hfind, hschema⟩ := exists_find?_lookUp h
      exact ⟨entry, find?_lookUpAll_of_eq_some models hfind, hschema⟩
    · exact ih hmem (by rw [schemaFor_lookUp, h])

/-- A model that has an entry is answered by it, by whatever resolver, and nothing
changes. -/
theorem lookUp_of_eq_some {entry : CachedSchema} (h : cache.find? model = some entry) :
    cache.lookUp resolver model = (.ok entry, cache) := by
  rw [lookUp, h]

/-! ## Questions -/

/-- The questions that look-ups ask the resolver, each a model with the answer.
A question asks for the fields of its model once. -/
def questions (resolver : Resolver) (cache : SchemaCache) :
    List String → List (String × Except Error Schema)
  | [] => []
  | model :: models =>
    let others := questions resolver (cache.lookUp resolver model).2 models
    if (cache.find? model).isSome then others
    else (model, Schema.resolve resolver model) :: others

/-- Whether a question may follow a question: not after an answer about the same
model, but after a failure. -/
def MayFollow (earlier later : String × Except Error Schema) : Prop :=
  earlier.1 = later.1 → ∃ e, earlier.2 = .error e

/-- The cache counts the questions. -/
theorem asked_lookUpAll (models : List String) : (cache.lookUpAll resolver models).asked =
    cache.asked + (cache.questions resolver models).length := by
  induction models generalizing cache with
  | nil => rfl
  | cons model models ih =>
    rw [lookUpAll, ih, questions, lookUp_eq_fill]
    rcases fill_cases resolver cache model with
      ⟨entry, hfind, hfill⟩ | ⟨schema, hfind, hresolve, hfill⟩ | ⟨e, hfind, hresolve, hfill⟩
    · simp [hfill, hfind]
    · simp [hfill, hfind]
      omega
    · simp [hfill, hfind]
      omega

/-- Only models without an entry are asked about. -/
theorem find?_of_mem_questions {models : List String} {question : String × Except Error Schema}
    (h : question ∈ cache.questions resolver models) : cache.find? question.1 = none := by
  induction models generalizing cache with
  | nil => cases h
  | cons model models ih =>
    have hothers : question ∈ (cache.lookUp resolver model).2.questions resolver models →
        cache.find? question.1 = none := by
      intro h
      have hnone := ih h
      cases hfind : cache.find? question.1 with
      | none => rfl
      | some entry =>
        rw [find?_lookUp_of_eq_some hfind] at hnone
        cases hnone
    rw [questions] at h
    split at h
    next => exact hothers h
    next hfind =>
      rcases List.mem_cons.mp h with rfl | h
      · simpa using hfind
      · exact hothers h

/-- A model is asked about again only after failures. -/
theorem pairwise_questions (models : List String) :
    (cache.questions resolver models).Pairwise MayFollow := by
  induction models generalizing cache with
  | nil => exact .nil
  | cons model models ih =>
    rw [questions]
    split
    next => exact ih
    next hfind =>
      refine .cons (fun later hlater hmodel => ?_) ih
      have hnone := find?_of_mem_questions hlater
      rw [← hmodel, lookUp_eq_fill] at hnone
      rcases fill_cases resolver cache model with
        ⟨entry, hfound, -⟩ | ⟨schema, hmissing, -, hfill⟩ | ⟨e, -, hresolve, -⟩
      · simp [hfound] at hfind
      · rw [hfill, find?_append, hmissing] at hnone
        simp at hnone
      · exact ⟨e, hresolve⟩

end SchemaCache

end RelQuery
