import Mathlib.Tactic.Choose
import RelQuery.Proofs.Schema.Cache
import RelQuery.Schema.Lookups

/-!
# Dialogues with a cache

A computation that asks for schemas gives its outcome and its look-ups once all
answers are given.  A *dialogue* is the same computation a step at a time: it ends,
or it asks for one schema and goes on with the answer.

* `Dialogue.answered` takes all answers from one source.
* `Dialogue.run` asks a cache, each time as the cache stands by then, and a failure
  ends it.

A look-up changes no answer of the cache, so both give the same outcome
(`Dialogue.run_eq`).  A computation is *stepwise* when it is a dialogue
whose answers are all given (`Stepwise`).
-/

namespace RelQuery

variable {α β : Type}

/-! ## Dialogues -/

/-- A computation that asks for one schema after another. -/
inductive Dialogue (α : Type) where
  /-- It ends. -/
  | done (outcome : Except Error α)
  /-- It asks for the schema of a model and goes on with it. -/
  | ask (model : String) (next : Schema → Dialogue α)

namespace Dialogue

/-- The computation by the given answers. -/
def answered (schemas : String → Except Error Schema) : Dialogue α → Lookups α
  | done outcome => .ofExcept outcome
  | ask model next => do
    let schema ← Lookups.schemaOf schemas model
    (next schema).answered schemas

/-- The computation with a cache, and the cache after it.  Every look-up may change
the cache, and the next one is made in the changed cache. -/
def run (resolver : Resolver) (cache : SchemaCache) : Dialogue α → Except Error α × SchemaCache
  | done outcome => (outcome, cache)
  | ask model next =>
    match cache.lookUp resolver model with
    | (.ok entry, cache) => (next entry.schema).run resolver cache
    | (.error e, cache) => (.error e, cache)

/-- One dialogue and then the next. -/
def andThen (f : α → Dialogue β) : Dialogue α → Dialogue β
  | done (.ok a) => f a
  | done (.error e) => done (.error e)
  | ask model next => ask model fun schema => (next schema).andThen f

theorem answered_andThen (schemas : String → Except Error Schema) (d : Dialogue α)
    (f : α → Dialogue β) :
    (d.andThen f).answered schemas =
      d.answered schemas >>= fun a => (f a).answered schemas := by
  induction d with
  | done outcome => cases outcome <;> rfl
  | ask model next ih => simp only [andThen, answered, ih, bind_assoc]

/-- What is looked up changes the cache and no answer, so the answers may as well be
taken from the cache as it stands before. -/
theorem run_eq (resolver : Resolver) (cache : SchemaCache) (d : Dialogue α) :
    d.run resolver cache =
      ((d.answered (cache.schemaFor resolver)).outcome,
        cache.lookUpAll resolver (d.answered (cache.schemaFor resolver)).asked) := by
  induction d generalizing cache with
  | done outcome => rfl
  | ask model next ih =>
    have hsame : (cache.lookUp resolver model).2.schemaFor resolver = cache.schemaFor resolver :=
      SchemaCache.schemaFor_lookUp
    have hanswer : cache.schemaFor resolver model =
        (cache.lookUp resolver model).1.map CachedSchema.schema := rfl
    have hanswered : (ask model next).answered (cache.schemaFor resolver) =
        Lookups.andThen (.schemaOf (cache.schemaFor resolver) model)
          fun schema => (next schema).answered (cache.schemaFor resolver) := rfl
    rw [hanswered, Lookups.andThen, Lookups.outcome_schemaOf, hanswer, run]
    cases hlookUp : cache.lookUp resolver model with
    | mk outcome after =>
      rw [hlookUp] at hsame
      cases outcome with
      | error e => simp [Except.map, SchemaCache.lookUpAll, Lookups.schemaOf, hlookUp]
      | ok entry => simp [Except.map, SchemaCache.lookUpAll, Lookups.schemaOf, hlookUp, ih, hsame]

end Dialogue

/-! ## Stepwise computations -/

/-- Whether a computation asks for one schema after another and depends on nothing
but the answers. -/
def Stepwise (x : (String → Except Error Schema) → Lookups α) : Prop :=
  ∃ d : Dialogue α, ∀ schemas, x schemas = d.answered schemas

namespace Stepwise

variable {x : (String → Except Error Schema) → Lookups α}
  {f : α → (String → Except Error Schema) → Lookups β}

theorem ofExcept (outcome : Except Error α) : Stepwise fun _ => .ofExcept outcome :=
  ⟨.done outcome, fun _ => rfl⟩

theorem pure (a : α) : Stepwise fun _ => (Pure.pure a : Lookups α) := ofExcept (.ok a)

theorem schemaOf (model : String) : Stepwise fun schemas => .schemaOf schemas model :=
  ⟨.ask model fun schema => .done (.ok schema), fun _ => (bind_pure _).symm⟩

theorem bind (hx : Stepwise x) (hf : ∀ a, Stepwise (f a)) :
    Stepwise fun schemas => x schemas >>= fun a => f a schemas := by
  obtain ⟨d, hd⟩ := hx
  choose rest hrest using hf
  refine ⟨d.andThen rest, fun schemas => ?_⟩
  simp only [Dialogue.answered_andThen, hd, hrest]

end Stepwise

end RelQuery
