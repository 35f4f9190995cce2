import RelQuery.Compiler
import RelQuery.Proofs.Schema.Dialogue
import RelQuery.Proofs.Sql.Steps
import RelQuery.Proofs.Sql.Writer

/-!
# Sessions

A *session* is what one compiler is called for, call after call.  Each call leaves
the schemas that it has asked for in the cache, also when it fails on the way, and
the next call finds them there.

All that a session does to a compiler is that the models it asks for are looked up,
in order (`serve_snd`, `serveAll_snd`).  No look-up changes an answer of the cache,
so every call gets the reply of a compiler that has never been called.  A call makes
many look-ups, and may change the cache by each of them before it makes the next
(`exists_dialogue_of_compile`).
-/

namespace RelQuery

/-- The cache after some look-ups and then others. -/
theorem SchemaCache.lookUpAll_append {resolver : Resolver} (cache : SchemaCache)
    (models others : List String) :
    cache.lookUpAll resolver (models ++ others) =
      (cache.lookUpAll resolver models).lookUpAll resolver others := by
  induction models generalizing cache with
  | nil => rfl
  | cons model models ih => exact ih _

/-! ## Statements ask for schemas step by step -/

namespace Sql

theorem stepLaws_stepwise (limit : Nat) :
    StepLaws (fun schemas => ⟨schemas, limit⟩) (fun _ => 0) fun _ => Stepwise where
  ofExcept := .ofExcept
  bind := .bind
  checkDepth depth :=
    .ofExcept (if limit < 0 + depth then .error (.depthExceeded limit) else .ok ())
  target kind model := by
    cases model with
    | none => exact .ofExcept _
    | some model => exact (Stepwise.schemaOf model.name).bind fun _ => .pure _

/-- Compiling asks for one schema after another and depends on nothing but the
answers. -/
theorem stepwise_compile (g : Generator) (limit : Nat) (q : Query) :
    Stepwise fun schemas => compile g ⟨schemas, limit⟩ q := by
  simp only [compile_eq]
  exact ((stepLaws_stepwise limit).statement q).bind fun _ => .pure _

end Sql

namespace Compiler

/-- What a compiler is called for. -/
inductive Call where
  /-- The text of a statement. -/
  | compile (q : Query)
  /-- The schema of a model. -/
  | schemaFor (model : String)

/-- What a call returns. -/
inductive Reply where
  /-- A text, or why there is none. -/
  | text (outcome : Except Error String)
  /-- A schema, or why there is none. -/
  | schema (outcome : Except Error Schema)

variable {resolver : Resolver} {c : Compiler}

/-! ## Calls -/

/-- One call, with the compiler after it. -/
def serve (resolver : Resolver) (c : Compiler) : Call → Reply × Compiler
  | .compile q => ((c.compile resolver q).map Reply.text id)
  | .schemaFor model => ((c.schemaFor resolver model).map Reply.schema id)

/-- The calls of a session, with the compiler after the last. -/
def serveAll (resolver : Resolver) (c : Compiler) : List Call → List Reply × Compiler
  | [] => ([], c)
  | call :: calls =>
    let (reply, next) := c.serve resolver call
    (serveAll resolver next calls).map (reply :: ·) id

/-- The models that a call asks for, in order. -/
def asked (resolver : Resolver) (c : Compiler) : Call → List String
  | .compile q => (Sql.compile c.generator (c.context resolver) q).asked
  | .schemaFor model => [model]

/-- The models that a session asks for, in order. -/
def askedAll (resolver : Resolver) (c : Compiler) : List Call → List String
  | [] => []
  | call :: calls => c.asked resolver call ++ askedAll resolver (c.serve resolver call).2 calls

/-! ## What calls leave behind -/

/-- A call changes nothing but the cache, and that only by looking up. -/
theorem serve_snd (call : Call) :
    (c.serve resolver call).2 = c.learn resolver (c.asked resolver call) := by
  cases call <;> rfl

theorem learn_learn (models others : List String) :
    (c.learn resolver models).learn resolver others = c.learn resolver (models ++ others) := by
  simp only [learn, SchemaCache.lookUpAll_append]

theorem serveAll_snd (calls : List Call) :
    (c.serveAll resolver calls).2 = c.learn resolver (c.askedAll resolver calls) := by
  induction calls generalizing c with
  | nil => rfl
  | cons call calls ih =>
    show ((c.serve resolver call).2.serveAll resolver calls).2 = _
    rw [ih, askedAll, ← learn_learn, serve_snd]

theorem askedAll_append (calls others : List Call) :
    c.askedAll resolver (calls ++ others) =
      c.askedAll resolver calls ++ (c.serveAll resolver calls).2.askedAll resolver others := by
  induction calls generalizing c with
  | nil => rfl
  | cons call calls ih =>
    rw [List.cons_append, askedAll, ih, askedAll, List.append_assoc]
    rfl

/-- Looking up changes nothing that compiling depends on. -/
theorem context_learn (models : List String) :
    (c.learn resolver models).context resolver = c.context resolver := by
  rw [context, context, learn, SchemaCache.schemaFor_lookUpAll]

/-! ## Replies -/

/-- Looking up changes no reply. -/
theorem serve_learn_fst (models : List String) (call : Call) :
    ((c.learn resolver models).serve resolver call).1 = (c.serve resolver call).1 := by
  cases call with
  | compile q =>
    show Reply.text (Sql.compile c.generator ((c.learn resolver models).context resolver) q).outcome
      = Reply.text (Sql.compile c.generator (c.context resolver) q).outcome
    rw [context_learn]
  | schemaFor model =>
    show Reply.schema (((c.learn resolver models).context resolver).schemas model) =
      Reply.schema ((c.context resolver).schemas model)
    rw [context_learn]

/-- Every call of a session gets the reply that it would get as the first. -/
theorem serveAll_fst (calls : List Call) :
    (c.serveAll resolver calls).1 = calls.map fun call => (c.serve resolver call).1 := by
  induction calls generalizing c with
  | nil => rfl
  | cons call calls ih =>
    have hcons : (c.serveAll resolver (call :: calls)).1 =
        (c.serve resolver call).1 :: ((c.serve resolver call).2.serveAll resolver calls).1 := rfl
    rw [hcons, ih, serve_snd, List.map_cons]
    simp only [serve_learn_fst]

/-- Compiling is a dialogue with the cache, in which every look-up is made in the cache
as the look-ups before it have left it. -/
theorem exists_dialogue_of_compile (g : Generator) (limit : Nat) (q : Query) :
    ∃ d : Dialogue String, ∀ (resolver : Resolver) (cache : SchemaCache),
      (Compiler.mk g limit cache).compile resolver q =
        (d.run resolver cache).map id (Compiler.mk g limit) := by
  obtain ⟨d, hd⟩ := Sql.stepwise_compile g limit q
  refine ⟨d, fun resolver cache => ?_⟩
  rw [Dialogue.run_eq, ← hd]
  rfl

/-- Caching is transparent.  Whatever a compiler has been called for before, and
whether or not these calls failed:

* each of its calls gets the reply of a compiler that has never been called, although
  a call makes each look-up in the cache as it stands by then,
* it asks the resolver about a model again only after failures, and the cache counts
  how often it asks. -/
theorem serveAll_transparent (resolver : Resolver) (g : Generator) (limit : Nat)
    (before calls : List Call) :
    let fresh : Compiler := { generator := g, maxDepth := limit }
    let c := (fresh.serveAll resolver before).2
    let models := fresh.askedAll resolver (before ++ calls)
    let questions := SchemaCache.questions resolver {} models
    (c.serveAll resolver calls).1 = calls.map (fun call => (fresh.serve resolver call).1) ∧
    (∀ q, ∃ d : Dialogue String, ∀ (source : Resolver) (cache : SchemaCache),
      (Compiler.mk g limit cache).compile source q =
        (d.run source cache).map id (Compiler.mk g limit)) ∧
    (c.serveAll resolver calls).2.cache = SchemaCache.lookUpAll resolver {} models ∧
    questions.Pairwise SchemaCache.MayFollow ∧
    (c.serveAll resolver calls).2.cache.asked = questions.length := by
  intro fresh c models questions
  have hc : c = fresh.learn resolver (fresh.askedAll resolver before) := serveAll_snd before
  have hcache : (c.serveAll resolver calls).2.cache =
      SchemaCache.lookUpAll resolver {} models := by
    have hmodels : models =
        fresh.askedAll resolver before ++ c.askedAll resolver calls := askedAll_append before calls
    rw [serveAll_snd, hmodels, SchemaCache.lookUpAll_append, hc]
    rfl
  refine ⟨?_, exists_dialogue_of_compile g limit, hcache,
    SchemaCache.pairwise_questions models, ?_⟩
  · simp only [serveAll_fst, hc, serve_learn_fst]
  · rw [hcache, SchemaCache.asked_lookUpAll]
    exact Nat.zero_add _

end Compiler

end RelQuery
