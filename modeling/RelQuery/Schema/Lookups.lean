import RelQuery.Schema.Basic

/-!
# Computations that ask for schemas

Compiling a query asks for the schemas of the models it meets, and which models
it meets may depend on the answers.  A `Lookups` is such a computation when the
answers are given: its outcome, and the models it asked for on the way, in
order.  A caller that keeps the answers learns from the second part what to
keep, also when the outcome is an error.
-/

namespace RelQuery

/-- An outcome and the models whose schemas were asked for before it. -/
structure Lookups (α : Type) where
  /-- The models, in order. -/
  asked : List String
  /-- The result or the failure. -/
  outcome : Except Error α

namespace Lookups

variable {α β : Type}

/-- A result that asks for nothing. -/
def ofExcept (outcome : Except Error α) : Lookups α := ⟨[], outcome⟩

/-- A failure. -/
def fail (e : Error) : Lookups α := ⟨[], .error e⟩

/-- The schema of a model by the given answers. -/
def schemaOf (schemas : String → Except Error Schema) (model : String) : Lookups Schema :=
  ⟨[model], schemas model⟩

/-- One computation and then the next.  A failure ends it. -/
def andThen (x : Lookups α) (f : α → Lookups β) : Lookups β :=
  match x.outcome with
  | .ok a => ⟨x.asked ++ (f a).asked, (f a).outcome⟩
  | .error e => ⟨x.asked, .error e⟩

instance : Monad Lookups where
  pure a := ⟨[], .ok a⟩
  bind := andThen

instance : LawfulMonad Lookups := by
  refine LawfulMonad.mk' Lookups ?_ ?_ ?_
  · intro α x
    show Lookups.andThen x _ = x
    obtain ⟨asked, outcome⟩ := x
    cases outcome with
    | error e => rfl
    | ok a => exact congrArg (Lookups.mk · (.ok a)) (List.append_nil asked)
  · intro α β a f
    rfl
  · intro α β γ x f g
    show Lookups.andThen (Lookups.andThen x f) g =
      Lookups.andThen x fun a => Lookups.andThen (f a) g
    obtain ⟨asked, outcome⟩ := x
    cases outcome with
    | error e => rfl
    | ok a =>
      simp only [Lookups.andThen]
      cases (f a).outcome with
      | error e => rfl
      | ok b => simp only [List.append_assoc]

/-! ## Outcomes -/

@[simp] theorem outcome_pure (a : α) : (pure a : Lookups α).outcome = .ok a := rfl

@[simp] theorem asked_pure (a : α) : (pure a : Lookups α).asked = [] := rfl

@[simp] theorem outcome_ofExcept (x : Except Error α) : (ofExcept x).outcome = x := rfl

@[simp] theorem outcome_fail (e : Error) : (fail e : Lookups α).outcome = .error e := rfl

@[simp] theorem outcome_schemaOf (schemas : String → Except Error Schema) (model : String) :
    (schemaOf schemas model).outcome = schemas model := rfl

/-- The outcome of two computations is that of the second after the first. -/
@[simp] theorem outcome_bind (x : Lookups α) (f : α → Lookups β) :
    (x >>= f).outcome = x.outcome >>= fun a => (f a).outcome := by
  show (andThen x f).outcome = _
  cases h : x.outcome <;> simp [andThen, h, bind, Except.bind]

/-- Two computations ask for what the first asks for, and after a result also for what
the second does. -/
theorem asked_bind_of_ok {x : Lookups α} {a : α} (h : x.outcome = .ok a) (f : α → Lookups β) :
    (x >>= f).asked = x.asked ++ (f a).asked := by
  show (andThen x f).asked = _
  simp only [andThen, h]

/-- A mapped computation asks for the same. -/
@[simp] theorem asked_map (f : α → β) (x : Lookups α) : (f <$> x).asked = x.asked := by
  show (andThen x fun a => pure (f a)).asked = _
  cases h : x.outcome with
  | error e => simp only [andThen, h]
  | ok a => simp only [andThen, h, asked_pure, List.append_nil]

/-- The outcome of a mapped computation. -/
@[simp] theorem outcome_map (f : α → β) (x : Lookups α) : (f <$> x).outcome = f <$> x.outcome := by
  show (andThen x fun a => pure (f a)).outcome = _
  cases h : x.outcome with
  | error e => simp only [andThen, h]; rfl
  | ok a => simp only [andThen, h]; rfl

end Lookups

end RelQuery
