import RelQuery.Proofs.Sql.Outermost

/-!
# What the writers do step by step

The writers meet what they depend on in two steps only: the check of a depth and the
look-up of a target.  Everything else is a result or a failure at once, or one step
after another.

So take a statement that is written in several contexts and at several depths at the
same time.  A property of such a family of computations that single steps have and
that passes from two steps to their chain (`StepLaws`) holds of whatever is written,
along the recursion of the writers.
-/

namespace RelQuery

/-- The laws by which a property of families of computations passes to what is
written in several contexts, with as many queries around as `above` says. -/
structure StepLaws {ι : Type} (contexts : ι → Context) (above : ι → Nat)
    (holds : (α : Type) → (ι → Lookups α) → Prop) : Prop where
  /-- A result or a failure at once. -/
  ofExcept {α : Type} (outcome : Except Error α) : holds α fun _ => .ofExcept outcome
  /-- One step and then the next. -/
  bind {α β : Type} {x : ι → Lookups α} {f : α → ι → Lookups β} (hx : holds α x)
    (hf : ∀ a, holds β (f a)) : holds β fun i => x i >>= fun a => f a i
  /-- The check of a depth. -/
  checkDepth (depth : Nat) :
    holds Unit fun i => .ofExcept ((contexts i).checkDepth (above i + depth))
  /-- The look-up of a target. -/
  target (kind : Kind) (model : Option Entity) :
    holds Target fun i => (contexts i).target kind model

theorem Lookups.ofExcept_bind {α β : Type} (x : Except Error α) (f : α → Except Error β) :
    ofExcept (x >>= f) = ofExcept x >>= fun a => ofExcept (f a) := by
  cases x <;> rfl

namespace StepLaws

variable {ι : Type} {contexts : ι → Context} {above : ι → Nat}
  {holds : (α : Type) → (ι → Lookups α) → Prop}

theorem pure (laws : StepLaws contexts above holds) {α : Type} (a : α) :
    holds α fun _ => (Pure.pure a : Lookups α) :=
  laws.ofExcept (.ok a)

/-! ## Joins -/

mutual

theorem joined (laws : StepLaws contexts above holds) (depth : Nat) : ∀ q : Query,
    holds _ fun i => .ofExcept (Clause.joined (contexts i) (above i + depth) q)
  | ⟨_, model, _, _, inner, on, kind, _, _, _, _⟩ => by
    simp only [Clause.joined, Lookups.ofExcept_bind]
    refine laws.bind (laws.checkDepth depth) fun _ => ?_
    cases model with
    | none => exact laws.ofExcept _
    | some model =>
      simp only [Lookups.ofExcept_bind]
      exact laws.bind (laws.joins (depth + 1) inner) fun _ => laws.ofExcept _

theorem joins (laws : StepLaws contexts above holds) (depth : Nat) : ∀ qs : List Query,
    holds _ fun i => .ofExcept (Clause.joins (contexts i) (above i + depth) qs)
  | [] => laws.ofExcept _
  | q :: qs => by
    simp only [Clause.joins, Lookups.ofExcept_bind]
    refine laws.bind (laws.joined depth q) fun _ => ?_
    exact laws.bind (laws.joins depth qs) fun _ => laws.ofExcept _

end

/-! ## Conditions and reads -/

open Sql

mutual

theorem select (laws : StepLaws contexts above holds) (depth : Nat) : ∀ q : Query,
    holds _ fun i => Sql.select (contexts i) (above i + depth) q
  | ⟨kind, model, fields, conditions, joins, _, _, _, _, order, _⟩ => by
    simp only [Sql.select]
    refine laws.bind (laws.checkDepth depth) fun _ => ?_
    refine laws.bind (laws.target kind model) fun t => ?_
    refine laws.bind (laws.joins (depth + 1) joins) fun joined => ?_
    refine laws.bind (laws.whereOptional t (some t.model.name) depth conditions) fun _ => ?_
    exact laws.pure _

theorem whereOptional (laws : StepLaws contexts above holds) (t : Target)
    (qualifier : Option String) (depth : Nat) : ∀ c : Option Condition,
    holds _ fun i => Sql.whereOptional ⟨contexts i, t, qualifier, above i + depth⟩ c
  | none => laws.pure none
  | some c => by
    simp only [Sql.whereOptional]
    exact laws.bind (laws.whereFormula t qualifier depth c) fun _ => laws.pure _

theorem whereFormula (laws : StepLaws contexts above holds) (t : Target)
    (qualifier : Option String) (depth : Nat) : ∀ c : Condition,
    holds _ fun i => Sql.whereFormula ⟨contexts i, t, qualifier, above i + depth⟩ c
  | .raw sql => laws.pure _
  | .leaf field op value => by
    simp only [Sql.whereFormula]
    exact laws.bind (laws.test t qualifier depth _ field op value) fun _ => laws.pure _
  | .group connective members => by
    have hmembers := laws.fragments t qualifier depth members
    match members, Condition.outermost connective members with
    | _, .alone field op value =>
      simp only [whereFormula_alone]
      exact laws.whereFormula t qualifier depth (.leaf field op value)
    | members, .joined hjoined =>
      simp only [whereFormula_group _ hjoined]
      exact laws.bind hmembers fun _ => laws.pure _

theorem fragment (laws : StepLaws contexts above holds) (t : Target)
    (qualifier : Option String) (depth : Nat) : ∀ c : Condition,
    holds _ fun i => Sql.fragment ⟨contexts i, t, qualifier, above i + depth⟩ c
  | .raw sql => laws.pure _
  | .leaf field op value => by
    simp only [Sql.fragment]
    exact laws.bind (laws.test t qualifier depth _ field op value) fun _ => laws.pure _
  | .group connective members => by
    simp only [Sql.fragment]
    exact laws.bind (laws.fragments t qualifier depth members) fun _ => laws.pure _

theorem fragments (laws : StepLaws contexts above holds) (t : Target)
    (qualifier : Option String) (depth : Nat) : ∀ cs : List Condition,
    holds _ fun i => Sql.fragments ⟨contexts i, t, qualifier, above i + depth⟩ cs
  | [] => laws.pure _
  | c :: cs => by
    simp only [Sql.fragments]
    refine laws.bind (laws.fragment t qualifier depth c) fun _ => ?_
    exact laws.bind (laws.fragments t qualifier depth cs) fun _ => laws.pure _

/-- The query inside a test stands one level deeper. -/
theorem test (laws : StepLaws contexts above holds) (t : Target) (qualifier : Option String)
    (depth : Nat) (column : List Piece) (field : String) (op : Operator) : ∀ value : Value,
    holds _ fun i =>
      Sql.test ⟨contexts i, t, qualifier, above i + depth⟩ column field op value
  | .query q => by
    cases op with
    | eq | ne =>
      simp only [Sql.test]
      exact laws.bind (laws.select (depth + 1) q) fun _ => laws.pure _
    | _ => exact laws.ofExcept _
  | .null => laws.ofExcept (t.test column field op .null)
  | .bool b => laws.ofExcept (t.test column field op (.bool b))
  | .int n => laws.ofExcept (t.test column field op (.int n))
  | .float x => laws.ofExcept (t.test column field op (.float x))
  | .string s => laws.ofExcept (t.test column field op (.string s))
  | .list items => laws.ofExcept (t.test column field op (.list items))

end

/-! ## Statements -/

theorem statement (laws : StepLaws contexts (fun _ => 0) holds) (q : Query) :
    holds _ fun i => Sql.statement (contexts i) q := by
  rcases q with ⟨_ | _ | _ | _, model, _, conditions, _, _, _, _, _, _, entries⟩
  · exact laws.select 0 _
  · simp only [Sql.statement, Sql.insert]
    refine laws.bind (laws.target _ model) fun t => ?_
    refine laws.bind (laws.ofExcept (payload _ t entries)) fun fields => ?_
    exact laws.bind (laws.ofExcept (writtenLiterals t fields)) fun _ => laws.pure _
  · simp only [Sql.statement, Sql.update]
    refine laws.bind (laws.target _ model) fun t => ?_
    refine laws.bind (laws.ofExcept (payload _ t entries)) fun fields => ?_
    refine laws.bind (laws.ofExcept (writtenLiterals t fields)) fun _ => ?_
    exact laws.bind (laws.whereOptional t none 0 _) fun _ => laws.pure _
  · simp only [Sql.statement, Sql.delete]
    refine laws.bind (laws.target _ model) fun t => ?_
    exact laws.bind (laws.whereOptional t (some t.model.name) 0 _) fun _ => laws.pure _

end StepLaws

end RelQuery
