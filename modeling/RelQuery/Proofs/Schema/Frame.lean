import RelQuery.Proofs.Query.Models
import RelQuery.Proofs.Schema.Cache
import RelQuery.Schema.Registry

/-!
# What binding leaves alone

Two queries may be one but for their models: the joins, the groups and tests of their
conditions and all other parts agree, and only the models differ.  `Query.SameBut R`
says so, where `R` says what may stand in the place of a model.  A payload and the
values in a list are parts like any other, so these agree with the models in them.

Binding is such a change (`bind_eq_mapModels`), and what it puts in the place of a model
is one of two things (`Registry.Binds`).  A model that is named barely and registered
takes its table and key from its definition, and any other model stays.  The definition
may give it the name of the model for a table.  Then the bound model is named barely as
well and is bound again, but the definition is the same, so it stays
(`Registry.Binds.self`).

So a bound query is the one query that differs from the query in just these tables and
keys, and binding it again changes nothing (`bind_sameBut`).
-/

namespace RelQuery

/-! ## Queries that differ in their models -/

mutual

/-- Whether two queries are one but for their models, with `R` between those in the same
place. -/
inductive Query.SameBut (R : Entity → Entity → Prop) : Query → Query → Prop where
  /-- The model, the joins and the condition may differ. -/
  | query {model model' : Option Entity} {conditions conditions' : Option Condition}
      {joins joins' : List Query} (kind : Kind) (fields : List String)
      (constraint : Option String) (joinKind : Option JoinKind) (limit offset : Option UInt32)
      (order : List OrderTerm) (payload : Option (List (String × Value)))
      (hmodel : Option.Rel R model model')
      (hconditions : Condition.OptionalSameBut R conditions conditions')
      (hjoins : Query.JoinsSameBut R joins joins') :
      Query.SameBut R
        ⟨kind, model, fields, conditions, joins, constraint, joinKind, limit, offset, order,
          payload⟩
        ⟨kind, model', fields, conditions', joins', constraint, joinKind, limit, offset, order,
          payload⟩

/-- Whether two lists of joins are one but for their models. -/
inductive Query.JoinsSameBut (R : Entity → Entity → Prop) : List Query → List Query → Prop where
  /-- There are no joins. -/
  | nil : Query.JoinsSameBut R [] []
  /-- The joins agree one by one. -/
  | cons {q q' : Query} {qs qs' : List Query} (h : Query.SameBut R q q')
      (hs : Query.JoinsSameBut R qs qs') : Query.JoinsSameBut R (q :: qs) (q' :: qs')

/-- Whether two conditions that may be absent are one but for their models. -/
inductive Condition.OptionalSameBut (R : Entity → Entity → Prop) :
    Option Condition → Option Condition → Prop where
  /-- There is no condition. -/
  | none : Condition.OptionalSameBut R none none
  /-- The conditions agree. -/
  | some {c c' : Condition} (h : Condition.SameBut R c c') :
      Condition.OptionalSameBut R (some c) (some c')

/-- Whether two conditions are one but for the models of their reads. -/
inductive Condition.SameBut (R : Entity → Entity → Prop) : Condition → Condition → Prop where
  /-- The field and the operator are the same. -/
  | leaf {value value' : Value} (field : String) (op : Operator)
      (h : Value.SameBut R value value') :
      Condition.SameBut R (.leaf field op value) (.leaf field op value')
  /-- The connective is the same. -/
  | group {members members' : List Condition} (connective : Connective)
      (h : Condition.MembersSameBut R members members') :
      Condition.SameBut R (.group connective members) (.group connective members')
  /-- Raw text is the same. -/
  | raw (sql : String) : Condition.SameBut R (.raw sql) (.raw sql)

/-- Whether the members of two groups are one but for the models of their reads. -/
inductive Condition.MembersSameBut (R : Entity → Entity → Prop) :
    List Condition → List Condition → Prop where
  /-- There are no members. -/
  | nil : Condition.MembersSameBut R [] []
  /-- The members agree one by one. -/
  | cons {c c' : Condition} {cs cs' : List Condition} (h : Condition.SameBut R c c')
      (hs : Condition.MembersSameBut R cs cs') :
      Condition.MembersSameBut R (c :: cs) (c' :: cs')

/-- Whether two values of a test are one but for the models of a read. -/
inductive Value.SameBut (R : Entity → Entity → Prop) : Value → Value → Prop where
  /-- Both are reads. -/
  | query {q q' : Query} (h : Query.SameBut R q q') : Value.SameBut R (.query q) (.query q')
  /-- A value that is no read is the same, also where it is a list with reads in it. -/
  | same {value : Value} (h : ∀ q, value ≠ .query q) : Value.SameBut R value value

end

variable {R : Entity → Entity → Prop} {f : Entity → Entity}

theorem Value.mapModels_of_ne_query {value : Value} (h : ∀ q, value ≠ .query q) :
    value.mapModels f = value := by
  cases value with
  | query q => exact absurd rfl (h q)
  | _ => rfl

mutual

/-- A query is the same but for its models as the query with other models. -/
theorem Query.sameBut_mapModels (hR : ∀ model, R model (f model)) : ∀ q : Query,
    Query.SameBut R q (q.mapModels f)
  | ⟨_, model, _, conditions, joins, _, _, _, _, _, _⟩ => by
    rw [Query.mapModels]
    refine .query _ _ _ _ _ _ _ _ ?_ (Condition.optionalSameBut_mapOptional hR conditions)
      (Query.joinsSameBut_mapJoins hR joins)
    cases model with
    | none => exact .none
    | some model => exact .some (hR model)

theorem Query.joinsSameBut_mapJoins (hR : ∀ model, R model (f model)) : ∀ qs : List Query,
    Query.JoinsSameBut R qs (Query.mapJoins f qs)
  | [] => .nil
  | q :: qs => .cons (Query.sameBut_mapModels hR q) (Query.joinsSameBut_mapJoins hR qs)

theorem Condition.optionalSameBut_mapOptional (hR : ∀ model, R model (f model)) :
    ∀ c : Option Condition, Condition.OptionalSameBut R c (Condition.mapOptional f c)
  | none => .none
  | some c => .some (Condition.sameBut_mapModels hR c)

theorem Condition.sameBut_mapModels (hR : ∀ model, R model (f model)) : ∀ c : Condition,
    Condition.SameBut R c (c.mapModels f)
  | .leaf field op value => .leaf field op (Value.sameBut_mapModels hR value)
  | .group connective members =>
    .group connective (Condition.membersSameBut_mapMembers hR members)
  | .raw sql => .raw sql

theorem Condition.membersSameBut_mapMembers (hR : ∀ model, R model (f model)) :
    ∀ cs : List Condition, Condition.MembersSameBut R cs (Condition.mapMembers f cs)
  | [] => .nil
  | c :: cs =>
    .cons (Condition.sameBut_mapModels hR c) (Condition.membersSameBut_mapMembers hR cs)

theorem Value.sameBut_mapModels (hR : ∀ model, R model (f model)) : ∀ value : Value,
    Value.SameBut R value (value.mapModels f)
  | .query q => .query (Query.sameBut_mapModels hR q)
  | .null => .same nofun
  | .bool _ => .same nofun
  | .int _ => .same nofun
  | .float _ => .same nofun
  | .string _ => .same nofun
  | .list _ => .same nofun

end

mutual

/-- Where only one model may stand in the place of each, there is only one such query. -/
theorem Query.SameBut.eq_mapModels (hR : ∀ model model', R model model' → model' = f model) :
    ∀ {q q' : Query}, Query.SameBut R q q' → q' = q.mapModels f
  | _, _, .query _ _ _ _ _ _ _ _ hmodel hconditions hjoins => by
    rw [Query.mapModels, hconditions.eq_mapOptional hR, hjoins.eq_mapJoins hR]
    cases hmodel with
    | none => rfl
    | some h => rw [hR _ _ h, Option.map_some]

theorem Query.JoinsSameBut.eq_mapJoins
    (hR : ∀ model model', R model model' → model' = f model) :
    ∀ {qs qs' : List Query}, Query.JoinsSameBut R qs qs' → qs' = Query.mapJoins f qs
  | _, _, .nil => rfl
  | _, _, .cons h hs => by
    rw [Query.mapJoins, h.eq_mapModels hR, hs.eq_mapJoins hR]

theorem Condition.OptionalSameBut.eq_mapOptional
    (hR : ∀ model model', R model model' → model' = f model) :
    ∀ {c c' : Option Condition}, Condition.OptionalSameBut R c c' →
      c' = Condition.mapOptional f c
  | _, _, .none => rfl
  | _, _, .some h => by
    rw [Condition.mapOptional, h.eq_mapModels hR]

theorem Condition.SameBut.eq_mapModels
    (hR : ∀ model model', R model model' → model' = f model) :
    ∀ {c c' : Condition}, Condition.SameBut R c c' → c' = c.mapModels f
  | _, _, .leaf _ _ h => by
    rw [Condition.mapModels, h.eq_mapModels hR]
  | _, _, .group _ h => by
    rw [Condition.mapModels, h.eq_mapMembers hR]
  | _, _, .raw _ => rfl

theorem Condition.MembersSameBut.eq_mapMembers
    (hR : ∀ model model', R model model' → model' = f model) :
    ∀ {cs cs' : List Condition}, Condition.MembersSameBut R cs cs' →
      cs' = Condition.mapMembers f cs
  | _, _, .nil => rfl
  | _, _, .cons h hs => by
    rw [Condition.mapMembers, h.eq_mapModels hR, hs.eq_mapMembers hR]

theorem Value.SameBut.eq_mapModels (hR : ∀ model model', R model model' → model' = f model) :
    ∀ {value value' : Value}, Value.SameBut R value value' → value' = value.mapModels f
  | _, _, .query h => by
    rw [Value.mapModels, h.eq_mapModels hR]
  | _, _, .same h => (Value.mapModels_of_ne_query h).symm

end

/-- Where one model is determined by the other, so is the query. -/
theorem Query.sameBut_iff (hR : ∀ model model', R model model' ↔ model' = f model)
    {q q' : Query} : Query.SameBut R q q' ↔ q' = q.mapModels f := by
  constructor
  · exact Query.SameBut.eq_mapModels fun model model' => (hR model model').mp
  · rintro rfl
    exact Query.sameBut_mapModels (fun model => (hR model _).mpr rfl) q

/-! ## Binding as a change of models -/

namespace Registry

variable (registry : Registry)

mutual

/-- Binding changes the models of a query and nothing else. -/
theorem bind_eq_mapModels : ∀ q : Query, registry.bind q = q.mapModels registry.bindEntity
  | ⟨_, _, _, conditions, joins, _, _, _, _, _, _⟩ => by
    rw [bind, Query.mapModels, bindOptional_eq_mapOptional conditions, bindJoins_eq_mapJoins joins]

theorem bindJoins_eq_mapJoins : ∀ qs : List Query,
    registry.bindJoins qs = Query.mapJoins registry.bindEntity qs
  | [] => rfl
  | q :: qs => by
    rw [bindJoins, Query.mapJoins, bind_eq_mapModels q, bindJoins_eq_mapJoins qs]

theorem bindOptional_eq_mapOptional : ∀ c : Option Condition,
    registry.bindOptional c = Condition.mapOptional registry.bindEntity c
  | none => rfl
  | some c => by
    rw [bindOptional, Condition.mapOptional, bindCondition_eq_mapModels c]

theorem bindCondition_eq_mapModels : ∀ c : Condition,
    registry.bindCondition c = c.mapModels registry.bindEntity
  | .leaf _ _ value => by
    rw [bindCondition, Condition.mapModels, bindValue_eq_mapModels value]
  | .group _ members => by
    rw [bindCondition, Condition.mapModels, bindMembers_eq_mapMembers members]
  | .raw _ => rfl

theorem bindMembers_eq_mapMembers : ∀ cs : List Condition,
    registry.bindMembers cs = Condition.mapMembers registry.bindEntity cs
  | [] => rfl
  | c :: cs => by
    rw [bindMembers, Condition.mapMembers, bindCondition_eq_mapModels c,
      bindMembers_eq_mapMembers cs]

theorem bindValue_eq_mapModels : ∀ value : Value,
    registry.bindValue value = value.mapModels registry.bindEntity
  | .query q => by
    rw [bindValue, Value.mapModels, bind_eq_mapModels q]
  | .null => rfl
  | .bool _ => rfl
  | .int _ => rfl
  | .float _ => rfl
  | .string _ => rfl
  | .list _ => rfl

end

end Registry

/-! ## Models that are bound -/

/-- Whether one model may stand for another in a bound query. -/
structure Registry.Binds (registry : Registry) (model bound : Entity) : Prop where
  /-- The name stays. -/
  name : bound.name = model.name
  /-- The table and the key stay too, unless the model is named barely and registered. -/
  kept : ¬(model.source = model.name ∧ model.name ∈ Entries.keys registry.models) → bound = model
  /-- In that case they are those of the definition. -/
  taken : model.source = model.name → ∀ definition,
    Entries.find? model.name registry.models = some definition →
      bound.source = definition.source.getD model.name ∧
      bound.key = definition.key.getD Entity.defaultKey

namespace Registry

variable {registry : Registry} {model bound : Entity}

theorem binds_bindEntity (model : Entity) : registry.Binds model (registry.bindEntity model) := by
  rw [bindEntity, entity?]
  by_cases hbare : model.source = model.name
  · rw [if_pos hbare]
    cases hfind : Entries.find? model.name registry.models with
    | none =>
      exact ⟨rfl, fun _ => rfl, fun _ _ h => absurd (hfind.symm.trans h) nofun⟩
    | some definition =>
      have hmem : model.name ∈ Entries.keys registry.models :=
        List.mem_map.mpr ⟨_, Entries.mem_of_find? hfind, rfl⟩
      refine ⟨rfl, fun h => absurd ⟨hbare, hmem⟩ h, fun _ other hother => ?_⟩
      obtain rfl : definition = other := Option.some.inj (hfind.symm.trans hother)
      exact ⟨rfl, rfl⟩
  · rw [if_neg hbare]
    exact ⟨rfl, fun _ => rfl, fun h => absurd h hbare⟩

/-- A model can be bound in one way only. -/
theorem Binds.unique {bound' : Entity} (h : registry.Binds model bound)
    (h' : registry.Binds model bound') : bound' = bound := by
  by_cases hmoves : model.source = model.name ∧ model.name ∈ Entries.keys registry.models
  · obtain ⟨hbare, hmem⟩ := hmoves
    obtain ⟨definition, hfind⟩ := Option.ne_none_iff_exists'.mp
      (fun hnone => Entries.find?_eq_none_iff.mp hnone hmem)
    obtain ⟨hsource, hkey⟩ := h.taken hbare definition hfind
    obtain ⟨hsource', hkey'⟩ := h'.taken hbare definition hfind
    have hname : bound'.name = bound.name := h'.name.trans h.name.symm
    cases bound
    cases bound'
    simp only [Entity.mk.injEq]
    exact ⟨hname, hsource'.trans hsource.symm, hkey'.trans hkey.symm⟩
  · rw [h.kept hmoves, h'.kept hmoves]

theorem binds_iff : registry.Binds model bound ↔ bound = registry.bindEntity model := by
  constructor
  · exact fun h => (binds_bindEntity model).unique h
  · rintro rfl
    exact binds_bindEntity model

/-- A bound model is bound to itself. -/
theorem Binds.self (h : registry.Binds model bound) : registry.Binds bound bound := by
  refine ⟨rfl, fun _ => rfl, fun hbare definition hfind => ?_⟩
  rw [h.name] at hfind ⊢
  by_cases hsource : model.source = model.name
  · exact h.taken hsource definition hfind
  · -- The model was not named barely, so it has stayed and still is not.
    have hsame : bound = model := h.kept fun hmoves => hsource hmoves.1
    rw [hsame] at hbare
    exact absurd hbare hsource

theorem bindEntity_bindEntity (model : Entity) :
    registry.bindEntity (registry.bindEntity model) = registry.bindEntity model :=
  (binds_iff.mp (binds_bindEntity model).self).symm

/-- A definition without a table leaves the bound model with its name for one. -/
example : (⟨[("Post", { key := some "slug" })]⟩ : Registry).bindEntity ⟨"Post", "Post", "id"⟩ =
    ⟨"Post", "Post", "slug"⟩ := by
  decide

end Registry

/-- A query that is bound stays as it is when it is bound again.  It is the query but for
its models, each of which keeps its name, and its table and key too unless it is named
barely and registered, and it is the only one. -/
theorem bind_sameBut (registry : Registry) (q : Query) :
    registry.bind (registry.bind q) = registry.bind q ∧
    ∀ q' : Query, Query.SameBut registry.Binds q q' ↔ q' = registry.bind q := by
  have hbound : registry.bindEntity ∘ registry.bindEntity = registry.bindEntity :=
    funext Registry.bindEntity_bindEntity
  have hone : ∀ model bound, registry.Binds model bound ↔ bound = registry.bindEntity model :=
    fun _ _ => Registry.binds_iff
  simp only [Registry.bind_eq_mapModels]
  constructor
  · rw [Query.mapModels_mapModels, hbound]
  · exact fun q' => Query.sameBut_iff hone

end RelQuery
