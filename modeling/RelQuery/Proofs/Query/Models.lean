import RelQuery.Query.Basic

/-!
# The models that a query writes

A statement writes a table for the model of its query, for the models of its joins, and
for the models of the reads that its condition compares with (`Query.models`).  What a
join or a list holds beside its model is not written.

`Query.mapModels` puts other models where these stand.  It moves neither the tests of a
condition nor its blanks, so the models that are written are the models that were put
there, in the same order (`Query.models_mapModels`).  Putting models there twice is
putting the second ones there (`Query.mapModels_mapModels`).
-/

namespace RelQuery

/-! ## Models that are written -/

mutual

/-- The models of a join and of its joins, in the order of their clauses. -/
def Query.joinedModels : Query → List Entity
  | ⟨_, model, _, _, joins, _, _, _, _, _, _⟩ => model.toList ++ Query.joinsModels joins

/-- The models of several joins. -/
def Query.joinsModels : List Query → List Entity
  | [] => []
  | q :: qs => q.joinedModels ++ Query.joinsModels qs

end

mutual

/-- The models of a read, of its joins and of the reads in its condition, in the order in
which their tables are written. -/
def Query.models : Query → List Entity
  | ⟨_, model, _, conditions, joins, _, _, _, _, _, _⟩ =>
    model.toList ++ Query.joinsModels joins ++ Condition.optionalModels conditions

/-- The models of the reads in a condition that may be absent. -/
def Condition.optionalModels : Option Condition → List Entity
  | none => []
  | some c => c.models

/-- The models of the reads in a condition. -/
def Condition.models : Condition → List Entity
  | .leaf _ _ value => value.models
  | .group _ members => Condition.allModels members
  | .raw _ => []

/-- The models of the reads in several conditions. -/
def Condition.allModels : List Condition → List Entity
  | [] => []
  | c :: cs => c.models ++ Condition.allModels cs

/-- The models of the value of a test, if it is a query. -/
def Value.models : Value → List Entity
  | .query q => q.models
  | _ => []

end

/-! ## Other models -/

mutual

/-- The query with other models, also in its joins and in the reads that tests compare
with. -/
def Query.mapModels (h : Entity → Entity) : Query → Query
  | ⟨kind, model, fields, conditions, joins, constraint, joinKind, limit, offset, order, payload⟩ =>
    ⟨kind, model.map h, fields, Condition.mapOptional h conditions, Query.mapJoins h joins,
      constraint, joinKind, limit, offset, order, payload⟩

/-- The joins with other models. -/
def Query.mapJoins (h : Entity → Entity) : List Query → List Query
  | [] => []
  | q :: qs => Query.mapModels h q :: Query.mapJoins h qs

/-- The condition with other models, if there is one. -/
def Condition.mapOptional (h : Entity → Entity) : Option Condition → Option Condition
  | none => none
  | some c => some (Condition.mapModels h c)

/-- The condition with other models. -/
def Condition.mapModels (h : Entity → Entity) : Condition → Condition
  | .leaf field op value => .leaf field op (Value.mapModels h value)
  | .group connective members => .group connective (Condition.mapMembers h members)
  | .raw sql => .raw sql

/-- The conditions with other models. -/
def Condition.mapMembers (h : Entity → Entity) : List Condition → List Condition
  | [] => []
  | c :: cs => Condition.mapModels h c :: Condition.mapMembers h cs

/-- The value of a test with other models, if it is a query. -/
def Value.mapModels (h : Entity → Entity) : Value → Value
  | .query q => .query (Query.mapModels h q)
  | value => value

end

variable (h : Entity → Entity)

/-! ## Parts of a query with other models -/

namespace Query

@[simp] theorem kind_mapModels (q : Query) : (q.mapModels h).kind = q.kind := by
  cases q
  rfl

@[simp] theorem model_mapModels (q : Query) : (q.mapModels h).model = q.model.map h := by
  cases q
  rfl

@[simp] theorem conditions_mapModels (q : Query) :
    (q.mapModels h).conditions = Condition.mapOptional h q.conditions := by
  cases q
  rfl

@[simp] theorem payload_mapModels (q : Query) : (q.mapModels h).payload = q.payload := by
  cases q
  rfl

end Query

theorem toList_map_models (model : Option Entity) :
    (model.map h).toList = model.toList.map h := by
  cases model <;> rfl

/-! ## What other models leave and move -/

mutual

theorem Query.joinedModels_mapModels : ∀ q : Query,
    (q.mapModels h).joinedModels = q.joinedModels.map h
  | ⟨_, model, _, _, joins, _, _, _, _, _, _⟩ => by
    rw [Query.mapModels, Query.joinedModels, Query.joinedModels, List.map_append,
      Query.joinsModels_mapJoins joins, toList_map_models]

theorem Query.joinsModels_mapJoins : ∀ qs : List Query,
    Query.joinsModels (Query.mapJoins h qs) = (Query.joinsModels qs).map h
  | [] => rfl
  | q :: qs => by
    rw [Query.mapJoins, Query.joinsModels, Query.joinsModels, List.map_append,
      Query.joinedModels_mapModels q, Query.joinsModels_mapJoins qs]

end

mutual

/-- The models that are written are those that were put there. -/
theorem Query.models_mapModels : ∀ q : Query, (q.mapModels h).models = q.models.map h
  | ⟨_, model, _, conditions, joins, _, _, _, _, _, _⟩ => by
    rw [Query.mapModels, Query.models, Query.models, List.map_append, List.map_append,
      Query.joinsModels_mapJoins, toList_map_models,
      Condition.optionalModels_mapOptional conditions]

theorem Condition.optionalModels_mapOptional : ∀ c : Option Condition,
    Condition.optionalModels (Condition.mapOptional h c) = (Condition.optionalModels c).map h
  | none => rfl
  | some c => Condition.models_mapModels c

theorem Condition.models_mapModels : ∀ c : Condition, (c.mapModels h).models = c.models.map h
  | .leaf _ _ value => Value.models_mapModels value
  | .group _ members => Condition.allModels_mapMembers members
  | .raw _ => rfl

theorem Condition.allModels_mapMembers : ∀ cs : List Condition,
    Condition.allModels (Condition.mapMembers h cs) = (Condition.allModels cs).map h
  | [] => rfl
  | c :: cs => by
    rw [Condition.mapMembers, Condition.allModels, Condition.allModels, List.map_append,
      Condition.models_mapModels c, Condition.allModels_mapMembers cs]

theorem Value.models_mapModels : ∀ value : Value, (value.mapModels h).models = value.models.map h
  | .query q => Query.models_mapModels q
  | .null => rfl
  | .bool _ => rfl
  | .int _ => rfl
  | .float _ => rfl
  | .string _ => rfl
  | .list _ => rfl

end

mutual

theorem Condition.isBlank_mapModels : ∀ c : Condition, (c.mapModels h).isBlank = c.isBlank
  | .leaf .. => rfl
  | .group _ members => Condition.allBlank_mapMembers members
  | .raw _ => rfl

theorem Condition.allBlank_mapMembers : ∀ cs : List Condition,
    Condition.allBlank (Condition.mapMembers h cs) = Condition.allBlank cs
  | [] => rfl
  | c :: cs => by
    rw [Condition.mapMembers, Condition.allBlank, Condition.allBlank,
      Condition.isBlank_mapModels c, Condition.allBlank_mapMembers cs]

end

theorem Condition.all_isBlank_mapOptional (c : Option Condition) :
    (Condition.mapOptional h c).all Condition.isBlank = c.all Condition.isBlank := by
  cases c with
  | none => rfl
  | some c => exact c.isBlank_mapModels h

mutual

/-- A query keeps its models where each is put in its own place. -/
theorem Query.mapModels_id : ∀ q : Query, q.mapModels id = q
  | ⟨_, model, _, conditions, joins, _, _, _, _, _, _⟩ => by
    rw [Query.mapModels, Condition.mapOptional_id conditions, Query.mapJoins_id joins,
      Option.map_id, id]

theorem Query.mapJoins_id : ∀ qs : List Query, Query.mapJoins id qs = qs
  | [] => rfl
  | q :: qs => by
    rw [Query.mapJoins, Query.mapModels_id q, Query.mapJoins_id qs]

theorem Condition.mapOptional_id : ∀ c : Option Condition, Condition.mapOptional id c = c
  | none => rfl
  | some c => by
    rw [Condition.mapOptional, Condition.mapModels_id c]

theorem Condition.mapModels_id : ∀ c : Condition, c.mapModels id = c
  | .leaf _ _ value => by
    rw [Condition.mapModels, Value.mapModels_id value]
  | .group _ members => by
    rw [Condition.mapModels, Condition.mapMembers_id members]
  | .raw _ => rfl

theorem Condition.mapMembers_id : ∀ cs : List Condition, Condition.mapMembers id cs = cs
  | [] => rfl
  | c :: cs => by
    rw [Condition.mapMembers, Condition.mapModels_id c, Condition.mapMembers_id cs]

theorem Value.mapModels_id : ∀ value : Value, value.mapModels id = value
  | .query q => by
    rw [Value.mapModels, Query.mapModels_id q]
  | .null => rfl
  | .bool _ => rfl
  | .int _ => rfl
  | .float _ => rfl
  | .string _ => rfl
  | .list _ => rfl

end

mutual

/-- Models that are put one after another are put there at once. -/
theorem Query.mapModels_mapModels (f : Entity → Entity) : ∀ q : Query,
    (q.mapModels h).mapModels f = q.mapModels (f ∘ h)
  | ⟨_, model, _, conditions, joins, _, _, _, _, _, _⟩ => by
    rw [Query.mapModels, Query.mapModels, Query.mapModels, Option.map_map,
      Condition.mapOptional_mapOptional f conditions, Query.mapJoins_mapJoins f joins]

theorem Query.mapJoins_mapJoins (f : Entity → Entity) : ∀ qs : List Query,
    Query.mapJoins f (Query.mapJoins h qs) = Query.mapJoins (f ∘ h) qs
  | [] => rfl
  | q :: qs => by
    rw [Query.mapJoins, Query.mapJoins, Query.mapJoins, Query.mapModels_mapModels f q,
      Query.mapJoins_mapJoins f qs]

theorem Condition.mapOptional_mapOptional (f : Entity → Entity) : ∀ c : Option Condition,
    Condition.mapOptional f (Condition.mapOptional h c) = Condition.mapOptional (f ∘ h) c
  | none => rfl
  | some c => by
    rw [Condition.mapOptional, Condition.mapOptional, Condition.mapOptional,
      Condition.mapModels_mapModels f c]

theorem Condition.mapModels_mapModels (f : Entity → Entity) : ∀ c : Condition,
    (c.mapModels h).mapModels f = c.mapModels (f ∘ h)
  | .leaf _ _ value => by
    rw [Condition.mapModels, Condition.mapModels, Condition.mapModels,
      Value.mapModels_mapModels f value]
  | .group _ members => by
    rw [Condition.mapModels, Condition.mapModels, Condition.mapModels,
      Condition.mapMembers_mapMembers f members]
  | .raw _ => rfl

theorem Condition.mapMembers_mapMembers (f : Entity → Entity) : ∀ cs : List Condition,
    Condition.mapMembers f (Condition.mapMembers h cs) = Condition.mapMembers (f ∘ h) cs
  | [] => rfl
  | c :: cs => by
    rw [Condition.mapMembers, Condition.mapMembers, Condition.mapMembers,
      Condition.mapModels_mapModels f c, Condition.mapMembers_mapMembers f cs]

theorem Value.mapModels_mapModels (f : Entity → Entity) : ∀ value : Value,
    (value.mapModels h).mapModels f = value.mapModels (f ∘ h)
  | .query q => by
    rw [Value.mapModels, Value.mapModels, Value.mapModels, Query.mapModels_mapModels f q]
  | .null => rfl
  | .bool _ => rfl
  | .int _ => rfl
  | .float _ => rfl
  | .string _ => rfl
  | .list _ => rfl

end

end RelQuery
