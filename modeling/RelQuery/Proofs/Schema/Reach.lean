import RelQuery.Proofs.Schema.Binding
import RelQuery.Proofs.Schema.Frame
import RelQuery.Proofs.Sql.Layout
import RelQuery.Proofs.Sql.Subquery

/-!
# What binding reaches

Binding puts the table of a definition behind every model that a query names barely,
and a statement writes the tables of certain models.  These are two walks over one
query, and here they are compared.

* Binding takes other models to the places that `Query.mapModels` takes them to
  (`bind_eq_mapModels`), and a statement writes just these, so every table that comes
  from the query itself, its joins and its condition is that of a bound model.
* A delete without a condition is guarded by the value that its payload gives to the
  primary key, and binding does not look into payloads.  Where that value is a read,
  its tables are written as the query names them (`Query.Unbound`).

An update is guarded in the same way, but it writes its payload first and no read can
be written there.  So a statement is on the tables of the registry exactly when it is
not such a delete (`bind_reaches_iff`).
-/

namespace RelQuery

/-! ## Parts of a bound query -/

namespace Registry

variable (registry : Registry)

theorem kind_bind (q : Query) : (registry.bind q).kind = q.kind := by
  rw [bind_eq_mapModels, Query.kind_mapModels]

theorem isUnconditional_bind (q : Query) :
    (registry.bind q).isUnconditional = q.isUnconditional := by
  rw [bind_eq_mapModels, Query.isUnconditional, Query.conditions_mapModels,
    Condition.all_isBlank_mapOptional, Query.isUnconditional]

theorem keyValue?_bind (q : Query) (model : Entity) :
    (registry.bind q).keyValue? model = q.keyValue? model := by
  rw [bind_eq_mapModels, Query.keyValue?, Query.payload_mapModels, Query.keyValue?]

/-! ## Bound tables -/

/-- Whether a model is written under its name and on the table of its definition, the
latter if it is named barely and registered. -/
def Reaches (model written : Entity) : Prop :=
  written.name = model.name ∧ (model.source = model.name →
    ∀ definition, registry.entity? model.name = some definition →
      written.source = definition.source)

/-- Whether a model is named barely and registered with a table of another name. -/
def Moves (model : Entity) : Prop :=
  model.source = model.name ∧
    ∃ definition, registry.entity? model.name = some definition ∧ definition.source ≠ model.name

theorem name_of_entity? {name : String} {definition : Entity}
    (h : registry.entity? name = some definition) : definition.name = name := by
  obtain ⟨_, -, rfl⟩ := Option.map_eq_some_iff.mp h
  rfl

/-- Binding puts a model on the table of its definition. -/
theorem reaches_bindEntity (model : Entity) :
    registry.Reaches model (registry.bindEntity model) := by
  rw [bindEntity]
  split
  · cases hdefinition : registry.entity? model.name with
    | none => exact ⟨rfl, fun _ _ h => by cases hdefinition.symm.trans h⟩
    | some definition =>
      refine ⟨registry.name_of_entity? hdefinition, fun _ other h => ?_⟩
      rw [Option.getD_some, Option.some.inj (hdefinition.symm.trans h)]
  · next hbare => exact ⟨rfl, fun h => absurd h hbare⟩

theorem forall₂_reaches_map (models : List Entity) :
    List.Forall₂ registry.Reaches models (models.map registry.bindEntity) :=
  List.forall₂_map_right_iff.mpr
    (List.forall₂_same.mpr fun model _ => registry.reaches_bindEntity model)

/-- Models that are written as they are named are on the tables of their definitions,
except those that the registry moves. -/
theorem forall₂_reaches_self_iff (models : List Entity) :
    List.Forall₂ registry.Reaches models models ↔ ¬∃ model ∈ models, registry.Moves model := by
  rw [List.forall₂_same]
  constructor
  · rintro h ⟨model, hmodel, hbare, definition, hdefinition, hne⟩
    exact hne (((h model hmodel).2 hbare definition hdefinition).symm.trans hbare)
  · intro h model hmodel
    refine ⟨rfl, fun hbare definition hdefinition => ?_⟩
    by_contra hne
    exact h ⟨model, hmodel, hbare, definition, hdefinition, fun heq => hne (hbare.trans heq.symm)⟩

end Registry

namespace Query

/-- The models of the value that the payload gives to the primary key of a model. -/
def keyModels (q : Query) (model : Entity) : List Entity :=
  ((q.keyValue? model).map Value.models).getD []

/-- Whether a query is a delete without a condition, and the value of its key is a read
of a model that the registry moves. -/
def Unbound (registry : Registry) (q : Query) : Prop :=
  q.kind = .delete ∧ q.isUnconditional = true ∧ ∃ model, q.model = some model ∧
    ∃ inner ∈ q.keyModels (registry.bindEntity model), registry.Moves inner

end Query

namespace Sql

variable {registry : Registry} {ctx : Context} {g : Generator} {q : Query} {text : String}

/-! ## Layouts of statements -/

/-- Whether a layout is that of the statement of a query, on any tables. -/
def Describes (ctx : Context) (q : Query) (layout : Layout) : Prop :=
  ∀ tables, (statement ctx (q.onTables tables)).outcome = .ok (layout.write tables)

theorem onTables_source (q : Query) : q.onTables Entity.source = q := by
  have hid : Entity.onTable Entity.source = id := rfl
  have hentry : (fun e : String × Value => (e.1, e.2.mapModels id)) = id :=
    funext fun e => congrArg (Prod.mk e.1) (Value.mapModels_id e.2)
  simp only [Query.onTables, hid, Query.mapModels_id, hentry, List.map_id_fun, id, Option.map_id']
  cases q
  rfl

/-- A statement that compiles has a layout with the models that it writes. -/
theorem exists_layout (h : (compile g ctx q).outcome = .ok text) :
    ∃ layout : Layout, Describes ctx q layout ∧ layout.models = q.writtenModels id ∧
      text = g.render (layout.write Entity.source) ++ ";" := by
  obtain ⟨pieces, hpieces, rfl⟩ := outcome_compile_eq_ok_iff.mp h
  rcases lays_statement ctx q with ⟨F, ⟨layout, hmodels, hlayout⟩, hF⟩ | hnone
  · have hdescribes : Describes ctx q layout := fun tables =>
      (hF tables).trans (congrArg Except.ok (hlayout tables))
    have hsource := hdescribes Entity.source
    rw [onTables_source, hpieces] at hsource
    exact ⟨layout, hdescribes, hmodels, by rw [Except.ok.inj hsource]⟩
  · exact absurd ((congrArg (fun q => (statement ctx q).outcome) (onTables_source q)).trans hpieces)
      (hnone Entity.source pieces)

/-! ## The models that are written -/

theorem keyModels_bind (registry : Registry) (q : Query) (model : Entity) :
    (registry.bind q).keyModels model = q.keyModels model := by
  rw [Query.keyModels, registry.keyValue?_bind, Query.keyModels]

/-- The guard of a write has the models of its key or those of its condition. -/
theorem optionalModels_guardOf (q : Query) (model : Entity) :
    Condition.optionalModels (guardOf q model) =
      if q.isUnconditional then q.keyModels model
      else Condition.optionalModels q.conditions := by
  rw [guardOf_eq]
  split
  · rw [Query.keyModels]
    cases q.keyValue? model <;> rfl
  · rfl

/-- An update that compiles writes a literal into its key, so the key has no models. -/
theorem keyModels_of_compile {model : Entity} (hkind : q.kind = .update)
    (hmodel : q.model = some model) (h : (compile g ctx q).outcome = .ok text) :
    q.keyModels model = [] := by
  obtain ⟨t, head, -, ht, hhead, -⟩ := of_compile_write (.inl hkind) h
  obtain rfl : t.model = model := Option.some.inj ((target_eq_ok_iff.mp ht).1.symm.trans hmodel)
  rw [Query.keyModels]
  cases hvalue : q.keyValue? t.model with
  | none => rfl
  | some value =>
    obtain ⟨literal, -, -, hliteral, -⟩ := exists_opening_eq hkind hvalue hhead
    have hscalar := isScalar_of_scalarLiteral hliteral
    cases value with
    | query _ => cases hscalar
    | _ => rfl

/-- The models of the guard of a bound write are on the tables of the registry if they
come from the condition.  Those of the key are as the query names them. -/
theorem reaches_guard_iff {model : Entity} (hkind : q.kind = .update ∨ q.kind = .delete)
    (hmodel : q.model = some model) (h : (compile g ctx (registry.bind q)).outcome = .ok text) :
    List.Forall₂ registry.Reaches
      (Condition.optionalModels (guardOf q (registry.bindEntity model)))
      (Condition.optionalModels (guardOf (registry.bind q) (registry.bindEntity model))) ↔
        ¬q.Unbound registry := by
  rw [optionalModels_guardOf, optionalModels_guardOf, registry.isUnconditional_bind,
    keyModels_bind]
  cases hcondition : q.isUnconditional with
  | false =>
    have hmodels : Condition.optionalModels (registry.bind q).conditions =
        (Condition.optionalModels q.conditions).map registry.bindEntity := by
      rw [registry.bind_eq_mapModels, Query.conditions_mapModels,
        Condition.optionalModels_mapOptional]
    refine iff_of_true ?_ fun hunbound => ?_
    · rw [hmodels]
      exact registry.forall₂_reaches_map _
    · exact absurd hunbound.2.1 (by rw [hcondition]; decide)
  | true =>
    refine (registry.forall₂_reaches_self_iff (q.keyModels _)).trans (not_congr ?_)
    constructor
    · rintro ⟨inner, hinner, hmoves⟩
      rcases hkind with hkind | hkind
      · have hbound : (registry.bind q).model = some (registry.bindEntity model) := by
          rw [registry.bind_model, hmodel, Option.map_some]
        have hnone := keyModels_of_compile ((registry.kind_bind q).trans hkind) hbound h
        rw [keyModels_bind] at hnone
        exact absurd hinner (by rw [hnone]; exact List.not_mem_nil)
      · exact ⟨hkind, hcondition, model, hmodel, inner, hinner, hmoves⟩
    · rintro ⟨-, -, other, hother, hmoved⟩
      obtain rfl : model = other := Option.some.inj (hmodel.symm.trans hother)
      exact hmoved

/-- A write that compiles is on the tables of the registry, unless its key is the values
of a read. -/
theorem reaches_write_iff {model : Entity} (hkind : q.kind = .update ∨ q.kind = .delete)
    (hmodel : q.model = some model) (h : (compile g ctx (registry.bind q)).outcome = .ok text) :
    List.Forall₂ registry.Reaches (q.writtenModels registry.bindEntity)
      ((registry.bind q).writtenModels id) ↔ ¬q.Unbound registry := by
  have hbound : (registry.bind q).model = some (registry.bindEntity model) := by
    rw [registry.bind_model, hmodel, Option.map_some]
  have hmodels : q.writtenModels registry.bindEntity =
      model :: Condition.optionalModels (guardOf q (registry.bindEntity model)) := by
    rcases hkind with hkind | hkind <;> simp only [Query.writtenModels, hkind, hmodel]
  have hwritten : (registry.bind q).writtenModels id = registry.bindEntity model ::
      Condition.optionalModels (guardOf (registry.bind q) (registry.bindEntity model)) := by
    rcases hkind with hkind | hkind <;>
      simp only [Query.writtenModels, registry.kind_bind, hkind, hbound, id]
  rw [hmodels, hwritten, List.forall₂_cons, and_iff_right (registry.reaches_bindEntity model)]
  exact reaches_guard_iff hkind hmodel h

theorem writtenModels_of_none {bound : Entity → Entity} (hkind : q.kind ≠ .read)
    (hmodel : q.model = none) : q.writtenModels bound = [] := by
  cases h : q.kind with
  | read => exact absurd h hkind
  | _ => simp only [Query.writtenModels, h, hmodel]

theorem reaches_iff (h : (compile g ctx (registry.bind q)).outcome = .ok text) :
    List.Forall₂ registry.Reaches (q.writtenModels registry.bindEntity)
      ((registry.bind q).writtenModels id) ↔ ¬q.Unbound registry := by
  by_cases hread : q.kind = .read
  · refine iff_of_true ?_ fun hunbound => by cases hread.symm.trans hunbound.1
    simp only [Query.writtenModels, registry.kind_bind, hread]
    rw [registry.bind_eq_mapModels, Query.models_mapModels]
    exact registry.forall₂_reaches_map q.models
  have hbound := registry.bind_model q
  cases hmodel : q.model with
  | none =>
    rw [hmodel, Option.map_none] at hbound
    rw [writtenModels_of_none hread hmodel,
      writtenModels_of_none (by rwa [registry.kind_bind]) hbound]
    refine iff_of_true .nil ?_
    rintro ⟨-, -, model, hsome, -⟩
    cases hmodel.symm.trans hsome
  | some model =>
    cases hkind : q.kind with
    | read => exact absurd hkind hread
    | create =>
      refine iff_of_true ?_ fun hunbound => by cases hkind.symm.trans hunbound.1
      rw [hmodel, Option.map_some] at hbound
      simp only [Query.writtenModels, registry.kind_bind, hkind, hbound, hmodel]
      exact registry.forall₂_reaches_map [model]
    | update => exact reaches_write_iff (.inl hkind) hmodel h
    | delete => exact reaches_write_iff (.inr hkind) hmodel h

/-- A statement that is compiled from a bound query is on the tables that the registry
gives to the models of the query, except for the deletes whose key is a read of a model
that the registry moves. -/
theorem bind_reaches_iff (h : (compile g ctx (registry.bind q)).outcome = .ok text) :
    ∃ layout : Layout, Describes ctx (registry.bind q) layout ∧
      text = g.render (layout.write Entity.source) ++ ";" ∧
      (List.Forall₂ registry.Reaches (q.writtenModels registry.bindEntity) layout.models ↔
        ¬q.Unbound registry) := by
  obtain ⟨layout, hdescribes, hmodels, htext⟩ := exists_layout h
  exact ⟨layout, hdescribes, htext, by rw [hmodels]; exact reaches_iff h⟩

/-- A registry of posts and of their taggings, both on tables with names of their own. -/
def taggingRegistry : Registry :=
  ⟨[("Post", { source := some "posts" }), ("Tagging", { source := some "taggings" })]⟩

/-- What a statement on the tagged posts has behind its keywords, by the table of taggings. -/
def taggedText (table : String) : String :=
  "\"posts\" AS \"Post\" WHERE id IN (SELECT post_id FROM " ++ table ++ " AS \"Tagging\");"

/-- A read of taggings, which are named barely. -/
def taggings : Query where
  model := some ⟨"Tagging", "Tagging", "id"⟩
  fields := ["post_id"]

/-- A read of posts with a read of taggings in its condition. -/
def taggedPosts : Query where
  model := some ⟨"Post", "Post", "id"⟩
  conditions := some (.leaf "id" .eq (.query taggings))

theorem bind_reaches_iff_taggedPosts :
    (compile Dialect.ansi.generator postContext (taggingRegistry.bind taggedPosts)).outcome =
      .ok ("SELECT * FROM " ++ taggedText "\"taggings\"") ∧
    ∃ layout : Layout, Describes postContext (taggingRegistry.bind taggedPosts) layout ∧
      List.Forall₂ taggingRegistry.Reaches
        (taggedPosts.writtenModels taggingRegistry.bindEntity) layout.models := by
  have h : (compile Dialect.ansi.generator postContext (taggingRegistry.bind taggedPosts)).outcome =
      .ok ("SELECT * FROM " ++ taggedText "\"taggings\"") := rfl
  obtain ⟨layout, hdescribes, -, hreaches⟩ := bind_reaches_iff h
  exact ⟨h, layout, hdescribes, hreaches.mpr fun hunbound => by cases hunbound.1⟩

/-- A delete of posts, where a read of taggings is the value of the key. -/
def deleteTagged : Query where
  kind := .delete
  model := some ⟨"Post", "Post", "id"⟩
  payload := some [("id", .query taggings)]

/-- The delete reads taggings from a table that is not theirs. -/
theorem not_reaches_deleteTagged :
    (compile Dialect.ansi.generator postContext (taggingRegistry.bind deleteTagged)).outcome =
      .ok ("DELETE FROM " ++ taggedText "\"Tagging\"") ∧
    ¬∃ layout : Layout, Describes postContext (taggingRegistry.bind deleteTagged) layout ∧
      List.Forall₂ taggingRegistry.Reaches
        (deleteTagged.writtenModels taggingRegistry.bindEntity) layout.models := by
  refine ⟨rfl, ?_⟩
  rintro ⟨layout, hdescribes, hreaches⟩
  have hmodels : deleteTagged.writtenModels taggingRegistry.bindEntity =
      [⟨"Post", "Post", "id"⟩, ⟨"Tagging", "Tagging", "id"⟩] := by decide
  rw [hmodels] at hreaches
  obtain ⟨post, _, -, hreaches, heq⟩ := List.forall₂_cons_left_iff.mp hreaches
  obtain ⟨tagging, _, ⟨-, hsource⟩, -, rfl⟩ := List.forall₂_cons_left_iff.mp hreaches
  have htable : tagging.source = "taggings" := hsource rfl ⟨"Tagging", "taggings", "id"⟩ rfl
  have hmem : tagging ∈ layout.models := by simp [heq]
  have hpiece : Piece.identifier "taggings" ∈ layout.write Entity.source := by
    refine Layout.mem_write hmem ?_
    rw [htable]
    decide
  have hwritten := hdescribes Entity.source
  generalize layout.write Entity.source = pieces at hpiece hwritten
  cases hwritten
  exact absurd hpiece (by decide +kernel)

end Sql

end RelQuery
