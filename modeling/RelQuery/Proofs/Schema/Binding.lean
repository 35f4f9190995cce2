import RelQuery.Compiler
import RelQuery.Proofs.Query.Place
import RelQuery.Schema.Registry

/-!
# Models that are bound

Binding is meant for models that a document gives by their bare names.  It is
carried out on the query, though, where such a model looks like one that is
given its name for a table, explicitly, or only a key.

* Binding a query binds the query at every place that it reaches and leaves the
  queries in lists as they are (`bind_at?`).
* A model that a document gives as an object keeps its table and its key exactly
  when binding does not reach it, its table has another name than the model, or
  the registered table and key are the ones that are given (`bind_keeps_iff`).
* So an explicit key can be replaced, and a delete that is guarded by it then
  removes every row (`exists_bind_not_keeps`).
-/

namespace RelQuery

namespace Registry

open Query (Place)

variable (registry : Registry)

/-! ## Binding at every place -/

theorem bind_model (q : Query) :
    (registry.bind q).model = q.model.map registry.bindEntity := by
  cases q
  rfl

theorem bind_joins (q : Query) : (registry.bind q).joins = registry.bindJoins q.joins := by
  cases q
  rfl

theorem bind_conditions (q : Query) :
    (registry.bind q).conditions = registry.bindOptional q.conditions := by
  cases q
  rfl

theorem bindJoins_eq_map (qs : List Query) : registry.bindJoins qs = qs.map registry.bind := by
  induction qs with
  | nil => rfl
  | cons q qs ih => rw [bindJoins, ih, List.map_cons]

/-- A query in a condition is bound where a test compares with it directly. -/
def bindTested : Bool × Query → Bool × Query
  | (direct, q) => (direct, if direct then registry.bind q else q)

mutual

/-- Binding does not reach the queries in a value that is no query. -/
theorem map_bindTested_queries : ∀ value : Value,
    (value.queries false).map registry.bindTested = value.queries false
  | .query _ => rfl
  | .list items => map_bindTested_listedQueries items
  | .null => rfl
  | .bool _ => rfl
  | .int _ => rfl
  | .float _ => rfl
  | .string _ => rfl

theorem map_bindTested_listedQueries : ∀ items : List Value,
    (Value.listedQueries items).map registry.bindTested = Value.listedQueries items
  | [] => rfl
  | item :: items => by
    rw [Value.listedQueries, List.map_append, map_bindTested_queries item,
      map_bindTested_listedQueries items]

end

theorem queries_bindValue (value : Value) :
    (registry.bindValue value).queries true = (value.queries true).map registry.bindTested := by
  cases value with
  | list items => exact (map_bindTested_listedQueries registry items).symm
  | _ => rfl

mutual

/-- A bound condition has the queries of the condition, bound. -/
theorem queries_bindCondition : ∀ c : Condition,
    (registry.bindCondition c).queries = c.queries.map registry.bindTested
  | .leaf _ _ value => by
    rw [bindCondition, Condition.queries, Condition.queries, queries_bindValue]
  | .group _ members => by
    rw [bindCondition, Condition.queries, Condition.queries, allQueries_bindMembers members]
  | .raw _ => rfl

theorem allQueries_bindMembers : ∀ cs : List Condition,
    Condition.allQueries (registry.bindMembers cs) =
      (Condition.allQueries cs).map registry.bindTested
  | [] => rfl
  | c :: cs => by
    rw [bindMembers, Condition.allQueries, Condition.allQueries, List.map_append,
      queries_bindCondition c, allQueries_bindMembers cs]

end

theorem bind_tested (q : Query) :
    (registry.bind q).tested = q.tested.map registry.bindTested := by
  rw [Query.tested, Query.tested, bind_conditions]
  cases q.conditions with
  | none => rfl
  | some c => exact allQueries_bindMembers registry [c]

/-- At every place of a bound query stands the query of that place, bound if
binding reaches it. -/
theorem bind_at? (place : Place) (q : Query) :
    (registry.bind q).at? place = (q.at? place).map registry.bindTested := by
  induction place generalizing q with
  | nil => rfl
  | cons step place ih =>
    cases step with
    | join i =>
      rw [Query.at?, Query.at?, bind_joins, bindJoins_eq_map, List.getElem?_map]
      cases q.joins[i]? with
      | none => rfl
      | some inner => exact ih inner
    | test i =>
      rw [Query.at?, Query.at?, bind_tested, List.getElem?_map]
      cases q.tested[i]? with
      | none => rfl
      | some inner =>
        obtain ⟨direct, inner⟩ := inner
        cases direct with
        | true =>
          simp only [Option.map_some, Option.bind_eq_bind, Option.bind_some, bindTested, if_true,
            ih]
          cases inner.at? place <;> rfl
        | false =>
          -- The query stands in a list, so nothing on the rest of the way is bound.
          simp only [Option.map_some, Option.bind_eq_bind, Option.bind_some, bindTested,
            Bool.false_eq_true, if_false]
          cases inner.at? place <;> rfl

end Registry

/-! ## Models that keep what is given for them -/

/-- Whether a model has the table and the key that are given, where they are. -/
def Entity.Keeps (model : Entity) (source key : Option String) : Prop :=
  (∀ s, source = some s → model.source = s) ∧ ∀ k, key = some k → model.key = k

/-- A model has what is given for it. -/
theorem Entity.ofParts_keeps (name : String) (source key : Option String) :
    (Entity.ofParts name source key).Keeps source key := by
  constructor
  · rintro s rfl
    rfl
  · rintro k rfl
    rfl

/-- Whether a model that is given a name, and perhaps a table and a key, counts as
given by its bare name while another table or key is registered for it. -/
def Registry.Overrides (registry : Registry) (name : String) (source key : Option String) : Prop :=
  source.getD name = name ∧ ∃ model, registry.entity? name = some model ∧ ¬model.Keeps source key

/-- Binding a model replaces what is given for it exactly when the registry
overrides that. -/
theorem Registry.bindEntity_keeps_iff (registry : Registry) (name : String)
    (source key : Option String) :
    (registry.bindEntity (Entity.ofParts name source key)).Keeps source key ↔
      ¬registry.Overrides name source key := by
  rw [bindEntity, Overrides]
  by_cases hbare : source.getD name = name
  · have hsource : (Entity.ofParts name source key).source =
        (Entity.ofParts name source key).name := hbare
    have hname : (Entity.ofParts name source key).name = name := rfl
    rw [if_pos hsource, hname]
    cases registry.entity? name with
    | none => simp [Entity.ofParts_keeps]
    | some model => simp [hbare]
  · have hsource : (Entity.ofParts name source key).source ≠
        (Entity.ofParts name source key).name := hbare
    rw [if_neg hsource]
    exact ⟨fun _ hover => hbare hover.1, fun _ => Entity.ofParts_keeps name source key⟩

/-- A model that is read from an object has the parts that the object gives. -/
theorem Entity.exists_ofParts_of_ofJson? {entries : List (String × Json)} {model : Entity}
    (h : Entity.ofJson? (.object entries) = some model) :
    ∃ name source key, Json.atMostOnce "name" entries = some (some (.string name)) ∧
      Json.optionalText? "source" entries = some source ∧
      Json.optionalText? "key" entries = some key ∧ model = Entity.ofParts name source key := by
  simp only [Entity.ofJson?, Option.bind_eq_bind, Option.bind_eq_some_iff] at h
  obtain ⟨_, hvalue, name, ⟨value, rfl, hstring⟩, source, hsource, key, hkey, h⟩ := h
  cases h
  cases value with
  | string s =>
    cases hstring
    exact ⟨name, source, key, hvalue, hsource, hkey, rfl⟩
  | _ => cases hstring

/-- The document in a text is read as the query of the text. -/
theorem Document.query_ofText {text : String} {q : Query} (h : Query.ofText text = .ok q) :
    (Document.ofText text).query = .ok q := by
  simp only [Query.ofText] at h
  rw [Document.ofText, Document.query]
  split at h
  next => cases h
  next q' hq =>
    split at h
    next =>
      cases h
      exact hq
    next => cases h

/-- The model of a query is the one that an object gives for it. -/
theorem Document.model_eq_of_model? {d : Document} {q : Query} {entries : List (String × Json)}
    (h : d.query = .ok q) (hmodel : d.model? = some (.object entries)) :
    ∃ model, q.model = some model ∧ Entity.ofJson? (.object entries) = some model := by
  have hread := (describes h).model
  rw [hmodel] at hread
  obtain ⟨model, hofJson, hsome⟩ := Option.map_eq_some_iff.mp hread
  exact ⟨model, hsome.symm, hofJson⟩

/-- A model that a document gives as an object keeps its table and key under
binding exactly when binding does not reach it or the registry does not override
them. -/
theorem bind_keeps_iff {registry : Registry} {text : String} {q : Query} {place : Query.Place}
    {d : Document} {entries : List (String × Json)} (hq : Query.ofText text = .ok q)
    (hplace : (Document.ofText text).at? place = some d)
    (hmodel : d.model? = some (.object entries)) :
    ∃ name source key direct inner model,
      Json.atMostOnce "name" entries = some (some (.string name)) ∧
      Json.optionalText? "source" entries = some source ∧
      Json.optionalText? "key" entries = some key ∧
      (registry.bind q).at? place = some (direct, inner) ∧ inner.model = some model ∧
      (model.Keeps source key ↔ ¬(direct = true ∧ registry.Overrides name source key)) := by
  obtain ⟨direct, found, hfound, hquery⟩ :=
    Document.exists_at? (Document.query_ofText hq) hplace
  obtain ⟨given, hgiven, hread⟩ := Document.model_eq_of_model? hquery hmodel
  obtain ⟨name, source, key, hname, hsource, hkey, rfl⟩ := Entity.exists_ofParts_of_ofJson? hread
  have hbound := registry.bind_at? place q
  rw [hfound, Option.map_some, Registry.bindTested] at hbound
  cases direct with
  | true =>
    refine ⟨name, source, key, true, registry.bind found, _, hname, hsource, hkey, hbound,
      by rw [registry.bind_model, hgiven, Option.map_some], ?_⟩
    rw [registry.bindEntity_keeps_iff]
    simp
  | false =>
    refine ⟨name, source, key, false, found, _, hname, hsource, hkey, hbound, hgiven, ?_⟩
    simp [Entity.ofParts_keeps]

/-- A registry of posts, whose table is `posts` and whose key is `id`. -/
def postRegistry : Registry := ⟨[("Post", { source := some "posts" })]⟩

/-- A text with a join whose condition compares a field with posts.  The posts are
given a key and no table. -/
def joinedPostsText : String :=
  "\x7b\"joins\":[\x7b\"conditions\":\x7b\"a\":\x7b\"$query\":"
    ++ "\x7b\"model\":\x7b\"name\":\"Post\",\"key\":\"slug\"\x7d\x7d\x7d\x7d\x7d]\x7d"

/-- What is read of `joinedPostsText`. -/
def joinedPostsOutline : Json.Outline :=
  .object [(some "joins", .array [.object [(some "conditions", .object [(some "a",
    .object [(some "$query", .object [(some "model",
      .object [(some "name", .string (some "Post")), (some "key", .string (some "slug"))])])])])]])]

/-- The query of `joinedPostsText`. -/
def joinedPosts : Query where
  joins := [{
    conditions := some (.group .and
      [.leaf "a" .eq (.query { model := some ⟨"Post", "Post", "slug"⟩ })]) }]

theorem bind_keeps_iff_joinedPosts :
    ∃ name source key direct inner model,
      Json.atMostOnce "name" [("name", .string "Post"), ("key", .string "slug")] =
        some (some (.string name)) ∧
      Json.optionalText? "source" [("name", .string "Post"), ("key", .string "slug")] =
        some source ∧
      Json.optionalText? "key" [("name", .string "Post"), ("key", .string "slug")] = some key ∧
      (postRegistry.bind joinedPosts).at? [.join 0, .test 0] = some (direct, inner) ∧
      inner.model = some model ∧
      (model.Keeps source key ↔ ¬(direct = true ∧ postRegistry.Overrides name source key)) := by
  have hread : Json.Outline.ofText joinedPostsText = (joinedPostsOutline, true) := by cbv
  have hq : Query.ofText joinedPostsText = .ok joinedPosts := by
    rw [Query.ofText, hread]
    rfl
  have hplace : (Document.ofText joinedPostsText).at? [.join 0, .test 0] =
      some (.value (.object
        [("model", .object [("name", .string "Post"), ("key", .string "slug")])])) := by
    rw [Document.ofText, hread]
    rfl
  exact bind_keeps_iff hq hplace rfl

/-- A text that deletes a post by a key of its own. -/
def slugDeleteText : String :=
  "\x7b\"type\":\"delete\","
    ++ "\"model\":\x7b\"name\":\"Post\",\"source\":\"Post\",\"key\":\"slug\"\x7d,"
    ++ "\"data\":\x7b\"slug\":\"x\"\x7d\x7d"

/-- What is read of `slugDeleteText`. -/
def slugDeleteOutline : Json.Outline :=
  .object [(some "type", .string (some "delete")),
    (some "model", .object [(some "name", .string (some "Post")),
      (some "source", .string (some "Post")), (some "key", .string (some "slug"))]),
    (some "data", .object [(some "slug", .string (some "x"))])]

/-- The query of `slugDeleteText`. -/
def slugDelete : Query where
  kind := .delete
  model := some ⟨"Post", "Post", "slug"⟩
  payload := some [("slug", .string "x")]

/-- A model that a document gives a table and a key need not keep them.  The
delete here is guarded by the key, and once it is bound it removes every row. -/
theorem exists_bind_not_keeps :
    Query.ofText slugDeleteText = .ok slugDelete ∧
    (({} : Compiler).compile postRegistry.resolver slugDelete).1 =
      .ok "DELETE FROM \"Post\" AS \"Post\" WHERE slug = 'x';" ∧
    (({} : Compiler).compile postRegistry.resolver (postRegistry.bind slugDelete)).1 =
      .ok "DELETE FROM \"posts\" AS \"Post\";" ∧
    ¬∀ (registry : Registry) (text : String) (q : Query) (place : Query.Place) (d : Document)
      (entries : List (String × Json)) (source key : Option String),
      Query.ofText text = .ok q → (Document.ofText text).at? place = some d →
      d.model? = some (.object entries) → Json.optionalText? "source" entries = some source →
      Json.optionalText? "key" entries = some key →
        ∃ direct inner model, (registry.bind q).at? place = some (direct, inner) ∧
          inner.model = some model ∧ model.Keeps source key := by
  have hread : Json.Outline.ofText slugDeleteText = (slugDeleteOutline, true) := by cbv
  have hq : Query.ofText slugDeleteText = .ok slugDelete := by
    rw [Query.ofText, hread]
    rfl
  have hmodel : (Document.ofText slugDeleteText).model? = some (.object
      [("name", .string "Post"), ("source", .string "Post"), ("key", .string "slug")]) := by
    rw [Document.ofText, hread]
    rfl
  refine ⟨hq, rfl, rfl, fun h => ?_⟩
  obtain ⟨direct, inner, model, hinner, hbound, -, hkey⟩ :=
    h postRegistry slugDeleteText slugDelete [] _ _ (some "Post") (some "slug") hq rfl hmodel
      rfl rfl
  cases hinner
  cases hbound
  exact absurd (hkey "slug" rfl) (by decide)

end RelQuery
