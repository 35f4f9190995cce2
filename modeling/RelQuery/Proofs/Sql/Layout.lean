import RelQuery.Proofs.Query.Models
import RelQuery.Proofs.Sql.Shape

/-!
# The tables of a statement

A statement writes a table for each model that it reads or writes.  Here is where: a
*layout* is the statement with these tables left open, and each of them is that of a
model (`Layout`).

Take the statement of a query on any choice of tables (`Query.onTables`).  The choice
shows in the tables of the layout and nowhere else, and it does not decide whether
there is a statement (`lays_statement`).  So the models of the layout are the models
whose tables are written, in order, and all of them (`Query.writtenModels`).  The proof
follows the writers, and a law for each kind of step says what the step keeps (`Lays`).
-/

namespace RelQuery

/-! ## Layouts -/

/-- A part of a statement. -/
inductive Part where
  /-- Pieces that do not depend on any table. -/
  | pieces (ps : List Piece)
  /-- The table of a model. -/
  | table (model : Entity)

/-- The model whose table a part is, if it is one. -/
def Part.model? : Part → Option Entity
  | .pieces _ => none
  | .table model => some model

/-- A choice of a table for every model. -/
abbrev Tables := Entity → String

/-- The pieces of a part on a choice of tables. -/
def Part.write (tables : Tables) : Part → List Piece
  | .pieces ps => ps
  | .table model => Piece.ofName (tables model)

/-- A statement with its tables left open. -/
abbrev Layout := List Part

namespace Layout

/-- The models whose tables are written, in order. -/
def models (layout : Layout) : List Entity := layout.filterMap Part.model?

/-- The pieces of the statement on a choice of tables. -/
def write (tables : Tables) (layout : Layout) : List Piece := layout.flatMap (Part.write tables)

theorem mem_write {tables : Tables} {layout : Layout} {model : Entity} {p : Piece}
    (hmodel : model ∈ layout.models) (hp : p ∈ Piece.ofName (tables model)) :
    p ∈ layout.write tables := by
  obtain ⟨part, hpart, hmodel⟩ := List.mem_filterMap.mp hmodel
  refine List.mem_flatMap.mpr ⟨part, hpart, ?_⟩
  cases part with
  | pieces ps => cases hmodel
  | table model =>
    cases hmodel
    exact hp

end Layout

/-! ## Queries on other tables -/

/-- The model on the table that is chosen for it. -/
def Entity.onTable (tables : Tables) (model : Entity) : Entity :=
  { model with source := tables model }

/-- The query on the tables that are chosen for its models.  Also the reads that a payload
names directly are on these tables. -/
def Query.onTables (tables : Tables) (q : Query) : Query :=
  { q.mapModels (Entity.onTable tables) with
    payload := q.payload.map fun fields =>
      fields.map fun e => (e.1, e.2.mapModels (Entity.onTable tables)) }

/-- The target on another table. -/
def Target.onTable (t : Target) (table : String) : Target :=
  ⟨{ t.model with source := table }, t.schema⟩

/-- The scope of a target on another table. -/
def Scope.onTable (scope : Scope) (table : String) : Scope :=
  { scope with target := scope.target.onTable table }

/-! ## What is laid out -/

variable {α β : Type}

/-- Whether pieces are a layout, with the tables of some models. -/
def Laid (F : Tables → List Piece) (models : List Entity) : Prop :=
  ∃ layout : Layout, layout.models = models ∧ ∀ tables, F tables = layout.write tables

namespace Laid

variable {F G : Tables → List Piece} {models others : List Entity}

theorem const (ps : List Piece) : Laid (fun _ => ps) [] :=
  ⟨[.pieces ps], rfl, fun _ => (List.append_nil ps).symm⟩

theorem table (model : Entity) : Laid (fun tables => Piece.ofName (tables model)) [model] :=
  ⟨[.table model], rfl, fun _ => (List.append_nil _).symm⟩

theorem append (hF : Laid F models) (hG : Laid G others) :
    Laid (fun tables => F tables ++ G tables) (models ++ others) := by
  obtain ⟨layout, rfl, hlayout⟩ := hF
  obtain ⟨layout', rfl, hlayout'⟩ := hG
  refine ⟨layout ++ layout', List.filterMap_append, fun tables => ?_⟩
  simp only [hlayout, hlayout', Layout.write, List.flatMap_append]

theorem append_const (hF : Laid F models) (ps : List Piece) :
    Laid (fun tables => F tables ++ ps) models := by
  have h := hF.append (const ps)
  rwa [List.append_nil] at h

theorem const_append (ps : List Piece) (hF : Laid F models) :
    Laid (fun tables => ps ++ F tables) models := (const ps).append hF

theorem cons (p : Piece) (hF : Laid F models) : Laid (fun tables => p :: F tables) models :=
  hF.const_append [p]

end Laid

/-- Whether there is a value that is laid out, or never any. -/
inductive Optionally (shows : (Tables → α) → List Entity → Prop) :
    (Tables → Option α) → List Entity → Prop where
  /-- There is none. -/
  | none : Optionally shows (fun _ => none) []
  /-- There is one. -/
  | some {F : Tables → α} {models : List Entity} (h : shows F models) :
      Optionally shows (fun tables => some (F tables)) models

theorem Optionally.map {shows : (Tables → α) → List Entity → Prop}
    {shows' : (Tables → β) → List Entity → Prop} {F : Tables → Option α} {models : List Entity}
    {f : α → β} (hF : Optionally shows F models)
    (hf : ∀ G, shows G models → shows' (fun tables => f (G tables)) models) :
    Optionally shows' (fun tables => (F tables).map f) models := by
  cases hF with
  | none => exact .none
  | some h => exact .some (hf _ h)

/-- Whether a formula is laid out. -/
def LaidTokens (F : Tables → List Token) : List Entity → Prop :=
  Laid fun tables => Token.piecesOf (F tables)

theorem LaidTokens.append {F G : Tables → List Token} {models others : List Entity}
    (hF : LaidTokens F models) (hG : LaidTokens G others) :
    LaidTokens (fun tables => F tables ++ G tables) (models ++ others) := by
  have h := Laid.append hF hG
  simpa only [LaidTokens, Token.piecesOf, List.flatMap_append] using h

theorem LaidTokens.const (tokens : List Token) : LaidTokens (fun _ => tokens) [] := Laid.const _

theorem LaidTokens.atom {F : Tables → List Piece} {models : List Entity} (hF : Laid F models) :
    LaidTokens (fun tables => [.atom (F tables)]) models := by
  simpa [LaidTokens, Token.piecesOf, Token.pieces] using hF

theorem LaidTokens.enclose {F : Tables → List Token} {models : List Entity}
    (hF : LaidTokens F models) : LaidTokens (fun tables => Token.enclose (F tables)) models := by
  have h := ((LaidTokens.const [.opening]).append hF).append (LaidTokens.const [.closing])
  simpa [Token.enclose] using h

/-- Whether a member of a group is laid out. -/
def LaidMember (F : Tables → Fragment) (models : List Entity) : Prop :=
  LaidTokens (fun tables => (F tables).tokens) models ∧ ∃ raw, ∀ tables, (F tables).isRaw = raw

/-- Whether the members of a group are laid out. -/
inductive LaidMembers : (Tables → List Fragment) → List Entity → Prop where
  /-- There are no members. -/
  | nil : LaidMembers (fun _ => []) []
  /-- There is a first one, and others. -/
  | cons {F : Tables → Fragment} {G : Tables → List Fragment} {models others : List Entity}
      (hF : LaidMember F models) (hG : LaidMembers G others) :
      LaidMembers (fun tables => F tables :: G tables) (models ++ others)

namespace Fragment

variable {F : Tables → Fragment} {G : Tables → List Fragment} {models others : List Entity}

theorem laid_beside (hF : LaidMember F models) :
    LaidTokens (fun tables => (F tables).beside) models := by
  obtain ⟨htokens, raw, hraw⟩ := hF
  simp only [beside, hraw]
  cases raw with
  | true => exact htokens.enclose
  | false => exact htokens

theorem laid_chain (c : Connective) (hG : LaidMembers G models) :
    LaidTokens (fun tables => chain c (G tables)) models := by
  induction hG with
  | nil => exact LaidTokens.const []
  | @cons F G models others hF hG ih =>
    cases hG with
    | nil =>
      rw [List.append_nil]
      exact laid_beside hF
    | cons hF' hG' =>
      exact (laid_beside hF).append ((LaidTokens.const [.connective c]).append ih)

theorem laid_join (c : Connective) (hG : LaidMembers G models) :
    Optionally LaidTokens (fun tables => join c (G tables)) models := by
  have hchain := laid_chain c hG
  cases hG with
  | nil => exact .none
  | cons hF hG' =>
    cases hG' with
    | nil =>
      rw [List.append_nil]
      exact .some hF.1
    | cons hF' hG' => exact .some hchain

theorem laid_toList_append {F : Tables → Option Fragment} (hF : Optionally LaidMember F models)
    (hG : LaidMembers G others) :
    LaidMembers (fun tables => (F tables).toList ++ G tables) (models ++ others) := by
  cases hF with
  | none => exact hG
  | some h => exact .cons h hG

end Fragment

/-! ## Computations that lay something out -/

/-- Whether a computation lays out a result with the tables of some models, whatever the
tables are, or never has a result. -/
def Lays (shows : (Tables → α) → List Entity → Prop) (models : List Entity)
    (x : Tables → Except Error α) : Prop :=
  (∃ F, shows F models ∧ ∀ tables, x tables = .ok (F tables)) ∨ ∀ tables a, x tables ≠ .ok a

namespace Lays

variable {shows : (Tables → α) → List Entity → Prop} {shows' : (Tables → β) → List Entity → Prop}
  {models others : List Entity} {x : Tables → Except Error α}

theorem ok {F : Tables → α} (h : shows F models) : Lays shows models fun tables => .ok (F tables) :=
  .inl ⟨F, h, fun _ => rfl⟩

theorem error (e : Tables → Error) : Lays shows models fun tables => .error (e tables) :=
  .inr fun _ _ => nofun

theorem const {c : Except Error α} (h : ∀ a, shows (fun _ => a) []) : Lays shows [] fun _ => c := by
  cases c with
  | error e => exact error fun _ => e
  | ok a => exact ok (h a)

theorem congr {y : Tables → Except Error α} (hx : Lays shows models x)
    (h : ∀ tables, y tables = x tables) : Lays shows models y := by
  rwa [funext h]

theorem bind {k : Tables → α → Except Error β} (hx : Lays shows models x)
    (hk : ∀ F, shows F models → Lays shows' others fun tables => k tables (F tables)) :
    Lays shows' others fun tables => x tables >>= k tables := by
  rcases hx with ⟨F, hF, heq⟩ | hnone
  · refine (hk F hF).congr fun tables => ?_
    rw [heq]
    rfl
  · refine .inr fun tables b h => ?_
    obtain ⟨a, ha, -⟩ := bind_eq_ok_iff.mp h
    exact hnone tables a ha

theorem bind_const {c : Except Error α} {k : Tables → α → Except Error β}
    (hk : ∀ a, c = .ok a → Lays shows' others fun tables => k tables a) :
    Lays shows' others fun tables => c >>= k tables := by
  cases c with
  | error e => exact error fun _ => e
  | ok a => exact hk a rfl

theorem map {f : Tables → α → β} (hx : Lays shows models x)
    (hf : ∀ F, shows F models → shows' (fun tables => f tables (F tables)) models) :
    Lays shows' models fun tables => (x tables).map (f tables) := by
  rcases hx with ⟨F, hF, heq⟩ | hnone
  · exact .inl ⟨_, hf F hF, fun tables => by simp only [heq, Except.map]⟩
  · refine .inr fun tables b h => ?_
    obtain ⟨a, ha, -⟩ := map_eq_ok_iff.mp h
    exact hnone tables a ha

end Lays

/-! ## Tables and joins -/

namespace Clause

theorem laid_source (model : Entity) :
    Laid (fun tables => source (model.onTable tables)) [model] :=
  (Laid.table model).append_const (.text " AS " :: Piece.ofName model.name)

/-- Whether the clauses of joins are laid out, each with a blank before it. -/
def LaidClauses (F : Tables → List (List Piece)) : List Entity → Prop :=
  Laid fun tables => (F tables).flatMap fun clause => .text " " :: clause

theorem laid_join (kind : Option JoinKind) (model : Entity) (on : Option String) :
    Laid (fun tables => join kind (model.onTable tables) on) [model] :=
  ((laid_source model).append_const _).cons _

mutual

theorem lays_joined (ctx : Context) (depth : Nat) : ∀ q : Query,
    Lays LaidClauses q.joinedModels fun tables =>
      joined ctx depth (q.mapModels (Entity.onTable tables))
  | ⟨_, model, _, _, inner, on, kind, _, _, _, _⟩ => by
    simp only [Query.mapModels, joined]
    refine Lays.bind_const fun _ _ => ?_
    cases model with
    | none => exact Lays.error fun _ => .joinWithoutModel
    | some model =>
      refine (lays_joins ctx (depth + 1) inner).bind fun F hF => Lays.ok ?_
      exact ((laid_join kind model on).cons _).append hF

theorem lays_joins (ctx : Context) (depth : Nat) : ∀ qs : List Query,
    Lays LaidClauses (Query.joinsModels qs) fun tables =>
      joins ctx depth (Query.mapJoins (Entity.onTable tables) qs)
  | [] => Lays.ok (Laid.const [])
  | q :: qs => by
    simp only [Query.mapJoins, joins]
    refine (lays_joined ctx depth q).bind fun F hF => ?_
    refine (lays_joins ctx depth qs).bind fun G hG => Lays.ok ?_
    have h := Laid.append hF hG
    simpa only [LaidClauses, Query.joinsModels, List.flatMap_append] using h

end

end Clause

/-! ## Conditions and reads -/

namespace Sql

/-- The target of a query on other tables is its target on its table. -/
theorem outcome_target_onTable (ctx : Context) (kind : Kind) (model : Option Entity)
    (tables : Tables) :
    (ctx.target kind (model.map (Entity.onTable tables))).outcome =
      (ctx.target kind model).outcome.map fun t => t.onTable (tables t.model) := by
  cases model with
  | none => rfl
  | some model =>
    simp only [Option.map_some, Context.target, Lookups.outcome_bind, Lookups.outcome_schemaOf,
      Lookups.outcome_pure, Entity.onTable]
    cases ctx.schemas model.name <;> rfl

/-- The table of a target decides nothing about a test of a value that is no query. -/
theorem lays_test_of_ne (scope : Scope) (table : Tables → String) (column : List Piece)
    (field : String) (op : Operator) {value : Value} (h : ∀ q, value ≠ .query q) :
    Lays Laid value.models fun tables =>
      (test (scope.onTable (table tables)) column field op
        (value.mapModels (Entity.onTable tables))).outcome := by
  have hconst : Lays Laid [] fun _ => (test scope column field op value).outcome :=
    Lays.const Laid.const
  cases value with
  | query q => exact absurd rfl (h q)
  | _ => exact hconst

theorem laid_membership (column : List Piece) (keyword : String) {F : Tables → List Piece}
    {models : List Entity} (hF : Laid F models) :
    Laid (fun tables => Target.membership column keyword (F tables)) models :=
  ((hF.cons _).const_append column).append_const [.text ")"]

theorem laid_after {F : Tables → Option (List Piece)} {models : List Entity}
    (hF : Optionally Laid F models) : Laid (fun tables => Clause.after (F tables)) models := by
  cases hF with
  | none => exact Laid.const []
  | some h => exact h.cons _

theorem laid_ofRaw? (sql : String) :
    Optionally LaidMember (fun _ => Fragment.ofRaw? sql) [] := by
  cases Fragment.ofRaw? sql with
  | none => exact .none
  | some m => exact .some ⟨LaidTokens.const m.tokens, m.isRaw, fun _ => rfl⟩

theorem isLone_mapModels (h : Entity → Entity) {connective : Connective}
    {members : List Condition} :
    (Condition.group connective (Condition.mapMembers h members)).isLone =
      (Condition.group connective members).isLone := by
  match members with
  | [] => rfl
  | [.leaf ..] => rfl
  | [.raw _] => rfl
  | [.group ..] => rfl
  | c :: _ :: _ => cases c <;> rfl

mutual

/-- A test lays out the read that it compares with. -/
theorem lays_test (scope : Scope) (table : Tables → String) (column : List Piece)
    (field : String) (op : Operator) : ∀ value : Value, Lays Laid value.models fun tables =>
      (test (scope.onTable (table tables)) column field op
        (value.mapModels (Entity.onTable tables))).outcome
  | .query q => by
    have hselect := lays_select scope.context (scope.depth + 1) q
    have hmembership : ∀ keyword, Lays Laid q.models fun tables =>
        (do return Target.membership column keyword
              (← select scope.context (scope.depth + 1) (q.mapModels (Entity.onTable tables))) :
          Lookups (List Piece)).outcome := by
      intro keyword
      simp only [Lookups.outcome_bind, Lookups.outcome_pure]
      exact hselect.bind fun F hF => Lays.ok (laid_membership column keyword hF)
    simp only [Value.mapModels, test]
    cases op with
    | eq => exact hmembership "IN"
    | ne => exact hmembership "NOT IN"
    | _ => exact Lays.error fun _ => .operatorOnQuery _ field
  | .null => lays_test_of_ne scope table column field op fun _ => nofun
  | .bool _ => lays_test_of_ne scope table column field op fun _ => nofun
  | .int _ => lays_test_of_ne scope table column field op fun _ => nofun
  | .float _ => lays_test_of_ne scope table column field op fun _ => nofun
  | .string _ => lays_test_of_ne scope table column field op fun _ => nofun
  | .list _ => lays_test_of_ne scope table column field op fun _ => nofun

theorem lays_fragment (scope : Scope) (table : Tables → String) : ∀ c : Condition,
    Lays (Optionally LaidMember) c.models fun tables =>
      (fragment (scope.onTable (table tables)) (c.mapModels (Entity.onTable tables))).outcome
  | .raw sql => Lays.ok (laid_ofRaw? sql)
  | .leaf field op value => by
    simp only [Condition.mapModels, fragment, Lookups.outcome_bind, Lookups.outcome_pure]
    refine (lays_test scope table (scope.target.column scope.qualifier field) field op value).bind
      fun F hF => Lays.ok ?_
    exact .some ⟨LaidTokens.atom hF, false, fun _ => rfl⟩
  | .group connective members => by
    simp only [Condition.mapModels, outcome_fragment_group]
    refine (lays_fragments scope table members).map fun F hF => ?_
    exact (Fragment.laid_join connective hF).map fun G hG => ⟨hG.enclose, false, fun _ => rfl⟩

theorem lays_fragments (scope : Scope) (table : Tables → String) : ∀ cs : List Condition,
    Lays LaidMembers (Condition.allModels cs) fun tables =>
      (fragments (scope.onTable (table tables))
        (Condition.mapMembers (Entity.onTable tables) cs)).outcome
  | [] => Lays.ok .nil
  | c :: cs => by
    simp only [Condition.mapMembers, fragments, Lookups.outcome_bind, Lookups.outcome_pure]
    refine (lays_fragment scope table c).bind fun F hF => ?_
    refine (lays_fragments scope table cs).bind fun G hG => Lays.ok ?_
    exact Fragment.laid_toList_append hF hG

theorem lays_whereFormula (scope : Scope) (table : Tables → String) : ∀ c : Condition,
    Lays (Optionally LaidTokens) c.models fun tables =>
      (whereFormula (scope.onTable (table tables))
        (c.mapModels (Entity.onTable tables))).outcome
  | .raw sql => Lays.ok ((laid_ofRaw? sql).map fun _ hG => hG.1)
  | .leaf field op value => by
    simp only [Condition.mapModels, whereFormula, Lookups.outcome_bind, Lookups.outcome_pure]
    refine (lays_test scope table [.text field] field op value).bind fun F hF => Lays.ok ?_
    exact .some (LaidTokens.atom hF)
  | .group connective members => by
    have hmembers := lays_fragments scope table members
    match members, Condition.outermost connective members with
    | _, .alone field op value =>
      have hmodels : (Condition.group connective [.leaf field op value]).models =
          (Condition.leaf field op value).models := List.append_nil _
      rw [hmodels]
      refine (lays_whereFormula scope table (.leaf field op value)).congr fun tables => ?_
      exact congrArg Lookups.outcome (whereFormula_alone _ connective field op _)
    | members, .joined hjoined =>
      refine (hmembers.map fun F hF => Fragment.laid_join connective hF).congr fun tables => ?_
      exact outcome_whereFormula_group _ ((isLone_mapModels _).trans hjoined)

theorem lays_whereOptional (scope : Scope) (table : Tables → String) : ∀ c : Option Condition,
    Lays (Optionally Laid) (Condition.optionalModels c) fun tables =>
      (whereOptional (scope.onTable (table tables))
        (Condition.mapOptional (Entity.onTable tables) c)).outcome
  | none => Lays.ok .none
  | some c => by
    simp only [Condition.mapOptional, whereOptional, Lookups.outcome_bind, Lookups.outcome_pure]
    refine (lays_whereFormula scope table c).bind fun F hF => Lays.ok ?_
    exact hF.map fun G hG => Laid.cons _ hG

/-- A read lays out its table, its joins and its condition. -/
theorem lays_select (ctx : Context) (depth : Nat) : ∀ q : Query,
    Lays Laid q.models fun tables =>
      (select ctx depth (q.mapModels (Entity.onTable tables))).outcome
  | ⟨kind, model, fields, conditions, joins, _, _, limit, offset, order, _⟩ => by
    simp only [Query.mapModels, outcome_select, outcome_target_onTable]
    refine Lays.bind_const fun _ _ => ?_
    cases htarget : (ctx.target kind model).outcome with
    | error e => exact Lays.error fun _ => e
    | ok t =>
      obtain ⟨rfl, -⟩ := target_eq_ok_iff.mp htarget
      refine (Clause.lays_joins ctx (depth + 1) joins).bind fun F hF => ?_
      refine (lays_whereOptional ⟨ctx, t, some t.model.name, depth⟩ (fun tables => tables t.model)
        conditions).bind fun G hG => Lays.ok ?_
      have htable := ((Clause.laid_source t.model).cons (.text " FROM ")).const_append
        (.text "SELECT " :: Clause.fields fields)
      exact (((htable.append hF).append (laid_after hG)).append_const
        (Clause.after (Clause.order t order))).append_const
          (Clause.after (Clause.limit limit offset))

end

/-! ## Statements -/

variable {ctx : Context} {q : Query} {t : Target}

theorem kind_onTables (tables : Tables) (q : Query) : (q.onTables tables).kind = q.kind :=
  q.kind_mapModels _

theorem model_onTables (tables : Tables) (q : Query) :
    (q.onTables tables).model = q.model.map (Entity.onTable tables) := q.model_mapModels _

theorem payload_onTables (tables : Tables) (q : Query) :
    (q.onTables tables).payload = q.payload.map fun fields =>
      fields.map fun e => (e.1, e.2.mapModels (Entity.onTable tables)) := rfl

/-- What is written into a field depends on no table, since no query is. -/
theorem writtenLiteral_onTable (t : Target) (table field : String) (h : Entity → Entity)
    (value : Value) :
    writtenLiteral (t.onTable table) field (value.mapModels h) = writtenLiteral t field value := by
  cases value <;> rfl

theorem writtenLiterals_onTable (t : Target) (table : String) (h : Entity → Entity)
    (fields : Entries Value) :
    writtenLiterals (t.onTable table) (fields.map fun e => (e.1, e.2.mapModels h)) =
      writtenLiterals t fields := by
  induction fields with
  | nil => rfl
  | cons e rest ih =>
    rw [List.map_cons, writtenLiterals, writtenLiterals, writtenLiteral_onTable, ih]

/-- What is written of a payload depends on no table. -/
theorem lays_payload {shows : (Tables → α) → List Entity → Prop} {models : List Entity}
    {k : Tables → List (String × List Piece) → Except Error α}
    (hk : ∀ written, Lays shows models fun tables => k tables written) :
    Lays shows models fun tables =>
      payload q.kind (t.onTable (tables t.model)) (q.onTables tables).payload >>= fun fields =>
        writtenLiterals (t.onTable (tables t.model)) fields >>= k tables := by
  simp only [payload_onTables]
  rcases q.payload with _ | _ | ⟨e, rest⟩
  · exact Lays.error fun _ => .emptyPayload q.kind t.model.name
  · exact Lays.error fun _ => .emptyPayload q.kind t.model.name
  · have hconst : Lays shows models fun tables => writtenLiterals t (e :: rest) >>= k tables :=
      Lays.bind_const fun written _ => hk written
    refine hconst.congr fun tables => ?_
    exact congrArg (· >>= k tables) (writtenLiterals_onTable t _ _ (e :: rest))

theorem isUnconditional_onTables (tables : Tables) (q : Query) :
    (q.onTables tables).isUnconditional = q.isUnconditional := by
  have hconditions : (q.onTables tables).conditions =
      Condition.mapOptional (Entity.onTable tables) q.conditions := q.conditions_mapModels _
  rw [Query.isUnconditional, hconditions, Condition.all_isBlank_mapOptional,
    Query.isUnconditional]

/-- The guard of a write is on other tables like any condition, also where it comes from
the payload. -/
theorem guardOf_onTables (tables : Tables) (q : Query) (model : Entity) :
    guardOf (q.onTables tables) (model.onTable tables) =
      Condition.mapOptional (Entity.onTable tables) (guardOf q model) := by
  have hvalue : (q.onTables tables).keyValue? (model.onTable tables) =
      (q.keyValue? model).map (Value.mapModels (Entity.onTable tables)) := by
    rw [Query.keyValue?, Query.keyValue?, payload_onTables]
    cases q.payload with
    | none => rfl
    | some fields => exact Entries.find?_map _ model.key fields
  rw [guardOf_eq, guardOf_eq, isUnconditional_onTables, hvalue]
  split
  · cases q.keyValue? model <;> rfl
  · exact q.conditions_mapModels _

end Sql

/-- The models whose tables the statement of a query writes, in order.  The guard of a
write may be the key of its model, which is taken from the model that it is bound to. -/
def Query.writtenModels (bound : Entity → Entity) (q : Query) : List Entity :=
  match q.kind, q.model with
  | .read, _ => q.models
  | _, none => []
  | .create, some model => [model]
  | _, some model => model :: Condition.optionalModels (Sql.guardOf q (bound model))

namespace Sql

variable {ctx : Context} {q : Query} {t : Target}

theorem lays_insert (hkind : q.kind = .create) :
    Lays Laid (q.writtenModels id) fun tables => (statement ctx (q.onTables tables)).outcome := by
  simp only [statement, kind_onTables, hkind, insert, Lookups.outcome_bind,
    Lookups.outcome_ofExcept, Lookups.outcome_pure, model_onTables, outcome_target_onTable]
  cases htarget : (ctx.target .create q.model).outcome with
  | error e => exact Lays.error fun _ => e
  | ok t =>
    obtain ⟨hmodel, -⟩ := target_eq_ok_iff.mp htarget
    have hmodels : q.writtenModels id = [t.model] := by
      simp only [Query.writtenModels, hkind, hmodel]
    rw [hmodels, ← hkind]
    refine lays_payload fun written => Lays.ok ?_
    exact ((((Laid.table t.model).cons (.text "INSERT INTO ")).append_const _).append_const
      _).append_const [.text ")"]

theorem lays_opening (hkind : q.kind = .update ∨ q.kind = .delete) :
    Lays Laid [t.model] fun tables => opening (q.onTables tables) (t.onTable (tables t.model)) := by
  rcases hkind with hkind | hkind
  · simp only [opening, kind_onTables, hkind]
    rw [← hkind]
    refine lays_payload fun written => Lays.ok ?_
    exact ((Laid.table t.model).cons (.text "UPDATE ")).append_const _
  · simp only [opening, kind_onTables, hkind]
    exact Lays.ok ((Clause.laid_source t.model).cons _)

theorem lays_write (hkind : q.kind = .update ∨ q.kind = .delete) :
    Lays Laid (q.writtenModels id) fun tables => (statement ctx (q.onTables tables)).outcome := by
  have hkinds : ∀ tables, (q.onTables tables).kind = .update ∨ (q.onTables tables).kind = .delete :=
    fun tables => by rwa [kind_onTables]
  have hstatement := fun tables => @outcome_statement_of_write ctx _ (hkinds tables)
  simp only [hstatement, kind_onTables, model_onTables, outcome_target_onTable]
  cases htarget : (ctx.target q.kind q.model).outcome with
  | error e => exact Lays.error fun _ => e
  | ok t =>
    obtain ⟨hmodel, -⟩ := target_eq_ok_iff.mp htarget
    have hmodels : q.writtenModels id =
        [t.model] ++ Condition.optionalModels (guardOf q t.model) := by
      rcases hkind with hkind | hkind <;> simp only [Query.writtenModels, hkind, hmodel] <;> rfl
    rw [hmodels]
    refine (lays_opening hkind).bind fun F hF => ?_
    have hfilter := lays_whereOptional (writeScope ctx q.kind t) (fun tables => tables t.model)
      (guardOf q t.model)
    refine (hfilter.congr fun tables => ?_).bind fun G hG => Lays.ok (hF.append (laid_after hG))
    rw [← guardOf_onTables]
    rfl

/-- A statement lays out the tables of the models that it writes. -/
theorem lays_statement (ctx : Context) (q : Query) :
    Lays Laid (q.writtenModels id) fun tables => (statement ctx (q.onTables tables)).outcome := by
  cases hkind : q.kind with
  | read =>
    have hmodels : q.writtenModels id = q.models := by
      simp only [Query.writtenModels, hkind]
    rw [hmodels]
    refine (lays_select ctx 0 q).congr fun tables => ?_
    simp only [statement, kind_onTables, hkind]
    rw [outcome_select, outcome_select]
    rfl
  | create => exact lays_insert hkind
  | update => exact lays_write (.inl hkind)
  | delete => exact lays_write (.inr hkind)

end Sql

end RelQuery
