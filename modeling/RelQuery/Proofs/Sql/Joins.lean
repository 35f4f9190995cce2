import RelQuery.Proofs.Outcome
import RelQuery.Proofs.Query.Nesting
import RelQuery.Proofs.Text.Blank
import RelQuery.Sql.Dialect
import RelQuery.Sql.Writer

/-!
# The clauses of joins

The joins of a query are a forest: a join may have joins of its own.  The *walk* of the
forest takes each join before its own joins, and the joins of one query in their order
(`Query.joinsWalk`).  It comes to the joins that places of the query lead to and to no
others, each with its depth (`Query.mem_joinsWalk_iff`).

The clauses are written along the walk, one for each join, as long as every join is
within the limit on depth and has a model (`Clause.joins_eq_mapM`).  So a failure is that
of the first join of the walk that is beyond the limit or has no model
(`Clause.joins_preorder`).
-/

namespace RelQuery

/-! ## The walk -/

mutual

/-- A join that stands at a depth, and all joins in it, each with its depth.  A join comes
before its own joins. -/
def Query.joinedWalk (depth : Nat) : Query → List (Nat × Query)
  | ⟨kind, model, fields, conditions, joins, constraint, joinKind, limit, offset, order, payload⟩ =>
    (depth, ⟨kind, model, fields, conditions, joins, constraint, joinKind, limit, offset, order,
      payload⟩) :: Query.joinsWalk (depth + 1) joins

/-- Joins that stand at a depth, one after another, each with the joins in it. -/
def Query.joinsWalk (depth : Nat) : List Query → List (Nat × Query)
  | [] => []
  | q :: qs => q.joinedWalk depth ++ Query.joinsWalk depth qs

end

namespace Query

variable {n : Nat} {q join : Query}

/-- Whether joins of joins lead down from a query to a join, by so many levels. -/
def HasJoinAt (q : Query) (level : Nat) (join : Query) : Prop :=
  ∃ path : List Nat, path.length = level ∧ q.at? (path.map Step.join) = some (true, join)

theorem hasJoinAt_zero_iff : q.HasJoinAt 0 join ↔ join = q := by
  constructor
  · rintro ⟨path, hlength, hjoin⟩
    obtain rfl := List.length_eq_zero_iff.mp hlength
    cases hjoin
    rfl
  · rintro rfl
    exact ⟨[], rfl, rfl⟩

theorem hasJoinAt_succ_iff :
    q.HasJoinAt (n + 1) join ↔ ∃ first ∈ q.joins, first.HasJoinAt n join := by
  constructor
  · rintro ⟨path, hlength, hjoin⟩
    obtain ⟨i, path, rfl⟩ := List.exists_cons_of_length_eq_add_one hlength
    obtain ⟨first, hfirst, hjoin⟩ := at?_join_cons.mp hjoin
    exact ⟨first, List.mem_of_getElem? hfirst, path, Nat.succ.inj hlength, hjoin⟩
  · rintro ⟨first, hmem, path, rfl, hjoin⟩
    obtain ⟨i, hi⟩ := List.mem_iff_getElem?.mp hmem
    exact ⟨i :: path, rfl, at?_join_cons.mpr ⟨first, hi, hjoin⟩⟩

mutual

theorem mem_joinedWalk_iff {n : Nat} {join : Query} (depth : Nat) : ∀ q : Query,
    (n, join) ∈ q.joinedWalk depth ↔ ∃ level, n = depth + level ∧ q.HasJoinAt level join
  | ⟨kind, model, fields, conditions, joins, constraint, joinKind, limit, offset, order,
      payload⟩ => by
    rw [joinedWalk, List.mem_cons, mem_joinsWalk_iff (depth + 1) joins, Prod.mk.injEq]
    constructor
    · rintro (⟨rfl, rfl⟩ | ⟨first, hmem, level, rfl, hjoin⟩)
      · exact ⟨0, rfl, hasJoinAt_zero_iff.mpr rfl⟩
      · exact ⟨level + 1, by omega, hasJoinAt_succ_iff.mpr ⟨first, hmem, hjoin⟩⟩
    · rintro ⟨level, rfl, hjoin⟩
      cases level with
      | zero => exact .inl ⟨rfl, hasJoinAt_zero_iff.mp hjoin⟩
      | succ level =>
        obtain ⟨first, hmem, hjoin⟩ := hasJoinAt_succ_iff.mp hjoin
        exact .inr ⟨first, hmem, level, by omega, hjoin⟩

/-- The walk comes to the joins that are led to. -/
theorem mem_joinsWalk_iff {n : Nat} {join : Query} (depth : Nat) : ∀ qs : List Query,
    (n, join) ∈ joinsWalk depth qs ↔
      ∃ first ∈ qs, ∃ level, n = depth + level ∧ first.HasJoinAt level join
  | [] => by simp [joinsWalk]
  | q :: qs => by
    rw [joinsWalk, List.mem_append, mem_joinedWalk_iff depth q, mem_joinsWalk_iff depth qs,
      List.exists_mem_cons_iff]

end

end Query

/-! ## Clauses along the walk -/

namespace Clause

/-- The clause of a join at a depth. -/
def ofJoin (g : Generator) (ctx : Context) (place : Nat × Query) : Except Error String := do
  ctx.checkDepth place.1
  match place.2.model with
  | none => .error .joinWithoutModel
  | some model => return g.join place.2.joinKind model place.2.constraint

/-- Why there is no clause of a join at a depth, if there is none. -/
def joinFault? (ctx : Context) (place : Nat × Query) : Option Error :=
  if ctx.maxDepth < place.1 then some (.depthExceeded ctx.maxDepth)
  else if place.2.model = none then some .joinWithoutModel
  else none

mutual

theorem joined_eq_mapM (g : Generator) (ctx : Context) (depth : Nat) : ∀ q : Query,
    g.joined ctx depth q = (q.joinedWalk depth).mapM (ofJoin g ctx)
  | ⟨_, model, _, _, inner, on, kind, _, _, _, _⟩ => by
    simp only [Generator.joined]
    rw [Query.joinedWalk, List.mapM_cons, ofJoin, joins_eq_mapM g ctx (depth + 1) inner]
    cases ctx.checkDepth depth with
    | error e => rfl
    | ok _ => cases model <;> rfl

/-- The clauses of joins are written one by one along the walk. -/
theorem joins_eq_mapM (g : Generator) (ctx : Context) (depth : Nat) : ∀ qs : List Query,
    g.joins ctx depth qs = (Query.joinsWalk depth qs).mapM (ofJoin g ctx)
  | [] => rfl
  | q :: rest => by
    rw [Generator.joins, Query.joinsWalk, List.mapM_append, joined_eq_mapM g ctx depth q,
      joins_eq_mapM g ctx depth rest]

end

/-! ## What is written and what fails -/

/-- Whether a text is what a constraint adds to a clause: `ON` and the constraint, or
nothing if it is blank. -/
inductive AddsOn : Option String → String → Prop where
  /-- There is no constraint. -/
  | none : AddsOn none ""
  /-- The constraint is blank. -/
  | blank {text : String} (h : Text.isBlankText text = true) : AddsOn (some text) ""
  /-- The constraint says something. -/
  | on {text : String} (h : Text.isBlankText text = false) :
    AddsOn (some text) (" ON " ++ Text.trim text)

/-- Whether a text is the clause of a join. -/
def IsClauseOf (g : Generator) (join : Query) (text : String) : Prop :=
  ∃ model on, join.model = some model ∧ AddsOn join.constraint on ∧
    text = JoinKind.keyword join.joinKind ++ " " ++ g.quoteName model.source ++ " AS " ++
      g.quoteName model.name ++ on

variable {g : Generator} {ctx : Context} {place : Nat × Query}

theorem addsOn_constraintText (constraint : Option String) :
    AddsOn constraint (constraintText constraint) := by
  cases constraint with
  | none => exact .none
  | some text =>
    rw [constraintText]
    split
    next hblank => exact .blank (Text.trim_eq_empty_iff.mp hblank)
    next hsolid => exact .on (Bool.eq_false_of_not_eq_true (mt Text.trim_eq_empty_iff.mpr hsolid))

/-- A join within the limit that has a model is written, with its keyword, its table under
its alias, and its constraint. -/
theorem isClauseOf_of_ofJoin {clause : String} (h : ofJoin g ctx place = .ok clause) :
    IsClauseOf g place.2 clause := by
  obtain ⟨_, -, h⟩ := bind_eq_ok_iff.mp h
  cases hmodel : place.2.model with
  | none =>
    rw [hmodel] at h
    cases h
  | some model =>
    rw [hmodel] at h
    cases h
    refine ⟨model, _, hmodel, addsOn_constraintText place.2.constraint, ?_⟩
    simp [Generator.join, Generator.source, String.append_assoc]

theorem ofJoin_eq_error_iff (g : Generator) (ctx : Context) (place : Nat × Query) (e : Error) :
    ofJoin g ctx place = .error e ↔ joinFault? ctx place = some e := by
  rw [ofJoin, joinFault?, Context.checkDepth]
  by_cases hdepth : ctx.maxDepth < place.1
  · rw [if_pos hdepth, if_pos hdepth]
    exact ⟨fun h => congrArg some (Except.error.inj h), fun h => congrArg _ (Option.some.inj h)⟩
  · rw [if_neg hdepth, if_neg hdepth]
    cases place.2.model with
    | none =>
      exact ⟨fun h => congrArg some (Except.error.inj h), fun h => congrArg _ (Option.some.inj h)⟩
    | some model =>
      constructor
      · intro h
        cases h
      · intro h
        cases h

theorem joinFault?_eq_none_iff :
    joinFault? ctx place = none ↔ place.2.model ≠ none ∧ place.1 ≤ ctx.maxDepth := by
  rw [joinFault?]
  split
  next hdepth => simp [hdepth]
  next hdepth =>
    split
    next hmodel => simp [hmodel]
    next hmodel => simp [hmodel, Nat.le_of_not_lt hdepth]

/-- The joins of a query are written exactly if every join, at any level, has a model and
is within the limit on depth.  Then there is one clause for each join, in the order of the
walk.  Otherwise the error is that of the first join of the walk that fails, and a join
beyond the limit fails for that. -/
theorem joins_preorder (g : Generator) (ctx : Context) (depth : Nat) (q : Query) :
    ((∃ clauses, g.joins ctx (depth + 1) q.joins = .ok clauses) ↔
      ∀ level join, 0 < level → q.HasJoinAt level join →
        join.model ≠ none ∧ depth + level ≤ ctx.maxDepth) ∧
    (∀ clauses, g.joins ctx (depth + 1) q.joins = .ok clauses →
      List.Forall₂ (fun place clause => IsClauseOf g place.2 clause)
        (Query.joinsWalk (depth + 1) q.joins) clauses) ∧
    ∀ e, g.joins ctx (depth + 1) q.joins = .error e ↔
      (Query.joinsWalk (depth + 1) q.joins).findSome? (joinFault? ctx) = some e := by
  rw [joins_eq_mapM]
  refine ⟨?_, fun clauses h => ?_, fun e => mapM_eq_error_iff (ofJoin_eq_error_iff g ctx)⟩
  · rw [exists_mapM_eq_ok_iff (ofJoin_eq_error_iff g ctx)]
    constructor
    · intro h level join hlevel hjoin
      obtain ⟨level, rfl⟩ := Nat.exists_eq_add_one_of_ne_zero hlevel.ne'
      have hwalk := (Query.mem_joinsWalk_iff (depth + 1) q.joins).mpr
        ((Query.hasJoinAt_succ_iff.mp hjoin).imp fun first h => ⟨h.1, level, rfl, h.2⟩)
      obtain ⟨hmodel, hdepth⟩ := joinFault?_eq_none_iff.mp (h _ hwalk)
      exact ⟨hmodel, by omega⟩
    · rintro h ⟨n, join⟩ hwalk
      obtain ⟨first, hmem, level, rfl, hjoin⟩ :=
        (Query.mem_joinsWalk_iff (depth + 1) q.joins).mp hwalk
      obtain ⟨hmodel, hdepth⟩ :=
        h (level + 1) join level.succ_pos (Query.hasJoinAt_succ_iff.mpr ⟨first, hmem, hjoin⟩)
      exact joinFault?_eq_none_iff.mpr ⟨hmodel, by omega⟩
  · exact (mapM_eq_ok_iff.mp h).imp fun place clause => isClauseOf_of_ofJoin

/-- A read with two joins, the first of which has a join of its own. -/
def forestQuery : Query where
  model := some ⟨"Post", "posts", "id"⟩
  joins :=
    [{ model := some ⟨"Author", "authors", "id"⟩
       constraint := some " Post.author_id = Author.id "
       joins := [{ model := some ⟨"Country", "countries", "id"⟩
                   constraint := some " "
                   joinKind := some .left }] },
      { model := some ⟨"Tag", "tags", "id"⟩ }]

/-- The clauses of its joins. -/
def forestClauses : List String :=
  ["JOIN \"authors\" AS \"Author\" ON Post.author_id = Author.id",
    "LEFT JOIN \"countries\" AS \"Country\"",
    "JOIN \"tags\" AS \"Tag\""]

/-- A context whose limit the join of a join just keeps. -/
def forestContext : Context := ⟨fun _ => .ok {}, 2⟩

theorem joins_preorder_forest :
    Dialect.ansi.generator.joins forestContext (0 + 1) forestQuery.joins = .ok forestClauses ∧
    List.Forall₂ (fun place clause => IsClauseOf Dialect.ansi.generator place.2 clause)
      (Query.joinsWalk (0 + 1) forestQuery.joins) forestClauses := by
  have hjoins : Dialect.ansi.generator.joins forestContext (0 + 1) forestQuery.joins =
      .ok forestClauses := by rfl
  exact ⟨hjoins, (joins_preorder Dialect.ansi.generator forestContext 0 forestQuery).2.1 _ hjoins⟩

end Clause

end RelQuery
