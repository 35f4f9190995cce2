import RelQuery.Compiler
import RelQuery.Proofs.Query.Nesting
import RelQuery.Proofs.Sql.Shape
import RelQuery.Schema.Registry

/-!
# The limit on nesting

The limit of a compiler is exact and makes no other difference
(`compile_depth`).

* A query that is nested within the limit compiles as under any higher limit.
* A query that is nested more deeply does not compile.
* An error that reports the limit is raised only then, and it names the limit.

What counts is the nesting of a read, and of an update or a delete that of its
guard alone (`Query.counted`).

A computation *needs* a number of levels below its depth when these three
statements hold of it with that number (`Needs`).  The writers need the nesting
of what they write, along the recursion of values, conditions and queries
(`needs_test` to `needs_select`).  The depth is given by hand to whatever stands
one level deeper, which is where one level is added (`Needs.enter`).

Other errors compete with the one that reports the limit, and a source of schemas
may itself fail with any error, this one included.  So an error that reports a
limit comes from the limit or from the source.
-/

namespace RelQuery

variable {α β : Type}

/-! ## Failures of a source of schemas -/

/-- Whether a source of schemas fails with an error at some question. -/
def Resolver.Reports (resolver : Resolver) (e : Error) : Prop :=
  (∃ model, resolver.fieldsFor model = .error e) ∨
    ∃ model field, resolver.typeOf model field = .error e

namespace Resolver

variable {resolver : Resolver} {model : String} {e : Error}

theorem reports_of_resolveFields {known : Entries TypeTag} {fields : List String}
    (h : Schema.resolveFields resolver model known fields = .error e) : resolver.Reports e := by
  induction fields generalizing known with
  | nil => cases h
  | cons field fields ih =>
    rcases bind_eq_error_iff.mp h with h | ⟨tag, -, h⟩
    · exact .inr ⟨model, field, h⟩
    · exact ih h

theorem reports_of_resolve (h : Schema.resolve resolver model = .error e) :
    resolver.Reports e := by
  rcases bind_eq_error_iff.mp h with h | ⟨fields, -, h⟩
  · exact .inl ⟨model, h⟩
  · rcases bind_eq_error_iff.mp h with h | ⟨known, -, h⟩
    · exact reports_of_resolveFields h
    · cases h

/-- A cache fails only as the source behind it does. -/
theorem reports_of_schemaFor {cache : SchemaCache}
    (h : cache.schemaFor resolver model = .error e) : resolver.Reports e := by
  rw [SchemaCache.schemaFor, SchemaCache.lookUp] at h
  cases hfind : cache.find? model with
  | some entry =>
    rw [hfind] at h
    cases h
  | none =>
    rw [hfind] at h
    simp only [SchemaCache.fill, hfind] at h
    cases hresolve : Schema.resolve resolver model with
    | ok schema =>
      rw [hresolve] at h
      cases h
    | error e' =>
      rw [hresolve] at h
      cases h
      exact reports_of_resolve hresolve

end Resolver

/-- A registry never fails. -/
theorem Registry.not_reports (registry : Registry) (e : Error) : ¬registry.resolver.Reports e := by
  rintro (⟨model, h⟩ | ⟨model, field, h⟩)
  · cases h
  · cases h

/-! ## Computations without a limit -/

variable {schemas : String → Except Error Schema}

/-- Whether a computation reports that a limit is exceeded only where a look-up of
a schema does. -/
def Unlimited (schemas : String → Except Error Schema) (x : Except Error α) : Prop :=
  ∀ n, x = .error (.depthExceeded n) → ∃ model, schemas model = .error (.depthExceeded n)

namespace Unlimited

theorem ok (a : α) : Unlimited schemas (.ok a : Except Error α) := nofun

theorem error {e : Error} (he : ∀ n, e ≠ .depthExceeded n) :
    Unlimited schemas (.error e : Except Error α) := by
  intro n h
  exact absurd (Except.error.inj h) (he n)

theorem bind {x : Except Error α} {f : α → Except Error β} (hx : Unlimited schemas x)
    (hf : ∀ a, Unlimited schemas (f a)) : Unlimited schemas (x >>= f) := by
  intro n h
  rcases bind_eq_error_iff.mp h with h | ⟨a, -, h⟩
  · exact hx n h
  · exact hf a n h

theorem literal (t : Target) (field : String) (value : Value) :
    Unlimited schemas (t.literal field value) := by
  intro n h
  rw [Target.literal] at h
  cases hliteral : value.literal (t.typeOf field) with
  | ok pieces =>
    rw [hliteral] at h
    cases h
  | error e =>
    rw [hliteral] at h
    cases h

theorem listTest (t : Target) (column : List Piece) (field : String) (op : Operator)
    (items : List Value) : Unlimited schemas (t.listTest column field op items) := by
  rw [Target.listTest.eq_def]
  split
  next low high =>
    exact (literal t field low).bind fun _ => (literal t field high).bind fun _ => ok _
  next => exact error (by simp)
  next => exact ok _
  next => exact ok _
  next => exact (literal t field (.list items)).bind fun _ => ok _
  next => exact (literal t field (.list items)).bind fun _ => ok _
  next => exact error (by simp)

theorem test (t : Target) (column : List Piece) (field : String) (op : Operator) (value : Value) :
    Unlimited schemas (t.test column field op value) := by
  rw [Target.test.eq_def]
  split
  next items => exact listTest t column field op items
  next => exact error (by simp)
  next => exact ok _
  next => exact ok _
  next => exact (literal t field value).bind fun _ => ok _

theorem payload (kind : Kind) (t : Target) (entries : Option (Entries Value)) :
    Unlimited schemas (Sql.payload kind t entries) := by
  rw [Sql.payload.eq_def]
  split
  next => exact ok _
  next => exact error (by simp)

theorem writtenLiterals (t : Target) (fields : Entries Value) :
    Unlimited schemas (Sql.writtenLiterals t fields) := by
  induction fields with
  | nil => exact ok _
  | cons entry rest ih =>
    obtain ⟨field, value⟩ := entry
    have hwritten : Unlimited schemas (Sql.writtenLiteral t field value) := by
      rw [Sql.writtenLiteral]
      split
      next => exact literal t field value
      next => exact error (by simp)
    exact hwritten.bind fun _ => ih.bind fun _ => ok _

theorem opening (q : Query) (t : Target) : Unlimited schemas (Sql.opening q t) := by
  rw [Sql.opening.eq_def]
  split
  next =>
    exact (payload q.kind t q.payload).bind fun fields =>
      (writtenLiterals t fields).bind fun _ => ok _
  next => exact ok _

theorem target (kind : Kind) (model : Option Entity) :
    Unlimited schemas (Context.target ⟨schemas, 0⟩ kind model).outcome := by
  cases model with
  | none => exact error (by simp)
  | some model =>
    rw [Context.target, Lookups.outcome_bind]
    exact Unlimited.bind (fun n h => ⟨model.name, h⟩) fun _ => ok _

end Unlimited

/-! ## Levels that a computation needs -/

/-- Whether a computation under a limit, at a depth that is within the limit,
needs a number of levels below that depth. -/
structure Needs (schemas : String → Except Error Schema) (depth levels : Nat)
    (x : Nat → Except Error α) : Prop where
  /-- With these levels, a higher limit makes no difference. -/
  stable : ∀ {limit limit'}, depth + levels ≤ limit → limit ≤ limit' → x limit' = x limit
  /-- Without them, there is no result. -/
  le_of_ok : ∀ {limit a}, depth ≤ limit → x limit = .ok a → depth + levels ≤ limit
  /-- The limit is reported only without them. -/
  of_exceeded : ∀ {limit n}, depth ≤ limit → x limit = .error (.depthExceeded n) →
    (n = limit ∧ limit < depth + levels) ∨ ∃ model, schemas model = .error (.depthExceeded n)

namespace Needs

variable {depth m n : Nat} {x y : Nat → Except Error α} {f : α → Nat → Except Error β}

theorem congr (hx : Needs schemas depth n x) (h : ∀ limit, y limit = x limit) :
    Needs schemas depth n y := by
  rw [funext h]
  exact hx

/-- A computation without a limit needs no levels. -/
theorem const {c : Except Error α} (hc : Unlimited schemas c) :
    Needs schemas depth 0 fun _ => c where
  stable _ _ := rfl
  le_of_ok hlimit _ := hlimit
  of_exceeded _ h := .inr (hc _ h)

theorem ok (a : α) : Needs schemas depth 0 fun _ => .ok a := const (.ok a)

/-- Where there is never a result, any number of levels will do. -/
theorem error {e : Error} (he : ∀ n, e ≠ .depthExceeded n) :
    Needs schemas depth n fun _ => (.error e : Except Error α) where
  stable _ _ := rfl
  le_of_ok _ h := by cases h
  of_exceeded _ h := absurd (Except.error.inj h) (he _)

/-- Two steps need what the first needs and what the second needs. -/
theorem bind (hx : Needs schemas depth m x)
    (hf : ∀ a limit, x limit = .ok a → Needs schemas depth n (f a)) :
    Needs schemas depth (max m n) fun limit => x limit >>= fun a => f a limit where
  stable := by
    intro limit limit' hlevels hle
    have hm : depth + m ≤ limit := by omega
    have hn : depth + n ≤ limit := by omega
    show x limit' >>= _ = x limit >>= _
    rw [hx.stable hm hle]
    cases h : x limit with
    | error e => rfl
    | ok a => exact (hf a limit h).stable hn hle
  le_of_ok := by
    intro limit b hlimit h
    obtain ⟨a, ha, hb⟩ := bind_eq_ok_iff.mp h
    have hm := hx.le_of_ok hlimit ha
    have hn := (hf a limit ha).le_of_ok hlimit hb
    omega
  of_exceeded := by
    intro limit k hlimit h
    have hexceeded : (k = limit ∧ (limit < depth + m ∨ limit < depth + n)) ∨
        ∃ model, schemas model = .error (.depthExceeded k) := by
      rcases bind_eq_error_iff.mp h with h | ⟨a, ha, h⟩
      · exact (hx.of_exceeded hlimit h).imp_left fun ⟨hk, hlt⟩ => ⟨hk, .inl hlt⟩
      · exact ((hf a limit ha).of_exceeded hlimit h).imp_left fun ⟨hk, hlt⟩ => ⟨hk, .inr hlt⟩
    refine hexceeded.imp_left fun ⟨hk, hlt⟩ => ⟨hk, ?_⟩
    omega

/-- A step that follows one without needs. -/
theorem after (hx : Needs schemas depth 0 x)
    (hf : ∀ a limit, x limit = .ok a → Needs schemas depth n (f a)) :
    Needs schemas depth n fun limit => x limit >>= fun a => f a limit := by
  have h := hx.bind hf
  rwa [Nat.zero_max] at h

theorem bind_ok (hx : Needs schemas depth m x) (g : α → β) :
    Needs schemas depth m fun limit => x limit >>= fun a => .ok (g a) := by
  have h := hx.bind fun a _ _ => ok (g a)
  rwa [Nat.max_zero] at h

theorem map (hx : Needs schemas depth m x) (g : α → β) :
    Needs schemas depth m fun limit => (x limit).map g := by
  refine (hx.bind_ok g).congr fun limit => ?_
  cases x limit <;> rfl

/-- What stands one level deeper needs one level more, when it reports the limit
where its own depth is beyond it. -/
theorem enter (hx : Needs schemas (depth + 1) n x)
    (hbeyond : ∀ limit, limit < depth + 1 → x limit = .error (.depthExceeded limit)) :
    Needs schemas depth (n + 1) x where
  stable := by
    intro limit limit' hlevels hle
    exact hx.stable (by omega) hle
  le_of_ok := by
    intro limit a hlimit h
    rcases Nat.lt_or_ge limit (depth + 1) with hlt | hge
    · rw [hbeyond limit hlt] at h
      cases h
    · have hlevels := hx.le_of_ok hge h
      omega
  of_exceeded := by
    intro limit k hlimit h
    rcases Nat.lt_or_ge limit (depth + 1) with hlt | hge
    · rw [hbeyond limit hlt] at h
      cases h
      exact .inl ⟨rfl, by omega⟩
    · refine (hx.of_exceeded hge h).imp_left fun ⟨hk, hlt⟩ => ⟨hk, ?_⟩
      omega

/-- A depth within the limit passes the check. -/
theorem checkDepth :
    Needs schemas depth 0 fun limit => Context.checkDepth ⟨schemas, limit⟩ depth := by
  have hwithin : ∀ limit, depth ≤ limit → Context.checkDepth ⟨schemas, limit⟩ depth = .ok () :=
    fun limit hlimit => if_neg (Nat.not_lt.mpr hlimit)
  refine ⟨fun hlevels hle => ?_, fun hlimit _ => hlimit, fun hlimit h => ?_⟩
  · rw [hwithin _ hlevels, hwithin _ (Nat.le_trans hlevels hle)]
  · rw [hwithin _ hlimit] at h
    cases h

theorem target (kind : Kind) (model : Option Entity) :
    Needs schemas depth 0 fun limit => (Context.target ⟨schemas, limit⟩ kind model).outcome := by
  refine (const (.target kind model)).congr fun limit => ?_
  cases model <;> rfl

end Needs

/-! ## Joins -/

namespace Clause

theorem joined_of_lt {limit depth : Nat} (h : limit < depth) (q : Query) :
    joined ⟨schemas, limit⟩ depth q = .error (.depthExceeded limit) := by
  cases q
  simp only [joined, Context.checkDepth, if_pos h]
  rfl

mutual

theorem needs_joined (depth : Nat) : ∀ q : Query,
    Needs schemas depth (Query.joinsNesting q.joins) fun limit => joined ⟨schemas, limit⟩ depth q
  | ⟨_, model, _, _, inner, on, kind, _, _, _, _⟩ => by
    simp only [joined]
    refine Needs.checkDepth.after fun _ _ _ => ?_
    cases model with
    | none => exact .error (by simp)
    | some model =>
      exact (needs_joins depth inner).bind_ok fun nested => join kind model on :: nested

theorem needs_joins (depth : Nat) : ∀ qs : List Query,
    Needs schemas depth (Query.joinsNesting qs) fun limit => joins ⟨schemas, limit⟩ (depth + 1) qs
  | [] => .ok []
  | q :: rest => by
    have hjoined : Needs schemas depth q.joinedNesting fun limit =>
        joined ⟨schemas, limit⟩ (depth + 1) q := by
      rw [Query.joinedNesting_eq]
      exact (needs_joined (depth + 1) q).enter fun limit hlt => joined_of_lt hlt q
    simp only [joins, Query.joinsNesting]
    exact hjoined.bind fun first _ _ =>
      (needs_joins depth rest).bind_ok fun others => first ++ others

end

end Clause

/-! ## Conditions and reads -/

namespace Sql

theorem select_of_lt {limit depth : Nat} (h : limit < depth) (q : Query) :
    (select ⟨schemas, limit⟩ depth q).outcome = .error (.depthExceeded limit) := by
  rw [outcome_select, Context.checkDepth, if_pos h]
  rfl

mutual

/-- A test needs the levels of the query that it compares with. -/
theorem needs_test (t : Target) (qualifier : Option String) (depth : Nat) (column : List Piece)
    (field : String) (op : Operator) : ∀ value : Value,
    Needs schemas depth value.nesting fun limit =>
      (test ⟨⟨schemas, limit⟩, t, qualifier, depth⟩ column field op value).outcome
  | .query q => by
    have hselect : Needs schemas depth (q.nesting + 1) fun limit =>
        (select ⟨schemas, limit⟩ (depth + 1) q).outcome :=
      (needs_select (depth + 1) q).enter fun limit hlt => select_of_lt hlt q
    have hmembership : ∀ keyword, Needs schemas depth (q.nesting + 1) fun limit =>
        (do return Target.membership column keyword (← select ⟨schemas, limit⟩ (depth + 1) q) :
          Lookups (List Piece)).outcome := by
      intro keyword
      simp only [Lookups.outcome_bind, Lookups.outcome_pure]
      exact hselect.bind_ok (Target.membership column keyword)
    simp only [test]
    cases op with
    | eq => exact hmembership "IN"
    | ne => exact hmembership "NOT IN"
    | _ => exact .error (by simp)
  | .null => .const (.test t column field op .null)
  | .bool b => .const (.test t column field op (.bool b))
  | .int n => .const (.test t column field op (.int n))
  | .float x => .const (.test t column field op (.float x))
  | .string s => .const (.test t column field op (.string s))
  | .list items => .const (.test t column field op (.list items))

theorem needs_fragment (t : Target) (qualifier : Option String) (depth : Nat) : ∀ c : Condition,
    Needs schemas depth c.nesting fun limit =>
      (fragment ⟨⟨schemas, limit⟩, t, qualifier, depth⟩ c).outcome
  | .raw sql => .ok (Fragment.ofRaw? sql)
  | .leaf field op value => by
    simp only [fragment, Lookups.outcome_bind, Lookups.outcome_pure]
    exact (needs_test t qualifier depth (t.column qualifier field) field op value).bind_ok _
  | .group connective members => by
    simp only [outcome_fragment_group]
    exact (needs_fragments t qualifier depth members).map _

theorem needs_fragments (t : Target) (qualifier : Option String) (depth : Nat) :
    ∀ cs : List Condition, Needs schemas depth (Condition.allNesting cs) fun limit =>
      (fragments ⟨⟨schemas, limit⟩, t, qualifier, depth⟩ cs).outcome
  | [] => .ok []
  | c :: cs => by
    simp only [fragments, Lookups.outcome_bind, Lookups.outcome_pure, Condition.allNesting]
    exact (needs_fragment t qualifier depth c).bind fun first _ _ =>
      (needs_fragments t qualifier depth cs).bind_ok fun rest => first.toList ++ rest

theorem needs_whereFormula (t : Target) (qualifier : Option String) (depth : Nat) :
    ∀ c : Condition, Needs schemas depth c.nesting fun limit =>
      (whereFormula ⟨⟨schemas, limit⟩, t, qualifier, depth⟩ c).outcome
  | .raw sql => .ok ((Fragment.ofRaw? sql).map Fragment.tokens)
  | .leaf field op value => by
    simp only [whereFormula, Lookups.outcome_bind, Lookups.outcome_pure]
    exact (needs_test t qualifier depth [.text field] field op value).bind_ok _
  | .group connective members => by
    have hmembers := needs_fragments t qualifier depth members
    match members, Condition.outermost connective members with
    | _, .alone field op value =>
      simp only [whereFormula_alone, Condition.nesting, Condition.allNesting, Nat.max_zero]
      exact needs_whereFormula t qualifier depth (.leaf field op value)
    | members, .joined hjoined =>
      simp only [outcome_whereFormula_group _ hjoined]
      exact hmembers.map _

theorem needs_whereOptional (t : Target) (qualifier : Option String) (depth : Nat) :
    ∀ c : Option Condition, Needs schemas depth (Condition.optionalNesting c) fun limit =>
      (whereOptional ⟨⟨schemas, limit⟩, t, qualifier, depth⟩ c).outcome
  | none => .ok none
  | some c => by
    simp only [whereOptional, Lookups.outcome_bind, Lookups.outcome_pure]
    exact (needs_whereFormula t qualifier depth c).bind_ok _

/-- A read needs the levels of its joins and of its condition. -/
theorem needs_select (depth : Nat) : ∀ q : Query,
    Needs schemas depth q.nesting fun limit => (select ⟨schemas, limit⟩ depth q).outcome
  | ⟨kind, model, _, conditions, joins, _, _, _, _, _, _⟩ => by
    simp only [outcome_select, Query.nesting]
    refine Needs.checkDepth.after fun _ _ _ => (Needs.target kind model).after fun t _ _ =>
      (Clause.needs_joins depth joins).bind fun _ _ _ => ?_
    exact (needs_whereOptional t (some t.model.name) depth conditions).bind_ok _

end

end Sql

/-! ## Statements -/

/-- The condition that decides which rows a write touches. -/
def Query.guard? (q : Query) : Option Condition :=
  match q.model with
  | some model => Sql.guardOf q model
  | none => q.conditions

/-- The part of a query in which nested queries count: the whole of a read, the
guard of an update or a delete, and nothing of a create. -/
def Query.counted (q : Query) : Query :=
  match q.kind with
  | .read => q
  | .create => {}
  | .update | .delete => { conditions := q.guard? }

theorem Query.nesting_counted_of_write {q : Query} (hkind : q.kind = .update ∨ q.kind = .delete) :
    q.counted.nesting = Condition.optionalNesting q.guard? := by
  have hcounted : q.counted = { conditions := q.guard? } := by
    rcases hkind with hkind | hkind
    · rw [counted, hkind]
    · rw [counted, hkind]
  rw [hcounted, nesting, joinsNesting, Nat.zero_max]

namespace Sql

theorem needs_insert (q : Query) :
    Needs schemas 0 0 fun limit => (insert ⟨schemas, limit⟩ q).outcome := by
  simp only [insert, Lookups.outcome_bind, Lookups.outcome_ofExcept, Lookups.outcome_pure]
  refine (Needs.target q.kind q.model).after fun t _ _ => ?_
  refine (Needs.const (.payload q.kind t q.payload)).after fun fields _ _ => ?_
  exact (Needs.const (.writtenLiterals t fields)).bind_ok _

theorem needs_write {q : Query} (hkind : q.kind = .update ∨ q.kind = .delete) :
    Needs schemas 0 q.counted.nesting fun limit => (statement ⟨schemas, limit⟩ q).outcome := by
  simp only [outcome_statement_of_write hkind]
  refine (Needs.target q.kind q.model).after fun t limit ht => ?_
  have hguard : q.guard? = guardOf q t.model := by
    rw [Query.guard?, (target_eq_ok_iff.mp ht).1]
  rw [Query.nesting_counted_of_write hkind, hguard]
  refine (Needs.const (.opening q t)).after fun head _ _ => ?_
  exact (needs_whereOptional t _ 0 (guardOf q t.model)).bind_ok _

/-- A statement needs the levels of what counts of its query. -/
theorem needs_statement (q : Query) : Needs schemas 0 q.counted.nesting fun limit =>
    (statement ⟨schemas, limit⟩ q).outcome := by
  cases hkind : q.kind with
  | read =>
    simp only [statement, Query.counted, hkind]
    exact needs_select 0 q
  | create =>
    simp only [statement, Query.counted, hkind]
    exact needs_insert q
  | update => exact needs_write (.inl hkind)
  | delete => exact needs_write (.inr hkind)

end Sql

namespace Compiler

/-- Compiling needs the levels of what counts of the query. -/
theorem needs_compile (c : Compiler) (resolver : Resolver) (q : Query) :
    Needs (c.cache.schemaFor resolver) 0 q.counted.nesting fun limit =>
      ({ c with maxDepth := limit }.compile resolver q).1 := by
  refine ((Sql.needs_statement q).map fun pieces => c.generator.render pieces ++ ";").congr
    fun limit => ?_
  rw [compile, Sql.outcome_compile]
  rfl

/-- A query that is nested within the limit compiles as under any higher limit, and
one that is nested more deeply does not compile.  The limit is reported, by its
value, only for a query of the second kind, unless the source of schemas fails with
that report, which a registry never does.  The nesting is the length of the longest
chain of queries. -/
theorem compile_depth (c : Compiler) (resolver : Resolver) (q : Query) :
    IsGreatest {n | q.counted.HasChain n} q.counted.nesting ∧
    (q.counted.nesting ≤ c.maxDepth →
      (∀ limit, c.maxDepth ≤ limit →
        ({ c with maxDepth := limit }.compile resolver q).1 = (c.compile resolver q).1) ∧
      ∀ n, (c.compile resolver q).1 = .error (.depthExceeded n) →
        resolver.Reports (.depthExceeded n)) ∧
    (c.maxDepth < q.counted.nesting → ∃ e, (c.compile resolver q).1 = .error e) ∧
    (∀ n, (c.compile resolver q).1 = .error (.depthExceeded n) →
      (n = c.maxDepth ∧ c.maxDepth < q.counted.nesting) ∨
        resolver.Reports (.depthExceeded n)) ∧
    ∀ (registry : Registry) (e : Error), ¬registry.resolver.Reports e := by
  have hneeds := c.needs_compile resolver q
  have hexceeded : ∀ n, (c.compile resolver q).1 = .error (.depthExceeded n) →
      (n = c.maxDepth ∧ c.maxDepth < q.counted.nesting) ∨
        resolver.Reports (.depthExceeded n) := by
    intro n h
    rcases hneeds.of_exceeded (Nat.zero_le _) h with ⟨hn, hlt⟩ | ⟨model, hmodel⟩
    · rw [Nat.zero_add] at hlt
      exact .inl ⟨hn, hlt⟩
    · exact .inr (Resolver.reports_of_schemaFor hmodel)
  refine ⟨q.counted.isGreatest_nesting, fun hle => ⟨fun limit hlimit => ?_, fun n h => ?_⟩,
    fun hlt => ?_, hexceeded, Registry.not_reports⟩
  · exact hneeds.stable (by omega) hlimit
  · rcases hexceeded n h with ⟨-, hlt⟩ | hreports
    · exact absurd hle (Nat.not_le.mpr hlt)
    · exact hreports
  · cases h : (c.compile resolver q).1 with
    | error e => exact ⟨e, rfl⟩
    | ok text =>
      have hle := hneeds.le_of_ok (Nat.zero_le _) h
      omega

/-- Posts of authors that are in a query of their own. -/
def postsOfAuthors : Query where
  model := some ⟨"Post", "posts", "id"⟩
  conditions := some (.leaf "author_id" .eq (.query { model := some ⟨"Author", "authors", "id"⟩ }))

example : postsOfAuthors.counted.nesting = 1 := rfl

example :
    ({ maxDepth := 1 : Compiler }.compile ({} : Registry).resolver postsOfAuthors).1 =
      .ok ("SELECT * FROM \"posts\" AS \"Post\" "
        ++ "WHERE author_id IN (SELECT * FROM \"authors\" AS \"Author\");") :=
  rfl

example :
    ({ maxDepth := 0 : Compiler }.compile ({} : Registry).resolver postsOfAuthors).1 =
      .error (.depthExceeded 0) :=
  rfl

end Compiler

end RelQuery
