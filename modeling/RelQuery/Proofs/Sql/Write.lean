import RelQuery.Proofs.Sql.Condition

/-!
# The rows that a write touches

An update or a delete has an opening, which says what is written or removed, and
perhaps a `WHERE` clause, which says where.  Without one it touches every row.

* A write has no clause exactly when its condition says nothing and its payload
  does not name the primary key (`where_missing_iff`).
* A write that has the key instead of a condition compares the key with one
  literal exactly when the payload gives it a scalar (`keyed_write_testsKey_iff`).
  An update always does.  A delete may be given several values or a query, and
  then tests membership.
-/

namespace RelQuery

/-! ## Guards and keys -/

namespace Query

/-- Whether a query has no condition, or one that says nothing. -/
def isUnconditional (q : Query) : Bool := q.conditions.all Condition.isBlank

/-- The value that the payload gives to the primary key of a model. -/
def keyValue? (q : Query) (model : Entity) : Option Value :=
  q.payload.bind (Entries.find? model.key)

end Query

namespace Sql

/-! ## Openings -/

/-- A field with the literal that is written into it. -/
def assignment (field : String) (literal : List Piece) : List Piece :=
  Piece.ofName field ++ .text " = " :: literal

/-- An update or a delete without its condition. -/
def opening (q : Query) (t : Target) : Except Error (List Piece) :=
  match q.kind with
  | .update => do
    let fields ← payload q.kind t q.payload
    let written ← writtenLiterals t fields
    return .text "UPDATE " :: Piece.ofName t.model.source ++ .text " SET "
      :: Piece.intercalate ", " (written.map fun w => assignment w.1 w.2)
  | _ => .ok (.text "DELETE FROM " :: Clause.source t.model)

/-- Where the condition of a write stands.  An update has no alias. -/
def writeScope (ctx : Context) (kind : Kind) (t : Target) : Scope :=
  ⟨ctx, t, if kind = .update then none else some t.model.name, 0⟩

variable {g : Generator} {ctx : Context} {q : Query} {t : Target} {text : String}

/-- A target is the model of its query with the schema of that model. -/
theorem target_eq_ok_iff {kind : Kind} {model : Option Entity} :
    (ctx.target kind model).outcome = .ok t ↔
      model = some t.model ∧ ctx.schemas t.model.name = .ok t.schema := by
  cases model with
  | none => simp [Context.target]
  | some model =>
    rw [Context.target, Lookups.outcome_bind, bind_eq_ok_iff]
    constructor
    · rintro ⟨schema, hschema, ht⟩
      cases ht
      exact ⟨rfl, hschema⟩
    · rintro ⟨hmodel, hschema⟩
      cases hmodel
      exact ⟨t.schema, hschema, rfl⟩

/-- A write is its opening and the clause of its guard. -/
theorem outcome_statement_of_write (hkind : q.kind = .update ∨ q.kind = .delete) :
    (statement ctx q).outcome = do
      let t ← (ctx.target q.kind q.model).outcome
      let head ← opening q t
      let filter ← (whereOptional (writeScope ctx q.kind t) (guardOf q t.model)).outcome
      return head ++ Clause.after filter := by
  rcases hkind with hkind | hkind
  · simp only [statement, hkind, update, Lookups.outcome_bind, Lookups.outcome_ofExcept, opening,
      writeScope, bind_assoc, pure_bind, Lookups.outcome_pure, if_true, assignment]
    rfl
  · simp only [statement, hkind, delete, Lookups.outcome_bind, opening, writeScope,
      Lookups.outcome_pure]
    rfl

/-- A write that compiles has a target, an opening and perhaps a clause. -/
theorem of_compile_write (hkind : q.kind = .update ∨ q.kind = .delete)
    (h : (compile g ctx q).outcome = .ok text) :
    ∃ t head filter, (ctx.target q.kind q.model).outcome = .ok t ∧ opening q t = .ok head ∧
      (whereOptional (writeScope ctx q.kind t) (guardOf q t.model)).outcome = .ok filter ∧
      text = g.render head ++ g.render (Clause.after filter) ++ ";" := by
  obtain ⟨pieces, hpieces, htext⟩ := outcome_compile_eq_ok_iff.mp h
  rw [outcome_statement_of_write hkind, bind_eq_ok_iff] at hpieces
  obtain ⟨t, ht, hpieces⟩ := hpieces
  obtain ⟨head, hhead, hpieces⟩ := bind_eq_ok_iff.mp hpieces
  obtain ⟨filter, hfilter, hpieces⟩ := bind_eq_ok_iff.mp hpieces
  cases hpieces
  cases htext
  exact ⟨t, head, filter, ht, hhead, hfilter, by rw [g.render_append]⟩

/-! ## The guard of a write -/

/-- A write without a condition of its own is guarded by its key. -/
theorem guardOf_of_isUnconditional (h : q.isUnconditional = true) (model : Entity) :
    guardOf q model = (q.keyValue? model).map fun value => .leaf model.key .eq value := by
  rw [Query.isUnconditional] at h
  rw [guardOf]
  cases hc : q.conditions with
  | none => rfl
  | some c =>
    rw [hc, Option.all_some] at h
    simp only [h, if_true]
    rfl

/-- A condition that says something is the guard. -/
theorem guardOf_of_not_isUnconditional (h : q.isUnconditional = false) (model : Entity) :
    ∃ c, q.conditions = some c ∧ c.isBlank = false ∧ guardOf q model = some c := by
  rw [Query.isUnconditional] at h
  cases hc : q.conditions with
  | none => simp [hc] at h
  | some c =>
    rw [hc, Option.all_some] at h
    refine ⟨c, rfl, h, ?_⟩
    simp [guardOf, hc, h]

/-- A condition has no clause when it is absent or blank. -/
theorem whereOptional_eq_none_iff (scope : Scope) (condition : Option Condition) :
    (whereOptional scope condition).outcome = .ok none ↔
      condition.all Condition.isBlank = true := by
  cases condition with
  | none => simp [whereOptional]
  | some c =>
    rw [whereOptional, Lookups.outcome_bind, bind_eq_ok_iff, Option.all_some,
      ← whereFormula_eq_none_iff scope c]
    simp

/-- The guard of a write says nothing when neither its condition nor its key
does. -/
theorem guardOf_all_isBlank_iff (model : Entity) :
    (guardOf q model).all Condition.isBlank = true ↔
      q.isUnconditional = true ∧ q.keyValue? model = none := by
  cases h : q.isUnconditional with
  | true =>
    rw [guardOf_of_isUnconditional h]
    cases q.keyValue? model with
    | none => simp
    | some value => simp [Condition.isBlank]
  | false =>
    obtain ⟨c, -, hblank, hguard⟩ := guardOf_of_not_isUnconditional h model
    simp [hguard, hblank]

/-- A clause starts with `WHERE`. -/
theorem exists_eq_of_whereOptional {scope : Scope} {condition : Option Condition}
    {clause : List Piece} (h : (whereOptional scope condition).outcome = .ok (some clause)) :
    ∃ body, clause = .text "WHERE " :: body := by
  cases condition with
  | none => simp [whereOptional] at h
  | some c =>
    rw [whereOptional, Lookups.outcome_bind, bind_eq_ok_iff] at h
    obtain ⟨formula, -, hclause⟩ := h
    obtain ⟨tokens, -, rfl⟩ := Option.map_eq_some_iff.mp (Except.ok.inj hclause)
    exact ⟨Token.piecesOf tokens, rfl⟩

/-! ## Writes without a clause -/

/-- A text with something before the semicolon is longer than without. -/
theorem append_where_ne (a b : String) : a ++ " WHERE " ++ b ++ ";" ≠ a ++ ";" := by
  intro h
  have hlength := congrArg String.length h
  simp only [String.length_append] at hlength
  have hword : " WHERE ".length = 7 := rfl
  omega

/-- The text of the clause of a write. -/
theorem render_after_some (body : List Piece) :
    g.render (Clause.after (some (.text "WHERE " :: body))) = " WHERE " ++ g.render body := by
  show g.render ([.text " ", .text "WHERE "] ++ body) = _
  rw [g.render_append]
  rfl

/-- A condition is written exactly when it holds a test or text that is not
blank.  A write that compiles has no clause exactly when neither its condition
is written nor its payload names the primary key. -/
theorem where_missing_iff :
    (∀ (g : Generator) (scope : Scope) (c : Condition),
      (g.whereOptional scope (some c)).outcome = .ok none ↔ c.isBlank = true) ∧
    (∀ c : Condition, c.isBlank = true ↔ ∀ part : Condition, part.IsPartOf c → part.IsSilent) ∧
    ∀ (g : Generator) (ctx : Context) (q : Query) (text : String),
      q.kind = .update ∨ q.kind = .delete → (compile g ctx q).outcome = .ok text →
        ∃ t head, (ctx.target q.kind q.model).outcome = .ok t ∧ opening q t = .ok head ∧
          (text = g.render head ++ ";" ↔
            q.isUnconditional = true ∧ q.keyValue? t.model = none) ∧
          (¬(q.isUnconditional = true ∧ q.keyValue? t.model = none) →
            ∃ body, text = g.render head ++ " WHERE " ++ g.render body ++ ";") := by
  refine ⟨fun g scope c => ?_, Condition.isBlank_iff, ?_⟩
  · rw [Generator.outcome_whereOptional_some, ← whereFormula_eq_none_iff scope c, map_eq_ok_iff]
    simp
  · intro g ctx q text hkind h
    obtain ⟨t, head, filter, ht, hhead, hfilter, rfl⟩ := of_compile_write hkind h
    refine ⟨t, head, ht, hhead, ?_⟩
    rw [← guardOf_all_isBlank_iff, ← whereOptional_eq_none_iff (writeScope ctx q.kind t), hfilter]
    cases filter with
    | none =>
      have hempty : g.render (Clause.after none) = "" := rfl
      rw [hempty, String.append_empty]
      exact ⟨by simp, by simp⟩
    | some clause =>
      obtain ⟨body, rfl⟩ := exists_eq_of_whereOptional hfilter
      rw [render_after_some, ← String.append_assoc]
      refine ⟨⟨fun htext => absurd htext (append_where_ne _ _), fun hnone => ?_⟩,
        fun _ => ⟨body, rfl⟩⟩
      simp at hnone

/-- A context in which every model has a whole number for its key, and a title. -/
def postContext : Context := ⟨fun _ => .ok ⟨[("id", .integer), ("title", .string)]⟩, 32⟩

/-- A delete of the posts that a payload names, with a condition that is blank. -/
def deletePost (payload : Entries Value) : Query where
  kind := .delete
  model := some ⟨"Post", "posts", "id"⟩
  conditions := some (.group .or [.group .and [], .raw " "])
  payload := some payload

theorem where_missing_iff_deletePost :
    (compile Dialect.ansi.generator postContext
        (deletePost [("title", .null), ("id", .string "1")])).outcome =
      .ok "DELETE FROM \"posts\" AS \"Post\" WHERE id = 1;" ∧
    ∃ t head, (postContext.target .delete (some ⟨"Post", "posts", "id"⟩)).outcome = .ok t ∧
      opening (deletePost [("title", .null), ("id", .string "1")]) t = .ok head ∧
      ("DELETE FROM \"posts\" AS \"Post\" WHERE id = 1;" =
          Dialect.ansi.generator.render head ++ ";" ↔
        (deletePost [("title", .null), ("id", .string "1")]).isUnconditional = true ∧
          (deletePost [("title", .null), ("id", .string "1")]).keyValue? t.model = none) ∧
      (¬((deletePost [("title", .null), ("id", .string "1")]).isUnconditional = true ∧
          (deletePost [("title", .null), ("id", .string "1")]).keyValue? t.model = none) →
        ∃ body, "DELETE FROM \"posts\" AS \"Post\" WHERE id = 1;" =
          Dialect.ansi.generator.render head ++ " WHERE " ++
            Dialect.ansi.generator.render body ++ ";") :=
  ⟨rfl, where_missing_iff.2.2 Dialect.ansi.generator postContext
    (deletePost [("title", .null), ("id", .string "1")])
    "DELETE FROM \"posts\" AS \"Post\" WHERE id = 1;" (.inr rfl) rfl⟩

/-! ## Literals of a key -/

/-- Only a scalar has a literal of its own. -/
theorem isScalar_of_scalarLiteral {value : Value} {tag : TypeTag} {literal : Piece}
    (h : value.scalarLiteral tag = .ok literal) : value.isScalar = true := by
  cases value with
  | list items => cases tag <;> cases h
  | query q => cases tag <;> cases h
  | _ => rfl

/-- The literal of a scalar is one piece. -/
theorem target_literal_eq_ok_iff {field : String} {value : Value} (hs : value.isScalar = true)
    {pieces : List Piece} :
    t.literal field value = .ok pieces ↔
      ∃ literal, value.scalarLiteral (t.typeOf field) = .ok literal ∧ pieces = [literal] := by
  rw [Target.literal, mapError_eq_ok_iff, Value.literal_of_isScalar hs, map_eq_ok_iff]
  simp only [eq_comm]

/-- A field is compared with a scalar by its literal, and no scalar is a range. -/
theorem target_test_of_isScalar (column : List Piece) (field : String) (op : Operator)
    {value : Value} (hs : value.isScalar = true) (hn : value.isNull = false) :
    t.test column field op value =
      if op = .between then .error (.malformedBetween field 1)
      else (t.literal field value).map fun literal =>
        column ++ .text (" " ++ op.sql ++ " ") :: literal := by
  cases value with
  | null => simp [Value.isNull] at hn
  | list items => simp [Value.isScalar] at hs
  | query q => simp [Value.isScalar] at hs
  | _ => cases op <;> rfl

/-- A comparison with a scalar is a test of the target. -/
theorem outcome_test_eq_target_test (scope : Scope) (column : List Piece) (field : String)
    (op : Operator) {value : Value} (hs : value.isScalar = true) :
    (test scope column field op value).outcome = scope.target.test column field op value := by
  cases value with
  | query q => simp [Value.isScalar] at hs
  | _ => rfl

/-- A field is compared with a scalar by its literal. -/
theorem outcome_test_of_isScalar {scope : Scope} {column pieces : List Piece} {field : String}
    {value : Value} (hs : value.isScalar = true) (hn : value.isNull = false) :
    (test scope column field .eq value).outcome = .ok pieces ↔
      ∃ literal, value.scalarLiteral (scope.target.typeOf field) = .ok literal ∧
        pieces = column ++ [.text " = ", literal] := by
  have htest : (test scope column field .eq value).outcome =
      (scope.target.literal field value).map fun literal => column ++ .text " = " :: literal := by
    rw [outcome_test_eq_target_test scope column field .eq hs,
      target_test_of_isScalar column field .eq hs hn]
    rfl
  rw [htest, map_eq_ok_iff]
  constructor
  · rintro ⟨ps, hps, rfl⟩
    obtain ⟨literal, hliteral, rfl⟩ := (target_literal_eq_ok_iff hs).mp hps
    exact ⟨literal, hliteral, rfl⟩
  · rintro ⟨literal, hliteral, rfl⟩
    exact ⟨[literal], (target_literal_eq_ok_iff hs).mpr ⟨literal, hliteral, rfl⟩, rfl⟩

/-- A field is compared with several values or a query by membership, and with
no value by a test that never holds. -/
theorem test_of_not_isScalar {scope : Scope} {column pieces : List Piece} {field : String}
    {value : Value} (hs : value.isScalar = false)
    (h : (test scope column field .eq value).outcome = .ok pieces) :
    pieces = [.text "1 = 0"] ∨ ∃ members, pieces = Target.membership column "IN" members := by
  cases value with
  | query q =>
    rw [test] at h
    simp only [Lookups.outcome_bind, bind_eq_ok_iff] at h
    obtain ⟨members, -, hpieces⟩ := h
    exact .inr ⟨members, (Except.ok.inj hpieces).symm⟩
  | list items =>
    cases items with
    | nil => exact .inl (Except.ok.inj h).symm
    | cons item items =>
      have hlist : (test scope column field .eq (.list (item :: items))).outcome =
          (scope.target.literal field (.list (item :: items))).map
            (Target.membership column "IN") := rfl
      rw [hlist, map_eq_ok_iff] at h
      obtain ⟨members, -, hpieces⟩ := h
      exact .inr ⟨members, hpieces.symm⟩
  | _ => simp [Value.isScalar] at hs

/-- The payload of a statement holds at least one field. -/
theorem payload_eq_ok_iff {kind : Kind} {entries : Option (Entries Value)}
    {fields : Entries Value} :
    payload kind t entries = .ok fields ↔ entries = some fields ∧ fields ≠ [] := by
  cases entries with
  | none => simp [payload]
  | some entries =>
    cases entries with
    | nil => simp [payload]
    | cons entry rest =>
      simp only [payload, Except.ok.injEq, Option.some.injEq]
      constructor
      · rintro rfl
        exact ⟨rfl, List.cons_ne_nil entry rest⟩
      · exact And.left

/-- What is written into a field is the one piece of a scalar. -/
theorem writtenLiteral_eq_ok_iff {field : String} {value : Value} {pieces : List Piece} :
    writtenLiteral t field value = .ok pieces ↔
      ∃ literal, value.scalarLiteral (t.typeOf field) = .ok literal ∧ pieces = [literal] := by
  rw [writtenLiteral]
  split
  next hs => exact target_literal_eq_ok_iff hs
  next hs =>
    constructor
    · intro h
      cases h
    · rintro ⟨literal, hliteral, -⟩
      exact absurd (isScalar_of_scalarLiteral hliteral) hs

/-- What is written into a field is the literal of a scalar. -/
theorem mem_writtenLiterals {field : String} {value : Value} {fields : Entries Value}
    {written : List (String × List Piece)} (h : writtenLiterals t fields = .ok written)
    (hvalue : Entries.find? field fields = some value) :
    ∃ literal, value.scalarLiteral (t.typeOf field) = .ok literal ∧
      (field, [literal]) ∈ written := by
  induction fields generalizing written with
  | nil => simp [Entries.find?] at hvalue
  | cons entry rest ih =>
    obtain ⟨field', value'⟩ := entry
    rw [writtenLiterals, bind_eq_ok_iff] at h
    obtain ⟨literal', hliteral', h⟩ := h
    obtain ⟨literals, hliterals, hwritten⟩ := bind_eq_ok_iff.mp h
    cases hwritten
    rw [Entries.find?] at hvalue
    by_cases hfield : field' = field
    · rw [if_pos hfield] at hvalue
      cases hvalue
      subst hfield
      obtain ⟨literal, hliteral, rfl⟩ := writtenLiteral_eq_ok_iff.mp hliteral'
      exact ⟨literal, hliteral, .head _⟩
    · rw [if_neg hfield] at hvalue
      obtain ⟨literal, hliteral, hmem⟩ := ih hliterals hvalue
      exact ⟨literal, hliteral, .tail _ hmem⟩

/-! ## Writes by key -/

/-- Every list of pieces is written somewhere in the list of all. -/
theorem exists_eq_of_mem_intercalate (separator : String) {xs : List (List Piece)}
    {x : List Piece} (h : x ∈ xs) :
    ∃ before after, Piece.intercalate separator xs = before ++ x ++ after := by
  induction xs with
  | nil => simp at h
  | cons y ys ih =>
    cases ys with
    | nil =>
      rw [List.mem_singleton] at h
      subst h
      exact ⟨[], [], by simp [Piece.intercalate]⟩
    | cons z zs =>
      have hcons : Piece.intercalate separator (y :: z :: zs) =
          y ++ .text separator :: Piece.intercalate separator (z :: zs) := rfl
      rcases List.mem_cons.mp h with rfl | hmem
      · exact ⟨[], _, by rw [hcons, List.nil_append]⟩
      · obtain ⟨before, after, heq⟩ := ih hmem
        refine ⟨y ++ .text separator :: before, after, ?_⟩
        rw [hcons, heq]
        simp

/-- The opening of an update writes the literal of its key. -/
theorem exists_opening_eq {value : Value} {head : List Piece} (hkind : q.kind = .update)
    (hvalue : q.keyValue? t.model = some value) (h : opening q t = .ok head) :
    ∃ literal before after, value.scalarLiteral (t.typeOf t.model.key) = .ok literal ∧
      head = before ++ assignment t.model.key [literal] ++ after := by
  simp only [opening, hkind, bind_eq_ok_iff] at h
  obtain ⟨fields, hfields, written, hwritten, hhead⟩ := h
  obtain ⟨hpayload, -⟩ := payload_eq_ok_iff.mp hfields
  rw [Query.keyValue?, hpayload, Option.bind_some] at hvalue
  obtain ⟨literal, hliteral, hmem⟩ := mem_writtenLiterals hwritten hvalue
  have hassigned : assignment t.model.key [literal] ∈ written.map fun w => assignment w.1 w.2 :=
    List.mem_map.mpr ⟨_, hmem, rfl⟩
  obtain ⟨before, after, heq⟩ := exists_eq_of_mem_intercalate ", " hassigned
  refine ⟨literal, .text "UPDATE " :: Piece.ofName t.model.source ++ .text " SET " :: before,
    after, hliteral, ?_⟩
  have hhead := (Except.ok.inj hhead).symm
  rw [hhead, heq]
  simp

/-- Whether a clause compares the key of a target with the one literal of a
value. -/
def TestsKey (t : Target) (value : Value) (clause : List Piece) : Prop :=
  ∃ literal, value.scalarLiteral (t.typeOf t.model.key) = .ok literal ∧
    clause = [.text "WHERE ", .text t.model.key, .text " = ", literal]

/-- Whether a clause tests the key of a target for membership. -/
def TestsMembership (t : Target) (clause : List Piece) : Prop :=
  clause = [.text "WHERE ", .text "1 = 0"] ∨
    ∃ members, clause = .text "WHERE " :: Target.membership [.text t.model.key] "IN" members

/-- A write that has a key and no condition has the test of the key for its
clause. -/
theorem whereOptional_guardOf_eq_ok {scope : Scope} {value : Value} {filter : Option (List Piece)}
    (hblank : q.isUnconditional = true) (hvalue : q.keyValue? t.model = some value)
    (h : (whereOptional scope (guardOf q t.model)).outcome = .ok filter) :
    ∃ pieces, (test scope [.text t.model.key] t.model.key .eq value).outcome = .ok pieces ∧
      filter = some (.text "WHERE " :: pieces) := by
  rw [guardOf_of_isUnconditional hblank, hvalue, Option.map_some, whereOptional,
    Lookups.outcome_bind, bind_eq_ok_iff] at h
  obtain ⟨formula, hformula, hfilter⟩ := h
  rw [outcome_whereFormula_leaf, map_eq_ok_iff] at hformula
  obtain ⟨pieces, hpieces, rfl⟩ := hformula
  cases hfilter
  refine ⟨pieces, hpieces, ?_⟩
  simp [Token.piecesOf, Token.pieces]

/-- A test of the key compares it with one literal when the value is a scalar. -/
theorem testsKey_iff {kind : Kind} {value : Value} {pieces : List Piece}
    (hnull : value.isNull = false)
    (h : (test (writeScope ctx kind t) [.text t.model.key] t.model.key .eq value).outcome =
      .ok pieces) :
    TestsKey t value (.text "WHERE " :: pieces) ↔ value.isScalar = true := by
  constructor
  · rintro ⟨literal, hliteral, -⟩
    exact isScalar_of_scalarLiteral hliteral
  · intro hs
    obtain ⟨literal, hliteral, rfl⟩ := (outcome_test_of_isScalar hs hnull).mp h
    exact ⟨literal, hliteral, rfl⟩

/-- A test of the key with any other value is a membership test. -/
theorem testsMembership_of_not_isScalar {kind : Kind} {value : Value} {pieces : List Piece}
    (hs : value.isScalar = false)
    (h : (test (writeScope ctx kind t) [.text t.model.key] t.model.key .eq value).outcome =
      .ok pieces) :
    TestsMembership t (.text "WHERE " :: pieces) := by
  rcases test_of_not_isScalar hs h with rfl | ⟨members, rfl⟩
  · exact .inl rfl
  · exact .inr ⟨members, rfl⟩

/-- A write that names its row by the key compares the key with one literal
exactly when the payload gives the key a scalar.  Any other value makes the
write a delete and the clause a membership test.  An update compares the key
with the literal that it writes. -/
theorem keyed_write_testsKey_iff {model : Entity} {value : Value}
    (hkind : q.kind = .update ∨ q.kind = .delete) (hblank : q.isUnconditional = true)
    (hmodel : q.model = some model) (hvalue : q.keyValue? model = some value)
    (hnull : value.isNull = false) (h : (compile g ctx q).outcome = .ok text) :
    ∃ t head clause, (ctx.target q.kind q.model).outcome = .ok t ∧ opening q t = .ok head ∧
      text = g.render head ++ " " ++ g.render clause ++ ";" ∧
      (TestsKey t value clause ↔ value.isScalar = true) ∧
      (value.isScalar = false → q.kind = .delete ∧ TestsMembership t clause) ∧
      (q.kind = .update → ∃ literal before after,
        clause = [.text "WHERE ", .text t.model.key, .text " = ", literal] ∧
          head = before ++ assignment t.model.key [literal] ++ after) := by
  obtain ⟨t, head, filter, ht, hhead, hfilter, rfl⟩ := of_compile_write hkind h
  have heq : model = t.model := by
    have htarget := (target_eq_ok_iff.mp ht).1
    rw [hmodel] at htarget
    exact Option.some.inj htarget
  subst heq
  obtain ⟨pieces, hpieces, rfl⟩ := whereOptional_guardOf_eq_ok hblank hvalue hfilter
  refine ⟨t, head, .text "WHERE " :: pieces, ht, hhead, ?_, testsKey_iff hnull hpieces, ?_, ?_⟩
  · have hafter : g.render (Clause.after (some (.text "WHERE " :: pieces))) =
        " " ++ g.render (.text "WHERE " :: pieces) := g.render_append [.text " "] _
    rw [hafter, ← String.append_assoc]
  · intro hs
    refine ⟨?_, testsMembership_of_not_isScalar hs hpieces⟩
    rcases hkind with hupdate | hdelete
    · -- The opening of an update has refused the value already.
      obtain ⟨literal, -, -, hliteral, -⟩ := exists_opening_eq hupdate hvalue hhead
      have hscalar := isScalar_of_scalarLiteral hliteral
      rw [hs] at hscalar
      cases hscalar
    · exact hdelete
  · intro hupdate
    obtain ⟨literal, before, after, hliteral, hhead⟩ := exists_opening_eq hupdate hvalue hhead
    have hs := isScalar_of_scalarLiteral hliteral
    obtain ⟨literal', hliteral', rfl⟩ := (outcome_test_of_isScalar hs hnull).mp hpieces
    have hsame : literal' = literal :=
      Except.ok.inj (hliteral'.symm.trans hliteral)
    subst hsame
    exact ⟨literal', before, after, rfl, hhead⟩

/-- An update of a post that names it by a text, which its type reads as a number. -/
def updatePost : Query where
  kind := .update
  model := some ⟨"Post", "posts", "id"⟩
  payload := some [("title", .string "it's"), ("id", .string " 007 ")]

theorem keyed_write_testsKey_iff_updatePost :
    updatePost.isUnconditional = true ∧
    (compile Dialect.ansi.generator postContext updatePost).outcome =
      .ok "UPDATE \"posts\" SET \"title\" = 'it''s', \"id\" = 7 WHERE id = 7;" ∧
    ∃ t head clause, (postContext.target .update updatePost.model).outcome = .ok t ∧
      opening updatePost t = .ok head ∧
      "UPDATE \"posts\" SET \"title\" = 'it''s', \"id\" = 7 WHERE id = 7;" =
        Dialect.ansi.generator.render head ++ " " ++ Dialect.ansi.generator.render clause ++ ";" ∧
      (TestsKey t (.string " 007 ") clause ↔ (Value.string " 007 ").isScalar = true) ∧
      ((Value.string " 007 ").isScalar = false →
        Kind.update = .delete ∧ TestsMembership t clause) ∧
      (Kind.update = .update → ∃ literal before after,
        clause = [.text "WHERE ", .text t.model.key, .text " = ", literal] ∧
          head = before ++ assignment t.model.key [literal] ++ after) :=
  have hcompile : (compile Dialect.ansi.generator postContext updatePost).outcome =
      .ok "UPDATE \"posts\" SET \"title\" = 'it''s', \"id\" = 7 WHERE id = 7;" := rfl
  have hkey : updatePost.keyValue? ⟨"Post", "posts", "id"⟩ = some (.string " 007 ") := rfl
  ⟨rfl, hcompile, keyed_write_testsKey_iff (.inl rfl) rfl rfl hkey rfl hcompile⟩

/-- A delete that names its row by the key need not compare the key with one
literal: a list of keys tests membership and removes several rows. -/
theorem exists_keyed_delete_not_testsKey :
    (compile Dialect.ansi.generator postContext
        (deletePost [("id", .list [.int 1, .int 2])])).outcome =
      .ok "DELETE FROM \"posts\" AS \"Post\" WHERE id IN (1, 2);" ∧
    ¬∀ (g : Generator) (ctx : Context) (q : Query) (model : Entity) (value : Value) (text : String),
      q.kind = .update ∨ q.kind = .delete → q.isUnconditional = true → q.model = some model →
      q.keyValue? model = some value → value.isNull = false →
      (compile g ctx q).outcome = .ok text →
        ∃ t head clause, (ctx.target q.kind q.model).outcome = .ok t ∧ opening q t = .ok head ∧
          text = g.render head ++ " " ++ g.render clause ++ ";" ∧ TestsKey t value clause := by
  refine ⟨rfl, fun h => ?_⟩
  obtain ⟨t, head, clause, -, -, -, literal, hliteral, -⟩ :=
    h Dialect.ansi.generator postContext (deletePost [("id", .list [.int 1, .int 2])])
      ⟨"Post", "posts", "id"⟩ (.list [.int 1, .int 2]) _ (.inr rfl) rfl rfl rfl rfl rfl
  have hscalar := isScalar_of_scalarLiteral hliteral
  cases hscalar

end Sql

end RelQuery
