import RelQuery.Proofs.Sql.Literal
import RelQuery.Proofs.Sql.Outermost

/-!
# Texts and pieces

What the writers write for a database is what the database makes of the pieces.
Each writer has one equation, which says so of its result and of its failure
alike, and for the writers that ask for schemas also of what is asked.  The
equations follow the recursion of the writers, from the literals
(`Value.cast_eq`) to the conditions and reads (`Generator.select_eq`) and the
statements (`Sql.compile_eq`).
-/

namespace RelQuery

theorem Lookups.ofExcept_map {α β : Type} (f : α → β) (x : Except Error α) :
    ofExcept (x.map f) = f <$> ofExcept x := by
  cases x <;> rfl

variable (g : Generator)

/-! ## Literals -/

namespace Generator

theorem literal_eq (t : Target) (field : String) (value : Value) :
    g.literal t field value = (t.literal field value).map g.render := by
  rw [literal, Target.literal, Value.cast_eq]
  cases value.literal (t.typeOf field) <;> rfl

/-! ## Tests -/

theorem aliased_eq (qualifier field : String) :
    g.aliased qualifier field = g.render (Target.aliased qualifier field) := by
  simp [aliased, Target.aliased, String.append_assoc]

theorem column_eq (t : Target) (qualifier : Option String) (field : String) :
    g.column t qualifier field = g.render (t.column qualifier field) := by
  have hplain : (if Text.isIdentifierPath field then g.quoteName field else field) =
      g.render (if Text.isIdentifierPath field then Piece.ofName field else [.text field]) := by
    split
    · exact g.quoteName_eq field
    · exact (g.render_text field).symm
  cases qualifier with
  | none => exact hplain
  | some a =>
    rw [column, Target.column, hplain]
    split
    · exact g.aliased_eq a field
    · rfl

variable (t : Target) (column : List Piece) (field : String)

theorem membership_eq (keyword : String) (members : List Piece) :
    g.render column ++ (" " ++ keyword ++ " (") ++ g.render members ++ ")" =
      g.render (Target.membership column keyword members) := by
  simp [Target.membership, String.append_assoc]

theorem listTest_eq : ∀ (op : Operator) (items : List Value),
    g.listTest t (g.render column) field op items = (t.listTest column field op items).map g.render
  | .between, [low, high] => by
    simp only [listTest, Target.listTest, literal_eq]
    cases t.literal field low with
    | error e => rfl
    | ok low =>
      cases t.literal field high with
      | error e => rfl
      | ok high =>
        apply congrArg Except.ok
        simp [String.append_assoc]
  | .eq, item :: items => by
    simp only [listTest, Target.listTest, literal_eq]
    cases t.literal field (.list (item :: items)) with
    | error e => rfl
    | ok members => exact congrArg Except.ok (membership_eq g column "IN" members)
  | .ne, item :: items => by
    simp only [listTest, Target.listTest, literal_eq]
    cases t.literal field (.list (item :: items)) with
    | error e => rfl
    | ok members => exact congrArg Except.ok (membership_eq g column "NOT IN" members)
  | .eq, [] => congrArg Except.ok (g.render_text "1 = 0").symm
  | .ne, [] => congrArg Except.ok (g.render_text "1 = 1").symm
  | .between, [] | .between, [_] | .between, _ :: _ :: _ :: _ => rfl
  | .gt, _ | .ge, _ | .lt, _ | .le, _ | .like, _ | .notLike, _ => rfl

theorem test_eq (op : Operator) (value : Value) :
    g.test t (g.render column) field op value = (t.test column field op value).map g.render := by
  have hliteral : (do
        let literal ← g.literal t field value
        return g.render column ++ " " ++ op.sql ++ " " ++ literal : Except Error String) =
      (do
        let literal ← t.literal field value
        return column ++ .text (" " ++ op.sql ++ " ") :: literal : Except Error (List Piece)).map
          g.render := by
    rw [literal_eq]
    cases t.literal field value with
    | error e => rfl
    | ok literal =>
      apply congrArg Except.ok
      simp [String.append_assoc]
  cases value with
  | list items => exact listTest_eq g t column field op items
  | null =>
    cases op with
    | between => rfl
    | eq =>
      apply congrArg Except.ok
      rw [render_append, render_text]
    | ne =>
      apply congrArg Except.ok
      rw [render_append, render_text]
    | _ => exact hliteral
  | _ =>
    cases op with
    | between => rfl
    | _ => exact hliteral

/-! ## Groups -/

theorem rawText?_eq (sql : String) :
    rawText? sql = (Fragment.ofRaw? sql).map fun f => g.render (Token.piecesOf f.tokens) := by
  rw [rawText?, Fragment.ofRaw?]
  split
  · rfl
  · exact congrArg some (g.render_text (Text.trim sql)).symm

theorem enclose_eq (tokens : List Token) :
    "(" ++ g.render (Token.piecesOf tokens) ++ ")" =
      g.render (Token.piecesOf (Token.enclose tokens)) := by
  simp [Token.piecesOf, Token.enclose, Token.pieces, String.append_assoc]

/-- The text of a member of a group, with whether it is raw. -/
def part (f : Fragment) : String × Bool := (g.render (Token.piecesOf f.tokens), f.isRaw)

theorem beside_eq (f : Fragment) : beside (g.part f) = g.render (Token.piecesOf f.beside) := by
  rw [beside, part, Fragment.beside]
  split
  · exact g.enclose_eq f.tokens
  · rfl

theorem intercalate_beside_eq (c : Connective) (fs : List Fragment) :
    c.joiner.intercalate ((fs.map g.part).map beside) =
      g.render (Token.piecesOf (Fragment.chain c fs)) := by
  induction fs with
  | nil => rfl
  | cons f fs ih =>
    cases fs with
    | nil => simpa [Fragment.chain] using g.beside_eq f
    | cons f' fs =>
      have hchain : Token.piecesOf (Fragment.chain c (f :: f' :: fs)) =
          Token.piecesOf f.beside ++
            .text c.joiner :: Token.piecesOf (Fragment.chain c (f' :: fs)) :=
        List.flatMap_append
      simp only [List.map_cons] at ih ⊢
      rw [String.intercalate_cons_cons, ih, beside_eq, hchain, render_append, render_cons,
        String.append_assoc]
      rfl

/-- The text of a group is that of its formula. -/
theorem joinParts_eq (c : Connective) (fs : List Fragment) :
    joinParts c (fs.map g.part) =
      (Fragment.join c fs).map fun tokens => g.render (Token.piecesOf tokens) := by
  match fs with
  | [] => rfl
  | [f] => rfl
  | f :: f' :: fs => exact congrArg some (intercalate_beside_eq g c (f :: f' :: fs))

/-! ## Clauses -/

theorem source_eq (model : Entity) : g.source model = g.render (Clause.source model) := by
  simp [source, Clause.source, quoteName_eq, String.append_assoc]

theorem constraintText_eq (constraint : Option String) :
    Clause.constraintText constraint = g.render (Clause.constraint constraint) := by
  cases constraint with
  | none => rfl
  | some text =>
    rw [Clause.constraintText, Clause.constraint]
    split
    · rfl
    · exact (g.render_text _).symm

theorem join_eq (kind : Option JoinKind) (model : Entity) (on : Option String) :
    g.join kind model on = g.render (Clause.join kind model on) := by
  simp [join, Clause.join, source_eq, constraintText_eq g, String.append_assoc]

mutual

theorem joined_eq (ctx : Context) (depth : Nat) : ∀ q : Query,
    g.joined ctx depth q = (Clause.joined ctx depth q).map (List.map g.render)
  | ⟨_, model, _, _, inner, on, kind, _, _, _, _⟩ => by
    simp only [joined, Clause.joined, joins_eq ctx (depth + 1) inner]
    cases ctx.checkDepth depth with
    | error e => rfl
    | ok _ =>
      cases model with
      | none => rfl
      | some model =>
        simp only [join_eq]
        cases Clause.joins ctx (depth + 1) inner <;> rfl

/-- The clauses of joins are the texts of their pieces. -/
theorem joins_eq (ctx : Context) (depth : Nat) : ∀ qs : List Query,
    g.joins ctx depth qs = (Clause.joins ctx depth qs).map (List.map g.render)
  | [] => rfl
  | q :: qs => by
    rw [joins, Clause.joins, joined_eq ctx depth q, joins_eq ctx depth qs]
    cases Clause.joined ctx depth q with
    | error e => rfl
    | ok first =>
      cases Clause.joins ctx depth qs with
      | error e => rfl
      | ok others => exact congrArg Except.ok List.map_append.symm

end

theorem orderTerm_eq (t : Target) (term : OrderTerm) :
    g.orderTerm t term = g.render (Clause.orderTerm t term) := by
  simp only [orderTerm, Clause.orderTerm, aliased_eq]
  split <;> simp [String.append_assoc]

theorem order_eq (t : Target) (terms : List OrderTerm) :
    g.order t terms = (Clause.order t terms).map g.render := by
  rw [order, Clause.order]
  split
  · rfl
  · rw [Option.map_some, render_cons, render_intercalate, List.map_map]
    have hterms : terms.map (g.orderTerm t) = terms.map (g.render ∘ Clause.orderTerm t) :=
      List.map_congr_left fun term _ => g.orderTerm_eq t term
    rw [hterms]
    rfl

theorem limitText_eq (limit offset : Option UInt32) :
    Clause.limitText limit offset = (Clause.limit limit offset).map g.render := by
  rw [Clause.limit]
  cases Clause.limitText limit offset with
  | none => rfl
  | some text => exact congrArg some (g.render_text text).symm

theorem after_eq (clause : Option (List Piece)) :
    after (clause.map g.render) = g.render (Clause.after clause) := by
  cases clause with
  | none => rfl
  | some pieces => exact (g.render_cons (.text " ") pieces).symm

/-! ## Conditions and reads -/

theorem join_clauses_eq (clauses : List (List Piece)) :
    String.join ((clauses.map g.render).map fun clause => " " ++ clause) =
      g.render (clauses.flatMap fun clause => .text " " :: clause) := by
  induction clauses with
  | nil => rfl
  | cons clause clauses ih =>
    simp only [List.map_cons, List.flatMap_cons, String.join_cons, ih, render_append, render_cons]
    rfl

mutual

/-- A read is the text of its pieces. -/
theorem select_eq (ctx : Context) (depth : Nat) : ∀ q : Query,
    g.select ctx depth q = g.render <$> Sql.select ctx depth q
  | ⟨kind, model, fields, conditions, joins, _, _, limit, offset, order, _⟩ => by
    simp only [select, Sql.select, joins_eq, whereOptional_eq _ conditions, Lookups.ofExcept_map,
      bind_map_left, map_bind, map_pure, order_eq, limitText_eq g, after_eq, source_eq,
      join_clauses_eq]
    refine bind_congr fun _ => bind_congr fun t => bind_congr fun joined =>
      bind_congr fun filter => ?_
    apply congrArg pure
    simp [Clause.fields, String.append_assoc]

theorem whereOptional_eq (scope : Scope) : ∀ c : Option Condition,
    g.whereOptional scope c = Option.map g.render <$> Sql.whereOptional scope c
  | none => rfl
  | some c => by
    simp only [whereOptional, Sql.whereOptional, whereBody_eq scope c, bind_map_left, map_bind,
      map_pure, Option.map_map]
    exact bind_congr fun formula => by cases formula <;> simp

theorem whereBody_eq (scope : Scope) : ∀ c : Condition,
    g.whereBody scope c =
      Option.map (fun tokens => g.render (Token.piecesOf tokens)) <$> Sql.whereFormula scope c
  | .raw sql => by
    simp only [whereBody, Sql.whereFormula, map_pure, Option.map_map, rawText?_eq g]
    rfl
  | .leaf field op value => by
    have htest := leafText_eq scope [.text field] field op value
    rw [render_text] at htest
    simp [whereBody, Sql.whereFormula, htest, Token.piecesOf, Token.pieces]
  | .group connective members => by
    have hparts := parts_eq scope members
    match members, Condition.outermost connective members with
    | _, .alone field op value =>
      rw [whereBody_alone, Sql.whereFormula_alone]
      exact whereBody_eq scope (.leaf field op value)
    | members, .joined hjoined =>
      rw [whereBody_group g scope hjoined, Sql.whereFormula_group scope hjoined, hparts]
      simp [joinParts_eq]

theorem member_eq (scope : Scope) : ∀ c : Condition,
    Option.map (fun text => (text, c.isRaw)) <$> g.member scope c =
      Option.map g.part <$> Sql.fragment scope c
  | .raw sql => by
    simp only [member, Sql.fragment, map_pure, rawText?_eq g, Option.map_map]
    rw [Fragment.ofRaw?]
    split <;> rfl
  | .leaf field op value => by
    have htest := leafText_eq scope (scope.target.column scope.qualifier field) field op value
    rw [← column_eq] at htest
    simp [member, Sql.fragment, htest, part, Condition.isRaw, Token.piecesOf, Token.pieces]
  | .group _ members => by
    simp only [member, Sql.fragment, parts_eq scope members, joinParts_eq, bind_map_left, map_bind,
      map_pure, Option.map_map]
    refine bind_congr fun fs => congrArg (fun f => pure (Option.map f _)) (funext fun tokens => ?_)
    exact congrArg (·, false) (g.enclose_eq tokens)

theorem parts_eq (scope : Scope) : ∀ cs : List Condition,
    g.parts scope cs = List.map g.part <$> Sql.fragments scope cs
  | [] => rfl
  | c :: cs => by
    have hmember := member_eq scope c
    have hfirst : g.parts scope (c :: cs) =
        (Option.map (fun text => (text, c.isRaw)) <$> g.member scope c) >>= fun first => do
          return first.toList ++ (← g.parts scope cs) := by
      rw [parts, bind_map_left]
    rw [hfirst, hmember, parts_eq scope cs]
    simp only [Sql.fragments, bind_map_left, map_bind, map_pure, List.map_append]
    refine bind_congr fun first => bind_congr fun rest => ?_
    cases first <;> rfl

theorem leafText_eq (scope : Scope) (column : List Piece) (field : String) (op : Operator) :
    ∀ value : Value, g.leafText scope (g.render column) field op value =
      g.render <$> Sql.test scope column field op value
  | .query q => by
    cases op with
    | eq =>
      simp only [leafText, Sql.test, select_eq scope.context (scope.depth + 1) q, bind_map_left,
        map_bind, map_pure]
      exact bind_congr fun pieces => congrArg pure (membership_eq g column "IN" pieces)
    | ne =>
      simp only [leafText, Sql.test, select_eq scope.context (scope.depth + 1) q, bind_map_left,
        map_bind, map_pure]
      exact bind_congr fun pieces => congrArg pure (membership_eq g column "NOT IN" pieces)
    | _ => rfl
  | .null => by
    simp only [leafText, Sql.test, test_eq, Lookups.ofExcept_map]
  | .bool _ | .int _ | .float _ | .string _ | .list _ => by
    simp only [leafText, Sql.test, test_eq, Lookups.ofExcept_map]

end

/-- The clause of a condition is `WHERE` and the text of its formula. -/
theorem outcome_whereOptional_some (scope : Scope) (c : Condition) :
    (g.whereOptional scope (some c)).outcome = (Sql.whereFormula scope c).outcome.map
      (Option.map fun tokens => "WHERE " ++ g.render (Token.piecesOf tokens)) := by
  rw [whereOptional, whereBody_eq, Lookups.outcome_bind, Lookups.outcome_map]
  cases (Sql.whereFormula scope c).outcome with
  | error e => rfl
  | ok formula => cases formula <;> rfl

/-! ## Statements -/

theorem writtenLiteral_eq (t : Target) (field : String) (value : Value) :
    g.writtenLiteral t field value = (Sql.writtenLiteral t field value).map g.render := by
  rw [writtenLiteral, Sql.writtenLiteral, literal_eq]
  split <;> rfl

/-- The names and literals of a payload are the texts of theirs. -/
theorem written_eq (t : Target) (fields : Entries Value) :
    g.written t fields = (Sql.writtenLiterals t fields).map
      (List.map fun w => (g.quoteName w.1, g.render w.2)) := by
  induction fields with
  | nil => rfl
  | cons entry fields ih =>
    obtain ⟨field, value⟩ := entry
    rw [written, Sql.writtenLiterals, writtenLiteral_eq, ih]
    cases Sql.writtenLiteral t field value with
    | error e => rfl
    | ok literal => cases Sql.writtenLiterals t fields <;> rfl

theorem insert_eq (ctx : Context) (q : Query) : g.insert ctx q = g.render <$> Sql.insert ctx q := by
  simp only [insert, Sql.insert, written_eq, Lookups.ofExcept_map, bind_map_left, map_bind,
    map_pure]
  refine bind_congr fun t => bind_congr fun fields => bind_congr fun written => congrArg pure ?_
  simp [quoteName_eq, render_intercalate, String.append_assoc, Function.comp_def]

theorem update_eq (ctx : Context) (q : Query) : g.update ctx q = g.render <$> Sql.update ctx q := by
  simp only [update, Sql.update, written_eq, whereOptional_eq, Lookups.ofExcept_map, bind_map_left,
    map_bind, map_pure, after_eq]
  refine bind_congr fun t => bind_congr fun fields => bind_congr fun written =>
    bind_congr fun filter => congrArg pure ?_
  simp [quoteName_eq, render_intercalate, String.append_assoc, Function.comp_def]

theorem delete_eq (ctx : Context) (q : Query) : g.delete ctx q = g.render <$> Sql.delete ctx q := by
  simp only [delete, Sql.delete, whereOptional_eq, bind_map_left, map_bind, map_pure, after_eq,
    source_eq]
  refine bind_congr fun t => bind_congr fun filter => congrArg pure ?_
  simp [String.append_assoc]

theorem statement_eq (ctx : Context) (q : Query) :
    g.statement ctx q = g.render <$> Sql.statement ctx q := by
  rw [statement, Sql.statement]
  cases q.kind with
  | read => exact g.select_eq ctx 0 q
  | create => exact g.insert_eq ctx q
  | update => exact g.update_eq ctx q
  | delete => exact g.delete_eq ctx q

end Generator

/-- What is written for a query is the text of its statement and a semicolon. -/
theorem Sql.compile_eq (ctx : Context) (q : Query) :
    compile g ctx q = (fun pieces => g.render pieces ++ ";") <$> statement ctx q := by
  simp [compile, Generator.statement_eq]

theorem Sql.outcome_compile (ctx : Context) (q : Query) :
    (compile g ctx q).outcome =
      (statement ctx q).outcome.map fun pieces => g.render pieces ++ ";" := by
  rw [compile_eq, Lookups.outcome_map]
  rfl

theorem Sql.outcome_compile_eq_ok_iff {g : Generator} {ctx : Context} {q : Query} {text : String} :
    (compile g ctx q).outcome = .ok text ↔
      ∃ pieces, (statement ctx q).outcome = .ok pieces ∧ text = g.render pieces ++ ";" := by
  rw [outcome_compile, map_eq_ok_iff]
  exact exists_congr fun pieces => and_congr_right fun _ => eq_comm

/-- What a generator writes changes nothing about the schemas that are asked for. -/
theorem Sql.asked_compile (ctx : Context) (q : Query) :
    (compile g ctx q).asked = (statement ctx q).asked := by
  rw [compile_eq, Lookups.asked_map]

end RelQuery
