import RelQuery.Proofs.Sql.Alias

/-!
# Columns of declared fields

A declared field of a condition is written as a column, unless its test is the whole
condition.  The parts of the column are identifiers with a dot between neighbours
(`Target.columnParts`), and which they are depends on the alias.

* In a read and a delete they are the alias and the field, whatever characters the field
  has.
* An update has no alias.  There they are the segments of the field, if it is an
  identifier path.

So an update ends the column in the field, as the others do, exactly if the field has no
dot (`conditionWritten_columns`).
-/

namespace RelQuery

/-! ## Segments -/

theorem exists_head_of_isIdentifierPath {name : String} (h : Text.isIdentifierPath name = true) :
    ∃ c cs, name.toList = c :: cs ∧ Text.isWordChar c = true := by
  have hchars := Text.intercalate_splitAt '.' name.toList
  rw [Text.isIdentifierPath, List.all_eq_true] at h
  cases hsegments : Text.splitAt '.' name.toList with
  | nil => exact absurd hsegments (Text.splitAt_ne_nil '.' name.toList)
  | cons segment segments =>
    rw [hsegments] at h hchars
    have hsegment := h segment (.head _)
    cases segment with
    | nil => cases hsegment
    | cons c cs =>
      rw [List.intercalate_cons_cons_left] at hchars
      exact ⟨c, _, hchars.symm, List.all_eq_true.mp hsegment c (.head _)⟩

/-- The segments of an identifier path are identifiers. -/
theorem quoteName_of_isIdentifierPath (g : Generator) {name : String}
    (h : Text.isIdentifierPath name = true) :
    g.quoteName name =
      ".".intercalate
        (((Text.splitAt '.' name.toList).map String.ofList).map g.quoteIdentifier) := by
  rw [Generator.quoteName, List.map_map]
  congr 1
  refine List.map_congr_left fun segment hsegment => ?_
  have hne : segment ≠ ['*'] := by
    rintro rfl
    have hstar := List.all_eq_true.mp h _ hsegment
    exact absurd hstar (by decide +kernel)
  rw [Generator.quoteSegment, if_neg hne]
  rfl

/-! ## Columns -/

/-- The parts of the column of a declared field in a statement of a kind. -/
def Target.columnParts (t : Target) (kind : Kind) (field : String) : List String :=
  if kind = .update then (Text.splitAt '.' field.toList).map String.ofList
  else [t.model.name, field]

/-- Whether what is written for an atom begins with the parts of a column and a blank, if
the atom tests a declared field.  An update takes identifier paths only. -/
def Atom.HasColumn (g : Generator) (kind : Kind) (t : Target) : Atom Value → List Piece → Prop
  | .test field _ value, pieces => t.isKnown field = true → value ≠ .list [] →
      (kind = .update → Text.isIdentifierPath field = true) →
        ∃ rest, g.render pieces =
          ".".intercalate ((t.columnParts kind field).map g.quoteIdentifier) ++ " " ++ rest
  | .raw _, _ => True

/-- Whether what is written for an atom begins with a column that ends in the field, if the
atom tests a declared field. -/
def Atom.EndsInField (g : Generator) (t : Target) : Atom Value → List Piece → Prop
  | .test field _ value, pieces => t.isKnown field = true → value ≠ .list [] →
      ∃ front rest, g.render pieces = front ++ g.quoteIdentifier field ++ rest ∧
        (front = "" ∨ ∃ parts, front = parts ++ ".")
  | .raw _, _ => True

/-! ## Columns that are fields as they stand -/

namespace Dialect

variable {d : Dialect}

theorem length_le_quoteIdentifier (d : Dialect) (name : String) :
    name.length ≤ (d.generator.quoteIdentifier name).length := by
  cases hd : d.delimiters? with
  | none =>
    cases d with
    | plain => exact Nat.le_refl _
    | _ => cases hd
  | some p =>
    rw [← String.length_toList, ← String.length_toList, toList_quoteIdentifier hd,
      List.length_cons, List.length_append, length_doubled]
    omega

/-- Delimiters are no characters of identifiers, so an identifier path is not a quoted
name. -/
theorem quoteName_ne_of_isIdentifierPath (hd : d ≠ .plain) {name : String}
    (h : Text.isIdentifierPath name = true) : d.generator.quoteName name ≠ name := by
  intro hsame
  obtain ⟨c, cs, hchars, hc⟩ := exists_head_of_isIdentifierPath h
  have hsegment : d.readSegment? (c :: cs) = none := by
    have hstar : c ≠ '*' := by
      rintro rfl
      exact absurd hc (by decide +kernel)
    rw [readSegment?, if_neg hstar]
    cases d with
    | plain => rfl
    | _ =>
      refine if_neg ?_
      rintro rfl
      exact absurd hc (by decide +kernel)
  have hname : d.readName? (name.toList ++ []) = none := by
    rw [List.append_nil, hchars, readName?]
    split
    next => rfl
    next hsome => cases hsegment.symm.trans hsome
    next hsome => cases hsegment.symm.trans hsome
  have hend : d.EndsName [] := ⟨by simp, by simp⟩
  have hread := readName?_quoteName hd name hend
  rw [hsame, hname] at hread
  cases hread

/-- The column of a field is the field as it stands when it is not under an alias, and the
field is an expression or the dialect has no delimiters. -/
theorem render_column_eq_iff (d : Dialect) (t : Target) (qualifier : Option String)
    (field : String) :
    d.generator.render (t.column qualifier field) = field ↔
      (qualifier = none ∨ t.isKnown field = false) ∧
        (d = .plain ∨ Text.isIdentifierPath field = false) := by
  have hfree : d.generator.render
        (if Text.isIdentifierPath field then Piece.ofName field else [.text field]) = field ↔
      d = .plain ∨ Text.isIdentifierPath field = false := by
    cases hpath : Text.isIdentifierPath field with
    | false => simp
    | true =>
      rw [if_pos rfl, ← Generator.quoteName_eq, or_iff_left Bool.true_eq_false.mp]
      constructor
      · intro hsame
        by_contra hd
        exact quoteName_ne_of_isIdentifierPath hd hpath hsame
      · rintro rfl
        exact quoteName_plain field
  cases qualifier with
  | none =>
    rw [Target.column, hfree]
    simp
  | some a =>
    cases hknown : t.isKnown field with
    | false =>
      rw [Target.column, if_neg (by simp [hknown]), hfree]
      simp
    | true =>
      rw [Target.column, if_pos hknown]
      refine iff_of_false (fun hsame => ?_) (by simp)
      -- The dot after the alias makes the column longer than its field.
      have hlength := congrArg String.length hsame
      rw [← Generator.aliased_eq, Generator.aliased, String.length_append,
        String.length_append] at hlength
      have hfield := d.length_le_quoteIdentifier field
      have hdot : (".": String).length = 1 := rfl
      omega

end Dialect

namespace Sql

variable {g : Generator} {ctx : Context} {q : Query} {t : Target} {text : String} {kind : Kind}

/-- The last part of a column is the field, in an update if it has no dot. -/
theorem getLast?_columnParts_eq_iff (t : Target) (kind : Kind) (field : String) :
    (t.columnParts kind field).getLast? = some field ↔ (kind = .update → '.' ∉ field.toList) := by
  by_cases hkind : kind = .update
  · rw [Target.columnParts, if_pos hkind, List.getLast?_map, ← Text.getLast?_splitAt_eq_iff]
    cases (Text.splitAt '.' field.toList).getLast? with
    | none => simp [hkind]
    | some last =>
      simp only [Option.map_some, Option.some.injEq, hkind, true_imp_iff]
      rw [← String.toList_inj, String.toList_ofList]
  · simp [Target.columnParts, hkind]

theorem render_written {field : String} (hknown : t.isKnown field = true)
    (hpath : kind = .update → Text.isIdentifierPath field = true) :
    g.render ((writeScope ctx kind t).written false field) =
      ".".intercalate ((t.columnParts kind field).map g.quoteIdentifier) := by
  by_cases hkind : kind = .update
  · have hcolumn : (writeScope ctx kind t).written false field = Piece.ofName field := by
      show t.column (if kind = .update then none else some t.model.name) field = Piece.ofName field
      rw [if_pos hkind, Target.column, if_pos (hpath hkind)]
    rw [hcolumn, Target.columnParts, if_pos hkind, ← Generator.quoteName_eq]
    exact quoteName_of_isIdentifierPath g (hpath hkind)
  · have hcolumn : (writeScope ctx kind t).written false field =
        Target.aliased t.model.name field := by
      show t.column (if kind = .update then none else some t.model.name) field = _
      rw [if_neg hkind, Target.column, if_pos hknown]
    rw [hcolumn, ← Generator.aliased_eq, Target.columnParts, if_neg hkind]
    rfl

/-- A statement with a condition is what stands before and after the clause of that
condition. -/
theorem of_compile_conditional (hkind : q.kind = .read ∨ q.kind = .delete ∨ q.kind = .update)
    (h : (compile g ctx q).outcome = .ok text) :
    ∃ t before formula after, (ctx.target q.kind q.model).outcome = .ok t ∧
      formulaOf (writeScope ctx q.kind t) (q.filter? t.model) = .ok formula ∧
      text = before ++ g.render (whereClause formula) ++ after := by
  by_cases hupdate : q.kind = .update
  · obtain ⟨t, head, filter, ht, -, hfilter, rfl⟩ := of_compile_write (.inl hupdate) h
    rw [outcome_whereOptional] at hfilter
    obtain ⟨formula, hformula, rfl⟩ := map_eq_ok_iff.mp hfilter
    refine ⟨t, g.render head, formula, ";", ht, ?_, rfl⟩
    rw [Query.filter?, if_neg (by simp [hupdate])]
    exact hformula
  · have haliased : q.kind = .read ∨ q.kind = .delete := by simpa [hupdate] using hkind
    obtain ⟨t, frame, formula, ht, -, hformula, rfl⟩ := of_compile_aliased haliased h
    have hscope : writeScope ctx q.kind t = aliasScope ctx t := by
      simp [writeScope, aliasScope, hupdate]
    rw [← hscope] at hformula
    refine ⟨t, g.render (frame.opening ++ Clause.source t.model ++ frame.joined), formula,
      g.render (Clause.after (Clause.order t frame.order) ++ Clause.after frame.limit) ++ ";", ht,
      hformula, ?_⟩
    simp only [Generator.render_append, String.append_assoc]

/-- Whether a text is the statement of a query, in which the atoms of the condition are
written by a relation.  A test that is the whole condition is left out of account. -/
def ConditionWritten (g : Generator) (ctx : Context) (q : Query) (text : String)
    (written : Target → Atom Value → List Piece → Prop) : Prop :=
  ∃ t before formula after, (ctx.target q.kind q.model).outcome = .ok t ∧
    formulaOf (writeScope ctx q.kind t) (q.filter? t.model) = .ok formula ∧
    text = before ++ g.render (whereClause formula) ++ after ∧
    ∀ c, q.filter? t.model = some c → c.isLone = false →
      List.Forall₂ (written t) c.spoken (formula.toList.flatMap Token.atoms)

theorem hasColumn_of_writtenAs {atom : Atom Value} {pieces : List Piece}
    (h : atom.WrittenAs (writeScope ctx kind t) false pieces) : atom.HasColumn g kind t pieces := by
  cases h with
  | raw sql => trivial
  | @test field op value _ h =>
    intro hknown hvalue hpath
    obtain ⟨rest, rfl⟩ := exists_rest_of_test hvalue h
    refine ⟨rest.1 ++ g.render rest.2, ?_⟩
    rw [render_compared, render_written hknown hpath]

/-- In every statement that compiles, a declared field of the condition is written as a
column, in an update if it is an identifier path.  The column of such a field ends in the
field, in an update exactly if the field has no dot. -/
theorem conditionWritten_columns (g : Generator) (ctx : Context) (q : Query) (text : String)
    (hkind : q.kind = .read ∨ q.kind = .delete ∨ q.kind = .update)
    (h : (compile g ctx q).outcome = .ok text) :
    ConditionWritten g ctx q text (Atom.HasColumn g q.kind) ∧
      ∀ (t : Target) (field : String), (q.kind = .update → Text.isIdentifierPath field = true) →
        ((t.columnParts q.kind field).getLast? = some field ↔
          (q.kind = .update → '.' ∉ field.toList)) := by
  obtain ⟨t, before, formula, after, ht, hformula, rfl⟩ := of_compile_conditional hkind h
  refine ⟨⟨t, before, formula, after, ht, hformula, rfl, fun c hc hlone => ?_⟩,
    fun t field _ => getLast?_columnParts_eq_iff t q.kind field⟩
  rw [hc] at hformula
  have hatoms := forall₂_whereFormula (writeScope ctx q.kind t) hformula
  rw [hlone] at hatoms
  exact hatoms.imp fun _ _ => hasColumn_of_writtenAs

/-- A context in which a model has a field with a dot. -/
def dottedContext : Context := ⟨fun _ => .ok ⟨[("id", .integer), ("a.b", .integer)]⟩, 32⟩

/-- An update under a condition on both fields. -/
def dottedUpdate : Query where
  kind := .update
  model := some ⟨"Post", "posts", "id"⟩
  conditions := some (.group .and [.leaf "a.b" .eq (.int 1), .leaf "id" .eq (.int 2)])
  payload := some [("title", .string "x")]

/-- The text of that update in the standard dialect. -/
def dottedText : String :=
  "UPDATE \"posts\" SET \"title\" = 'x' WHERE \"a\".\"b\" = 1 AND \"id\" = 2;"

theorem conditionWritten_columns_dotted :
    (compile Dialect.ansi.generator dottedContext dottedUpdate).outcome = .ok dottedText ∧
    ConditionWritten Dialect.ansi.generator dottedContext dottedUpdate dottedText
        (Atom.HasColumn Dialect.ansi.generator .update) ∧
      ∀ (t : Target) (field : String),
        (Kind.update = .update → Text.isIdentifierPath field = true) →
        ((t.columnParts .update field).getLast? = some field ↔
          (Kind.update = .update → '.' ∉ field.toList)) :=
  have h : (compile Dialect.ansi.generator dottedContext dottedUpdate).outcome = .ok dottedText :=
    rfl
  ⟨h, conditionWritten_columns Dialect.ansi.generator dottedContext dottedUpdate dottedText
    (.inr (.inr rfl)) h⟩

/-- The update does not end the column of a field with a dot in the field. -/
theorem not_conditionWritten_dotted :
    (compile Dialect.ansi.generator dottedContext dottedUpdate).outcome = .ok dottedText ∧
    ¬ConditionWritten Dialect.ansi.generator dottedContext dottedUpdate dottedText
      (Atom.EndsInField Dialect.ansi.generator) := by
  refine ⟨rfl, ?_⟩
  rintro ⟨t, before, formula, after, ht, hformula, -, hatoms⟩
  cases ht
  cases hformula
  have hall := hatoms _ rfl rfl
  cases hall with
  | cons hfirst _ =>
    obtain ⟨front, rest, htext, -⟩ := hfirst rfl (by simp)
    have hinfix : "\"a.b\"".toList <:+: "\"a\".\"b\" = 1".toList := by
      refine ⟨front.toList, rest.toList, ?_⟩
      rw [← String.toList_append, ← String.toList_append]
      exact congrArg String.toList htext.symm
    exact absurd hinfix (by decide +kernel)

end Sql

end RelQuery
