import RelQuery.Proofs.Sql.Atoms
import RelQuery.Proofs.Sql.Subquery
import RelQuery.Proofs.Text.Blank

/-!
# The alias of a statement

A read and a delete declare an alias for their table, and every declared field of
their condition and of their sort order is written under it.  The alias is the name of
the model in all three places, but it is not written in one way.

* Behind `AS` it is a dotted name, a segment at a time.
* In front of a field it is one identifier.

`exists_aliasedBy` is that account of every read and delete.  The two are one text
exactly in the dialect without delimiters, and for names without a dot that are not the
star (`Dialect.quoteName_eq_quoteIdentifier_iff`).
-/

namespace RelQuery

/-! ## Names of one segment -/

namespace Dialect

variable {d : Dialect}

theorem quoteName_plain (name : String) : plain.generator.quoteName name = name := by
  have hsegment : ∀ segment, plain.generator.quoteSegment segment = String.ofList segment := by
    intro segment
    rw [Generator.quoteSegment]
    split
    next hstar => rw [hstar]
    next => rfl
  have hparts : String.toList ∘ plain.generator.quoteSegment = id := by
    funext segment
    simp [hsegment]
  apply String.toList_injective
  rw [Generator.quoteName, String.toList_intercalate, List.map_map, hparts, List.map_id]
  exact Text.intercalate_splitAt '.' name.toList

theorem quoteName_of_not_mem {name : String} (hdot : '.' ∉ name.toList) (hstar : name ≠ "*") :
    d.generator.quoteName name = d.generator.quoteIdentifier name := by
  have hchars : name.toList ≠ ['*'] := fun h => hstar (String.toList_injective h)
  rw [Generator.quoteName, Text.splitAt_eq_singleton_iff.mpr hdot, List.map_singleton,
    String.intercalate_singleton, Generator.quoteSegment, if_neg hchars, String.ofList_toList]

theorem quoteName_star_ne (hd : d ≠ .plain) :
    d.generator.quoteName "*" ≠ d.generator.quoteIdentifier "*" := by
  cases d with
  | plain => exact absurd rfl hd
  | _ => decide +kernel

/-- A dotted name is written like one identifier exactly in the dialect without
delimiters, or where it has no dot and is not the star. -/
theorem quoteName_eq_quoteIdentifier_iff (d : Dialect) (name : String) :
    d.generator.quoteName name = d.generator.quoteIdentifier name ↔
      d = .plain ∨ ('.' ∉ name.toList ∧ name ≠ "*") := by
  constructor
  · intro h
    refine or_iff_not_imp_left.mpr fun hd => ?_
    have hstar : name ≠ "*" := by
      rintro rfl
      exact quoteName_star_ne hd h
    obtain ⟨⟨opening, closing⟩, hdelimiters⟩ : ∃ p, d.delimiters? = some p := by
      cases d with
      | plain => exact absurd rfl hd
      | _ => exact ⟨_, rfl⟩
    have hchars : name.toList ≠ ['*'] := fun h => hstar (String.toList_injective h)
    have hnil : ([] : List Char).head? ≠ some closing := by simp
    have hend : d.EndsName [] := ⟨by simp, by simp⟩
    have hsegment := readSegment?_quoteSegment hdelimiters name.toList hnil
    rw [Generator.quoteSegment, if_neg hchars, String.ofList_toList, List.append_nil] at hsegment
    have hone := readName?_last hsegment (by simp)
    have hname := readName?_quoteName hd name hend
    rw [List.append_nil, h] at hname
    have hparts : Text.splitAt '.' name.toList = [name.toList] := by
      have hsame := hname.symm.trans hone
      simpa using hsame
    exact ⟨Text.splitAt_eq_singleton_iff.mp hparts, hstar⟩
  · rintro (rfl | ⟨hdot, hstar⟩)
    · exact quoteName_plain name
    · exact quoteName_of_not_mem hdot hstar

end Dialect

/-! ## Statements with an alias -/

/-- Whether what is written for an atom begins with its field under a text, if the
field is declared.  A test of the empty list mentions no field. -/
def Atom.Under (g : Generator) (t : Target) (before : String) : Atom Value → List Piece → Prop
  | .test field _ value, pieces => t.isKnown field = true → value ≠ .list [] →
      ∃ rest, g.render pieces = before ++ "." ++ g.quoteIdentifier field ++ rest
  | .raw _, _ => True

/-- What stands around the table and the condition of a statement with an alias. -/
structure Frame where
  /-- What stands before the table. -/
  opening : List Piece
  /-- The joins. -/
  joined : List Piece
  /-- The sort order. -/
  order : List OrderTerm
  /-- The bounds on the rows, if there are any. -/
  limit : Option (List Piece)

namespace Query

/-- The frame of a read or a delete. -/
def frame (ctx : Context) (q : Query) : Except Error Frame :=
  match q.kind with
  | .read => do
    let clauses ← Clause.joins ctx 1 q.joins
    return ⟨.text "SELECT " :: Clause.fields q.fields ++ [.text " FROM "],
      clauses.flatMap (.text " " :: ·), q.order, Clause.limit q.limit q.offset⟩
  | _ => .ok ⟨[.text "DELETE FROM "], [], [], none⟩

/-- The condition of a read or a delete of a model. -/
def filter? (q : Query) (model : Entity) : Option Condition :=
  if q.kind = .read then q.conditions else Sql.guardOf q model

end Query

namespace Sql

/-- The formula of a condition that may be absent. -/
def formulaOf (scope : Scope) : Option Condition → Except Error (Option (List Token))
  | none => .ok none
  | some c => (whereFormula scope c).outcome

theorem outcome_whereOptional (scope : Scope) (c : Option Condition) :
    (whereOptional scope c).outcome = (formulaOf scope c).map fun formula =>
      formula.map fun tokens => .text "WHERE " :: Token.piecesOf tokens := by
  cases c with
  | none => rfl
  | some c =>
    rw [whereOptional, Lookups.outcome_bind, formulaOf]
    cases (whereFormula scope c).outcome <;> rfl

/-- The scope of the condition of a statement with an alias. -/
def aliasScope (ctx : Context) (t : Target) : Scope := ⟨ctx, t, some t.model.name, 0⟩

/-- The clause of a formula. -/
def whereClause (formula : Option (List Token)) : List Piece :=
  Clause.after (formula.map fun tokens => .text "WHERE " :: Token.piecesOf tokens)

variable {g : Generator} {d : Dialect} {ctx : Context} {q : Query} {t : Target} {text : String}

/-- A read or a delete that compiles is its frame around the table and the condition. -/
theorem of_compile_aliased (hkind : q.kind = .read ∨ q.kind = .delete)
    (h : (compile g ctx q).outcome = .ok text) :
    ∃ t frame formula, (ctx.target q.kind q.model).outcome = .ok t ∧ q.frame ctx = .ok frame ∧
      formulaOf (aliasScope ctx t) (q.filter? t.model) = .ok formula ∧
      text = g.render (frame.opening ++ Clause.source t.model ++ frame.joined ++
        whereClause formula ++ Clause.after (Clause.order t frame.order) ++
        Clause.after frame.limit) ++ ";" := by
  obtain ⟨pieces, hpieces, rfl⟩ := outcome_compile_eq_ok_iff.mp h
  rcases hkind with hkind | hkind
  · simp only [statement, hkind] at hpieces
    rw [outcome_select] at hpieces
    obtain ⟨_, -, hpieces⟩ := bind_eq_ok_iff.mp hpieces
    obtain ⟨t, ht, hpieces⟩ := bind_eq_ok_iff.mp hpieces
    obtain ⟨clauses, hclauses, hpieces⟩ := bind_eq_ok_iff.mp hpieces
    obtain ⟨filter, hfilter, hpieces⟩ := bind_eq_ok_iff.mp hpieces
    cases hpieces
    rw [outcome_whereOptional] at hfilter
    obtain ⟨formula, hformula, rfl⟩ := map_eq_ok_iff.mp hfilter
    refine ⟨t, ⟨.text "SELECT " :: Clause.fields q.fields ++ [.text " FROM "],
      clauses.flatMap (.text " " :: ·), q.order, Clause.limit q.limit q.offset⟩, formula, ht, ?_,
      ?_, ?_⟩
    · simp only [Query.frame, hkind, hclauses]
      rfl
    · simp only [Query.filter?, hkind]
      exact hformula
    · simp only [whereClause, List.append_assoc, List.cons_append, List.nil_append]
  · rw [outcome_statement_of_write (.inr hkind)] at hpieces
    obtain ⟨t, ht, hpieces⟩ := bind_eq_ok_iff.mp hpieces
    obtain ⟨head, hhead, hpieces⟩ := bind_eq_ok_iff.mp hpieces
    obtain ⟨filter, hfilter, hpieces⟩ := bind_eq_ok_iff.mp hpieces
    cases hpieces
    have hscope : writeScope ctx q.kind t = aliasScope ctx t := by
      simp [writeScope, aliasScope, hkind]
    rw [hscope, outcome_whereOptional] at hfilter
    obtain ⟨formula, hformula, rfl⟩ := map_eq_ok_iff.mp hfilter
    have hopening : opening q t = .ok (.text "DELETE FROM " :: Clause.source t.model) := by
      simp only [opening, hkind]
    cases hopening.symm.trans hhead
    refine ⟨t, ⟨[.text "DELETE FROM "], [], [], none⟩, formula, ht, ?_, ?_, ?_⟩
    · simp only [Query.frame, hkind]
    · simp only [Query.filter?, hkind]
      exact hformula
    · simp [whereClause, Clause.order, Clause.after]

/-- Whether a text is the statement of a query in which one text is declared as the
alias of the model, and one stands before every declared field.  A test that is the
whole condition keeps its field as it is written and has nothing before it. -/
def AliasedBy (g : Generator) (ctx : Context) (q : Query) (text name before : String) : Prop :=
  ∃ t frame formula, (ctx.target q.kind q.model).outcome = .ok t ∧ q.frame ctx = .ok frame ∧
    formulaOf (aliasScope ctx t) (q.filter? t.model) = .ok formula ∧
    text = g.render frame.opening ++ g.quoteName t.model.source ++ " AS " ++ name ++
      g.render (frame.joined ++ whereClause formula ++
        Clause.after (Clause.order t frame.order) ++ Clause.after frame.limit) ++ ";" ∧
    (∀ c, q.filter? t.model = some c → c.isLone = false →
      List.Forall₂ (Atom.Under g t before) c.spoken (formula.toList.flatMap Token.atoms)) ∧
    ∀ term ∈ frame.order, t.isKnown term.field = true →
      g.render (Clause.orderTerm t term) =
        before ++ "." ++ g.quoteIdentifier term.field ++ " " ++ term.direction.keyword

/-- In a condition with more than one test, a declared field stands under the alias as one
identifier. -/
theorem under_of_writtenAs {atom : Atom Value} {pieces : List Piece}
    (h : atom.WrittenAs (aliasScope ctx t) false pieces) :
    atom.Under g t (g.quoteIdentifier t.model.name) pieces := by
  cases h with
  | raw sql => trivial
  | @test field op value _ h =>
    intro hknown hvalue
    obtain ⟨rest, rfl⟩ := exists_rest_of_test hvalue h
    have hcolumn : (aliasScope ctx t).written false field =
        Target.aliased t.model.name field := by
      show t.column (some t.model.name) field = Target.aliased t.model.name field
      rw [Target.column, if_pos hknown]
    refine ⟨" " ++ (rest.1 ++ g.render rest.2), ?_⟩
    rw [hcolumn, render_compared, ← Generator.aliased_eq, Generator.aliased]
    exact String.append_assoc

theorem render_orderTerm {term : OrderTerm} (h : t.isKnown term.field = true) :
    g.render (Clause.orderTerm t term) = g.quoteIdentifier t.model.name ++ "." ++
      g.quoteIdentifier term.field ++ " " ++ term.direction.keyword := by
  rw [← Generator.orderTerm_eq, Generator.orderTerm, if_pos h, Generator.aliased]

/-- Every read and delete that compiles declares the name of its model as its alias, a
segment at a time, and writes it as one identifier in front of every declared field of
its condition and of its sort order.  These are one text exactly in the dialect without
delimiters, and for a name that has no dot and is not the star. -/
theorem exists_aliasedBy (d : Dialect) (ctx : Context) (q : Query) (text : String)
    (hkind : q.kind = .read ∨ q.kind = .delete)
    (h : (compile d.generator ctx q).outcome = .ok text) :
    ∃ model, q.model = some model ∧
      AliasedBy d.generator ctx q text (d.generator.quoteName model.name)
        (d.generator.quoteIdentifier model.name) ∧
      (d.generator.quoteName model.name = d.generator.quoteIdentifier model.name ↔
        d = .plain ∨ ('.' ∉ model.name.toList ∧ model.name ≠ "*")) := by
  obtain ⟨t, frame, formula, ht, hframe, hformula, rfl⟩ := of_compile_aliased hkind h
  refine ⟨t.model, (target_eq_ok_iff.mp ht).1, ⟨t, frame, formula, ht, hframe, hformula, ?_, ?_,
    fun term _ hknown => render_orderTerm hknown⟩, d.quoteName_eq_quoteIdentifier_iff t.model.name⟩
  · simp only [Generator.render_append, ← Generator.source_eq, Generator.source,
      String.append_assoc]
  · intro c hc hlone
    rw [hc] at hformula
    have hatoms := forall₂_whereFormula (aliasScope ctx t) hformula
    rw [hlone] at hatoms
    exact hatoms.imp fun _ _ => under_of_writtenAs

/-- A sorted read of a model on the table of its name, by a declared field and another
field. -/
def sortedRead (name : String) : Query where
  model := some ⟨name, name, "id"⟩
  conditions := some (.group .and [.leaf "id" .eq (.int 1), .leaf "x" .eq (.int 2)])
  order := [⟨"id", .asc⟩]

/-- The text of that read of a table in the standard dialect, by what is declared as the
alias and what stands before the fields. -/
def sortedText (table name before : String) : String :=
  "SELECT * FROM " ++ table ++ " AS " ++ name ++ " WHERE " ++ before ++
    ".\"id\" = 1 AND \"x\" = 2" ++ " ORDER BY " ++ before ++ ".\"id\" ASC;"

theorem exists_aliasedBy_post :
    (compile Dialect.ansi.generator postContext (sortedRead "Post")).outcome =
      .ok (sortedText "\"Post\"" "\"Post\"" "\"Post\"") ∧
    ∃ model, (sortedRead "Post").model = some model ∧
      AliasedBy Dialect.ansi.generator postContext (sortedRead "Post")
        (sortedText "\"Post\"" "\"Post\"" "\"Post\"")
        (Dialect.ansi.generator.quoteName model.name)
        (Dialect.ansi.generator.quoteIdentifier model.name) ∧
      (Dialect.ansi.generator.quoteName model.name =
          Dialect.ansi.generator.quoteIdentifier model.name ↔
        Dialect.ansi = .plain ∨ ('.' ∉ model.name.toList ∧ model.name ≠ "*")) :=
  have h : (compile Dialect.ansi.generator postContext (sortedRead "Post")).outcome =
      .ok (sortedText "\"Post\"" "\"Post\"" "\"Post\"") := rfl
  ⟨h, exists_aliasedBy .ansi postContext (sortedRead "Post") _ (.inl rfl) h⟩

/-- A dotted name is declared in two segments and written as one identifier in front of
the fields. -/
theorem not_aliasedBy_dotted :
    (compile Dialect.ansi.generator postContext (sortedRead "public.posts")).outcome =
      .ok (sortedText "\"public\".\"posts\"" "\"public\".\"posts\"" "\"public.posts\"") ∧
    ¬∃ name, AliasedBy Dialect.ansi.generator postContext (sortedRead "public.posts")
      (sortedText "\"public\".\"posts\"" "\"public\".\"posts\"" "\"public.posts\"") name name := by
  have hnot : ¬∃ name, AliasedBy Dialect.ansi.generator postContext (sortedRead "public.posts")
      (sortedText "\"public\".\"posts\"" "\"public\".\"posts\"" "\"public.posts\"") name name := by
    rintro ⟨name, t, frame, formula, ht, hframe, hformula, htext, -, horder⟩
    cases ht
    cases hframe
    cases hformula
    have hterm : "\"public.posts\"" ++ (".\"id\" ASC" : String) = name ++ ".\"id\" ASC" :=
      (horder ⟨"id", .asc⟩ (.head _) rfl).trans (by simp only [String.append_assoc]; rfl)
    have hname : name = "\"public.posts\"" := by
      have hchars := congrArg String.toList hterm
      rw [String.toList_append, String.toList_append] at hchars
      exact String.toList_injective (List.append_cancel_right hchars).symm
    subst hname
    exact absurd htext (by decide +kernel)
  exact ⟨rfl, hnot⟩

end Sql

end RelQuery
