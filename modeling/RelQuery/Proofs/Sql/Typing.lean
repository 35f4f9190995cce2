import RelQuery.Proofs.Value.Column
import RelQuery.Sql.Dialect
import RelQuery.Sql.Writer

/-!
# The types of written and decoded fields

The type of a field is looked up in two ways.  A row is decoded by the type that the
schema declares for the column, under its exact name (`Schema.decodesAs_iff`).  A value
that is written takes the type of the field without the name of the model and a dot
before it (`Target.castsAs_iff`), so that `Post.id` is written as `id` is.

The two agree on a declared field unless its own name begins with that of the model and
a dot.  Such a field is written as the field that the rest of its name names, which may
have another type or none (`Target.castsAs_declared_iff`).
-/

namespace RelQuery

variable {tag tag' : TypeTag}

/-! ## Decoding -/

/-- Two types decode some column differently. -/
theorem Value.tag_eq_of_decode (h : ∀ raw, Value.decode raw tag = Value.decode raw tag') :
    tag = tag' := by
  -- A text is the same as a string and without a type, and a truth value is not.
  have htext := h (.string "x")
  have htruth := h (.bool true)
  cases tag <;> cases tag' <;> first | rfl | (cases htext; done) | cases htruth

namespace Schema

variable {schema : Schema} {column : String}

/-- Whether a column is decoded by a type: wherever it stands in a row, the row comes
down to the columns before it, the column by that type, and the columns after it. -/
def DecodesAs (schema : Schema) (column : String) (tag : TypeTag) : Prop :=
  ∀ (before after : RawRow) (raw : Json),
    Value.decodeRow schema (before ++ (column, raw) :: after) = do
      let first ← Value.decodeRow schema before
      let value ← (Value.decode raw tag).mapError (Error.cast column)
      let rest ← Value.decodeRow schema after
      return first ++ (column, value) :: rest

theorem decodesAs_typeOf (schema : Schema) (column : String) :
    schema.DecodesAs column (schema.typeOf column) := by
  intro before after raw
  rw [Value.decodeRow_eq_mapM, List.mapM_append, List.mapM_cons,
    ← Value.decodeRow_eq_mapM, ← Value.decodeRow_eq_mapM, Value.decodeColumn]
  cases Value.decodeRow schema before with
  | error e => rfl
  | ok first =>
    cases (Value.decode raw (schema.typeOf column)).mapError (Error.cast column) with
    | error e => rfl
    | ok value => cases Value.decodeRow schema after <;> rfl

/-- A column is decoded by one type, the one that the schema declares. -/
theorem decodesAs_iff : schema.DecodesAs column tag ↔ schema.typeOf column = tag := by
  constructor
  · intro h
    refine Value.tag_eq_of_decode fun raw => ?_
    have hsame := (decodesAs_typeOf schema column [] [] raw).symm.trans (h [] [] raw)
    cases hdeclared : Value.decode raw (schema.typeOf column) <;>
      cases hother : Value.decode raw tag <;> rw [hdeclared, hother] at hsame <;> cases hsame <;>
      rfl
  · rintro rfl
    exact decodesAs_typeOf schema column

end Schema

/-! ## Writing -/

namespace Target

variable {t : Target} {field rest : String}

/-- Whether the values of a field are cast to a type for every database, in a test and in
a payload, which takes scalars only. -/
structure CastsAs (t : Target) (field : String) (tag : TypeTag) : Prop where
  /-- The literal in a test. -/
  tested : ∀ (g : Generator) (value : Value),
    g.literal t field value = (value.cast g tag).mapError (Error.cast field)
  /-- The literal in a payload. -/
  written : ∀ (g : Generator) (value : Value), g.writtenLiteral t field value =
    if value.isScalar then (value.cast g tag).mapError (Error.cast field)
    else .error (.cast field (value.misfit tag))

theorem castsAs_typeOf (t : Target) (field : String) : t.CastsAs field (t.typeOf field) :=
  ⟨fun _ _ => rfl, fun _ _ => rfl⟩

/-- A field is cast to one type, which the refusal of a list names. -/
theorem castsAs_iff : t.CastsAs field tag ↔ t.typeOf field = tag := by
  constructor
  · intro h
    have hrefused := (castsAs_typeOf t field).written Dialect.plain.generator (.list [])
    rw [h.written] at hrefused
    cases hrefused
    rfl
  · rintro rfl
    exact castsAs_typeOf t field

/-- The name of the model and a dot before a field do not count. -/
theorem typeOf_qualified (t : Target) (rest : String) :
    t.typeOf (t.model.name ++ "." ++ rest) = t.schema.typeOf rest := by
  have hafter : Text.after? (t.model.name.toList ++ ['.'])
      (t.model.name ++ "." ++ rest).toList = some rest.toList := by
    rw [Text.after?_eq_some_iff]
    simp
  rw [typeOf, localName, hafter]
  exact congrArg t.schema.typeOf String.ofList_toList

/-- Any other field counts as it is. -/
theorem typeOf_of_forall_ne (h : ∀ rest, field ≠ t.model.name ++ "." ++ rest) :
    t.typeOf field = t.schema.typeOf field := by
  rw [typeOf, localName]
  cases hafter : Text.after? (t.model.name.toList ++ ['.']) field.toList with
  | none => rfl
  | some rest =>
    rw [Text.after?_eq_some_iff] at hafter
    refine absurd (String.toList_inj.mp ?_) (h (String.ofList rest))
    simpa using hafter

theorem typeOf_eq_iff (h : t.schema.typeOf field = tag) :
    t.typeOf field = tag ↔
      ∀ rest, field = t.model.name ++ "." ++ rest → t.schema.typeOf rest = tag := by
  constructor
  · rintro htag rest rfl
    rwa [typeOf_qualified] at htag
  · intro hrest
    by_cases hname : ∃ rest, field = t.model.name ++ "." ++ rest
    · obtain ⟨rest, rfl⟩ := hname
      rw [typeOf_qualified]
      exact hrest rest rfl
    · rw [typeOf_of_forall_ne (not_exists.mp hname), h]

/-- A declared field is decoded by its declared type.  It is written in that type exactly
if its name does not begin with that of the model and a dot, or the rest of the name has
the same type.  Otherwise it is written in the type of the rest. -/
theorem castsAs_declared_iff (h : Entries.find? field t.schema.fields = some tag) :
    t.schema.DecodesAs field tag ∧
    (t.CastsAs field tag ↔
      ∀ rest, field = t.model.name ++ "." ++ rest → t.schema.typeOf rest = tag) ∧
    ∀ rest, field = t.model.name ++ "." ++ rest → t.CastsAs field (t.schema.typeOf rest) := by
  have htag : t.schema.typeOf field = tag := by rw [Schema.typeOf, h, Option.getD_some]
  refine ⟨Schema.decodesAs_iff.mpr htag, castsAs_iff.trans (typeOf_eq_iff htag), ?_⟩
  rintro rest rfl
  exact castsAs_iff.mpr (t.typeOf_qualified rest)

/-- A model with a field whose name begins with that of the model. -/
def dottedPost (fields : Entries TypeTag) : Target :=
  ⟨⟨"Post", "posts", "id"⟩, ⟨("Post.id", .string) :: fields⟩⟩

theorem castsAs_declared_iff_dottedPost :
    Entries.find? "Post.id" (dottedPost [("id", .string)]).schema.fields = some .string ∧
    (dottedPost [("id", .string)]).schema.DecodesAs "Post.id" .string ∧
    (dottedPost [("id", .string)]).CastsAs "Post.id" .string := by
  have hfield : Entries.find? "Post.id" (dottedPost [("id", .string)]).schema.fields =
      some .string := rfl
  obtain ⟨hdecodes, hcasts, -⟩ := castsAs_declared_iff hfield
  refine ⟨hfield, hdecodes, hcasts.mpr fun rest hrest => ?_⟩
  have hid : "id" = rest := by
    have hname : "Post" ++ "." ++ "id" = "Post" ++ "." ++ rest := hrest
    rwa [String.append_right_inj] at hname
  rw [← hid]
  rfl

/-- Where the rest of the name is not declared, the field is written without its type, and
where it has another type, in that one. -/
theorem exists_not_castsAs_declared :
    Entries.find? "Post.id" (dottedPost []).schema.fields = some .string ∧
    Dialect.ansi.generator.literal (dottedPost []) "Post.id" (.string "1") = .ok "1" ∧
    Dialect.ansi.generator.literal (dottedPost [("id", .integer)]) "Post.id" (.string "x") =
      .error (.cast "Post.id" ⟨.integer, "'x'"⟩) ∧
    ¬∀ (t : Target) (field : String) (tag : TypeTag),
      Entries.find? field t.schema.fields = some tag →
        t.schema.DecodesAs field tag ∧ t.CastsAs field tag := by
  have hliteral : Dialect.ansi.generator.literal (dottedPost []) "Post.id" (.string "1") =
      .ok "1" := rfl
  refine ⟨rfl, hliteral, rfl, fun h => ?_⟩
  have hcasts := (h (dottedPost []) "Post.id" .string rfl).2
  have hstring : (Value.string "1").cast Dialect.ansi.generator .string = .ok "'1'" := rfl
  rw [hcasts.tested, hstring] at hliteral
  have hne : "'1'" ≠ "1" := by decide
  exact hne (Except.ok.inj hliteral)

end Target

end RelQuery
