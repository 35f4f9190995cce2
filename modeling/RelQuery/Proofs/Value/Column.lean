import RelQuery.Proofs.Binary64.Rounding
import RelQuery.Proofs.Outcome
import RelQuery.Proofs.Value.Decode

/-!
# Columns that are decoded again

A decoded value goes out as JSON and may come back as a column.  Three conversions
meet there: JSON becomes a value, the value takes the shape of its type, and a value
becomes JSON.

* A column holds a scalar, and a number that is not an integer of sixty-four bits is
  finite (`isColumn_ofColumn`).  Such a value is what its own JSON stands for
  (`ofColumn_toJson`).
* What a type makes of a column could be in a column as well (`IsColumn.coerce`).
  The one danger is a number that is not finite, which has no JSON, and neither an
  integer nor a text becomes one.
* A type keeps what it made (`coerce_coerce`).

So a decoded value, decoded again, is itself, and the same holds of every row and every
list of rows (`decode_toJson`).  This is about JSON values.  Between their texts it may
fail, since the reader of a document rounds twice and can miss the number that a long
numeral stands for.
-/

namespace RelQuery.Value

variable {v w : Value} {tag : TypeTag}

/-! ## What a column holds -/

/-- Whether a column of a row can hold a value. -/
def IsColumn : Value → Prop
  | float x => x.isFinite = true
  | list _ | query _ => False
  | _ => True

theorem isFinite_toBinary64 (n : Json.Number) : n.toBinary64.isFinite = true := by
  cases n with
  | integer n fits => exact Binary64.isFinite_ofInt_of_fits fits
  | decimal x finite => exact finite

theorem isColumn_ofColumn (raw : Json) : (ofColumn raw).IsColumn := by
  cases raw with
  | number n =>
    rw [ofColumn]
    cases n.toInt64? with
    | none => exact isFinite_toBinary64 n
    | some i => trivial
  | _ => trivial

/-- An integer is read off its own JSON. -/
theorem toInt64?_ofInt64 (n : Int64) : (Json.Number.ofInt64 n).toInt64? = some n := by
  have hlt := n.toInt_lt
  rw [Json.Number.ofInt64, Json.Number.toInt64?, if_pos (by omega), Int64.ofInt_toInt]

/-- A value that a column can hold is what its JSON stands for. -/
theorem ofColumn_toJson (h : v.IsColumn) : ofColumn v.toJson = v := by
  cases v with
  | int n => rw [toJson, ofColumn, toInt64?_ofInt64, Option.elim_some]
  | float x =>
    have hfinite : x.isFinite = true := h
    rw [toJson, dif_pos hfinite]
    rfl
  | list items => exact h.elim
  | query q => exact h.elim
  | _ => rfl

/-! ## What a type makes of a column -/

theorem IsColumn.of_hasType (ht : tag ≠ .float) (h : w.HasType tag) : w.IsColumn := by
  cases w with
  | float x => cases tag <;> first | exact absurd rfl ht | exact h.elim
  | list items => exact h.elim
  | query q => exact h.elim
  | _ => trivial

/-- A number with places is finite if it is made of what a column holds. -/
theorem IsColumn.toFloat? (hv : v.IsColumn) (h : v.toFloat? = some w) : w.IsColumn := by
  cases v with
  | float x =>
    cases h
    exact hv
  | int n =>
    cases h
    have hlow := n.le_toInt
    have hhigh := n.toInt_lt
    exact Binary64.isFinite_ofInt_of_fits ⟨by omega, by omega⟩
  | bool b =>
    cases h
    cases b <;> exact Binary64.isFinite_ofInt_of_fits (by decide)
  | string s =>
    rw [Value.toFloat?] at h
    split at h
    next x _ =>
      split at h
      next hfinite =>
        cases h
        exact hfinite
      next => cases h
    next => cases h
  | null => cases h
  | list items => cases h
  | query q => cases h

/-- What a type makes of what a column holds could be in a column as well. -/
theorem IsColumn.coerce (hv : v.IsColumn) (h : v.coerce tag = .ok w) : w.IsColumn := by
  obtain rfl | hfitted := eq_null_or_fitted?_of_coerce h
  · trivial
  · cases tag with
    | float => exact hv.toFloat? hfitted
    | untyped =>
      cases hfitted
      exact hv
    | _ => exact .of_hasType (by decide) (hasType_of_coerce (by decide) h)

/-- A value in the shape of a type keeps that shape. -/
theorem coerce_coerce (h : v.coerce tag = .ok w) : w.coerce tag = .ok w := by
  by_cases ht : tag = .untyped
  · subst ht
    cases w <;> rfl
  · exact coerce_of_hasType (hasType_of_coerce ht h)

/-- A decoded value is decoded from its JSON. -/
theorem decode_toJson_of_decode {raw : Json} (h : decode raw tag = .ok v) :
    decode v.toJson tag = .ok v := by
  have hcolumn : v.IsColumn := (isColumn_ofColumn raw).coerce h
  rw [decode, ofColumn_toJson hcolumn]
  exact coerce_coerce h

/-! ## Rows -/

variable {schema : Schema} {raw : RawRow} {row : Row}

/-- A column of a row, decoded by the type that the schema declares. -/
def decodeColumn (schema : Schema) (column : String × Json) : Except Error (String × Value) :=
  ((decode column.2 (schema.typeOf column.1)).mapError (Error.cast column.1)).map
    fun value => (column.1, value)

theorem decodeColumn_eq_ok_iff {column : String × Json} {entry : String × Value} :
    decodeColumn schema column = .ok entry ↔
      column.1 = entry.1 ∧ decode column.2 (schema.typeOf column.1) = .ok entry.2 := by
  simp only [decodeColumn, map_eq_ok_iff, mapError_eq_ok_iff, Prod.ext_iff]
  constructor
  · rintro ⟨value, hvalue, hname, rfl⟩
    exact ⟨hname, hvalue⟩
  · rintro ⟨hname, hvalue⟩
    exact ⟨entry.2, hvalue, hname, rfl⟩

/-- The columns of a row are decoded one by one. -/
theorem decodeRow_eq_mapM (schema : Schema) (raw : RawRow) :
    decodeRow schema raw = raw.mapM (decodeColumn schema) := by
  induction raw with
  | nil => rfl
  | cons column raw ih =>
    rw [List.mapM_cons, ← ih, decodeRow, decodeColumn]
    cases (decode column.2 (schema.typeOf column.1)).mapError (Error.cast column.1) <;> rfl

/-- The rows of a result are decoded one by one. -/
theorem decodeRows_eq_mapM (schema : Schema) (raws : List RawRow) :
    decodeRows schema raws = raws.mapM (decodeRow schema) := by
  induction raws with
  | nil => rfl
  | cons raw raws ih => rw [List.mapM_cons, ← ih, decodeRows]

/-- The columns as which a row is printed. -/
def printed (row : Row) : RawRow := row.map fun entry => (entry.1, entry.2.toJson)

theorem rowToJson_eq_object (row : Row) : rowToJson row = .object (printed row) := rfl

/-- A decoded row is decoded from its columns as they are printed. -/
theorem decodeRow_printed (h : decodeRow schema raw = .ok row) :
    decodeRow schema (printed row) = .ok row := by
  rw [decodeRow_eq_mapM] at h ⊢
  refine mapM_map_eq_ok (fun column entry hentry => ?_) h
  obtain ⟨hname, hvalue⟩ := decodeColumn_eq_ok_iff.mp hentry
  rw [hname] at hvalue
  exact decodeColumn_eq_ok_iff.mpr ⟨rfl, decode_toJson_of_decode hvalue⟩

/-- Decoding is stable under printing as JSON.  What a column of any type is decoded
into is decoded from its own JSON by the same type, and the rows of a result, printed
as objects, are decoded by the same schema into the same rows. -/
theorem decode_toJson :
    (∀ (raw : Json) (tag : TypeTag) (v : Value),
      decode raw tag = .ok v → decode v.toJson tag = .ok v) ∧
    ∀ (schema : Schema) (raws : List RawRow) (rows : List Row),
      decodeRows schema raws = .ok rows →
        ∃ prints : List RawRow, rows.map rowToJson = prints.map Json.object ∧
          decodeRows schema prints = .ok rows := by
  refine ⟨fun _ _ _ h => decode_toJson_of_decode h, fun schema raws rows h => ?_⟩
  refine ⟨rows.map printed, ?_, ?_⟩
  · rw [List.map_map]
    exact List.map_congr_left fun row _ => rowToJson_eq_object row
  · rw [decodeRows_eq_mapM] at h ⊢
    exact mapM_map_eq_ok (fun raw row hrow => decodeRow_printed hrow) h

/-- What is declared about the visits of a page. -/
def visitSchema : Schema :=
  ⟨[("count", .integer), ("open", .boolean), ("score", .float), ("marks", .string)]⟩

/-- A text for a number and one for a truth value, an array for a text, and an integer
of more than sixty-three bits without a type. -/
def visitColumns : List RawRow :=
  [[("count", .string " 42 "), ("open", .string "Yes"), ("marks", .array [.bool true, .null])],
    [("score", .number (.ofInt64 3)), ("size", .number (.integer 0xffffffffffffffff (by decide)))]]

/-- The rows that the columns are decoded into. -/
def visitRows : List Row :=
  [[("count", .int 42), ("open", .bool true), ("marks", .string "[true,null]")],
    [("score", .float (Binary64.ofInt 3)), ("size", .float (Binary64.ofInt 0xffffffffffffffff))]]

theorem decode_toJson_visits :
    decode (.string "Yes") .boolean = .ok (bool true) ∧
    decode (bool true).toJson .boolean = .ok (bool true) ∧
    decodeRows visitSchema visitColumns = .ok visitRows ∧
    ∃ prints : List RawRow, visitRows.map rowToJson = prints.map Json.object ∧
      decodeRows visitSchema prints = .ok visitRows :=
  ⟨rfl, decode_toJson.1 (.string "Yes") _ _ rfl, rfl, decode_toJson.2 _ visitColumns _ rfl⟩

end RelQuery.Value
