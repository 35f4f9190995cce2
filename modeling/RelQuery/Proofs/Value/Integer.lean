import RelQuery.Proofs.Value.Positional
import RelQuery.Query.Document

/-!
# Integers between documents, numbers and texts

An integer type holds sixty-four bits with a sign.  Two paths lead to it, or past it.

* A binary64 number is taken for the integer that it is (`Value.coerce_integer_of_float`).
  The range is tested on the magnitude, and `2 ^ 63` is out of it.  So no number out of range
  is taken, and the least integer, whose magnitude that is, is refused.
* A natural number of a document that does not fit becomes the number next to it
  (`Value.decode_cast_ofWhole`).  Only an integer type looks again and refuses it.  A string
  or an untyped field goes on with the number, and shows its shortest decimal.

To say that nothing is changed takes two notions: which integer a value stands for
(`Value.IsExactly`), and which one a literal stands for (`Dialect.integerOf?`).
-/

namespace RelQuery

namespace Value

open Binary64

/-! ## Numbers as integers -/

variable {x : Binary64} {w : Value}

theorem coerce_float_integer (x : Binary64) :
    (float x).coerce .integer =
      (x.toInt64?.map int).elim (.error ((float x).misfit .integer)) .ok := rfl

/-- An integer type takes a number exactly when the number is an integer of sixty-four bits,
and refuses the least of these. -/
theorem coerce_float_eq_ok_iff :
    (float x).coerce .integer = .ok w ↔
      ∃ n : Int64, w = int n ∧ x.IsInteger n.toInt ∧ n ≠ Int64.minValue := by
  rw [coerce_float_integer, elim_eq_ok_iff, Option.map_eq_some_iff]
  constructor
  · rintro ⟨n, hn, rfl⟩
    exact ⟨n, rfl, toInt64?_eq_some_iff.mp hn⟩
  · rintro ⟨n, rfl, hn⟩
    exact ⟨n, toInt64?_eq_some_iff.mpr hn, rfl⟩

/-- Any other number is refused. -/
theorem coerce_float_eq_error
    (h : ¬∃ n : Int64, x.IsInteger n.toInt ∧ n ≠ Int64.minValue) :
    (float x).coerce .integer = .error ((float x).misfit .integer) := by
  have hnone : x.toInt64? = none :=
    Option.eq_none_iff_forall_ne_some.mpr fun n hn => h ⟨n, toInt64?_eq_some_iff.mp hn⟩
  rw [coerce_float_integer, hnone, Option.map_none, Option.elim_none]

theorem coerce_float_of_isInteger {n : Int64} (h : x.IsInteger n.toInt) :
    (float x).coerce .integer =
      if n = Int64.minValue then .error ((float x).misfit .integer) else .ok (int n) := by
  split
  next hmin =>
    refine coerce_float_eq_error fun ⟨m, hm, hne⟩ => hne ?_
    rw [Int64.toInt_inj.mp (hm.unique h), hmin]
  next hmin => exact coerce_float_eq_ok_iff.mpr ⟨n, rfl, h, hmin⟩

/-- A number outside the range of the integers is refused. -/
theorem coerce_float_of_not_mem_range
    (h : x.signedUnits < Int64.minValue.toInt * unitsInOne ∨
      Int64.maxValue.toInt * unitsInOne < x.signedUnits) :
    (float x).coerce .integer = .error ((float x).misfit .integer) := by
  refine coerce_float_eq_error fun ⟨n, hn, _⟩ => ?_
  have hlow := Int.mul_le_mul_of_nonneg_right n.minValue_le_toInt (Int.natCast_nonneg unitsInOne)
  have hhigh := Int.mul_le_mul_of_nonneg_right n.toInt_le (Int.natCast_nonneg unitsInOne)
  rw [hn.2] at h
  exact h.elim (Int.not_lt.mpr hlow) (Int.not_lt.mpr hhigh)

/-- A float type makes of an integer the number next to it. -/
theorem coerce_int_float (n : Int64) : (int n).coerce .float = .ok (float (ofInt n.toInt)) := rfl

/-- What an integer type makes of numbers.  An integer that some number is comes back from
the number next to it, except the least, which is refused.  A number is taken exactly when
it is an integer of sixty-four bits other than the least, so no number out of range is. -/
theorem coerce_integer_of_float (n : Int64) (x : Binary64) :
    ((∃ y : Binary64, y.IsInteger n.toInt) →
      ((int n).coerce .float >>= fun v => v.coerce .integer) =
        if n = Int64.minValue then .error ((float (ofInt n.toInt)).misfit .integer)
        else .ok (int n)) ∧
    (∀ w, (float x).coerce .integer = .ok w ↔
      ∃ m : Int64, w = int m ∧ x.IsInteger m.toInt ∧ m ≠ Int64.minValue) ∧
    (x.isFinite = true →
      x.signedUnits < Int64.minValue.toInt * unitsInOne ∨
        Int64.maxValue.toInt * unitsInOne < x.signedUnits →
      (float x).coerce .integer = .error ((float x).misfit .integer)) := by
  refine ⟨fun ⟨y, hy⟩ => ?_, fun w => coerce_float_eq_ok_iff,
    fun _ hx => coerce_float_of_not_mem_range hx⟩
  have hbind : ∀ y : Binary64, ((.ok (float y) : Except CastError Value) >>=
      fun v => v.coerce .integer) = (float y).coerce .integer := fun _ => rfl
  rw [coerce_int_float, hbind]
  exact coerce_float_of_isInteger (isInteger_ofInt hy)

theorem coerce_integer_of_float_ends :
    (ofInt (-0x8000000000000000)).IsInteger Int64.minValue.toInt ∧
    ((int Int64.minValue).coerce .float >>= fun v => v.coerce .integer) =
      .error ⟨.integer, "-9223372036854776000"⟩ ∧
    (ofInt 0x7ffffffffffffc00).IsInteger (0x7ffffffffffffc00 : Int64).toInt ∧
    ((int 0x7ffffffffffffc00).coerce .float >>= fun v => v.coerce .integer) =
      .ok (int 0x7ffffffffffffc00) ∧
    Int64.maxValue.toInt * unitsInOne < (ofInt 0x8000000000000000).signedUnits ∧
    (float (ofInt 0x8000000000000000)).coerce .integer =
      .error ⟨.integer, "9223372036854776000"⟩ := by
  have hleast : (ofInt (-0x8000000000000000)).IsInteger Int64.minValue.toInt :=
    ⟨by decide +kernel, by decide +kernel⟩
  have hgreat : (ofInt 0x7ffffffffffffc00).IsInteger (0x7ffffffffffffc00 : Int64).toInt :=
    ⟨by decide +kernel, by decide +kernel⟩
  have hrange : Int64.maxValue.toInt * unitsInOne < (ofInt 0x8000000000000000).signedUnits := by
    decide +kernel
  have hlow : (ofInt Int64.minValue.toInt).toText = "-9223372036854776000" := by decide +kernel
  have hhigh : (ofInt 0x8000000000000000).toText = "9223372036854776000" := by decide +kernel
  have hout := coerce_integer_of_float Int64.minValue (ofInt 0x8000000000000000)
  have hin := coerce_integer_of_float 0x7ffffffffffffc00 (ofInt 0x8000000000000000)
  refine ⟨hleast, (hout.1 ⟨_, hleast⟩).trans ?_, hgreat, (hin.1 ⟨_, hgreat⟩).trans ?_, hrange,
    (hout.2.2 (by decide +kernel) (.inr hrange)).trans ?_⟩
  · rw [if_pos rfl, misfit, display, hlow]
  · rw [if_neg (by decide)]
  · rw [misfit, display, hhigh]

/-- The least integer is a number, and yet does not come back. -/
theorem exists_coerce_integer_of_float_ne :
    (ofInt (-0x8000000000000000)).IsInteger Int64.minValue.toInt ∧
    (int Int64.minValue).coerce .float = .ok (float (ofInt (-0x8000000000000000))) ∧
    (float (ofInt (-0x8000000000000000))).coerce .integer =
      .error ⟨.integer, "-9223372036854776000"⟩ ∧
    ¬∀ n : Int64, (∃ x : Binary64, x.IsInteger n.toInt) →
      ((int n).coerce .float >>= fun v => v.coerce .integer) = .ok (int n) := by
  have hleast : (ofInt (-0x8000000000000000)).IsInteger Int64.minValue.toInt :=
    ⟨by decide +kernel, by decide +kernel⟩
  have htext : (ofInt (-0x8000000000000000)).toText = "-9223372036854776000" := by decide +kernel
  have hcoerce : (int Int64.minValue).coerce .float =
      .ok (float (ofInt (-0x8000000000000000))) := coerce_int_float Int64.minValue
  have herror : (float (ofInt (-0x8000000000000000))).coerce .integer =
      .error ⟨.integer, "-9223372036854776000"⟩ := by
    rw [coerce_float_of_isInteger hleast, if_pos rfl, misfit, display, htext]
  refine ⟨hleast, hcoerce, herror, fun h => ?_⟩
  obtain ⟨v, hv, hback⟩ := bind_eq_ok_iff.mp (h Int64.minValue ⟨_, hleast⟩)
  rw [← Except.ok.inj (hcoerce.symm.trans hv), herror] at hback
  cases hback

end Value

/-! ## Integers that are denoted -/

/-- The integer that a literal of a dialect stands for: the one that its characters spell,
or the characters of its string. -/
def Dialect.integerOf? (d : Dialect) (cs : List Char) : Option Int :=
  match d.readString? cs with
  | some (s, []) => Text.readInteger? s
  | _ => Text.readInteger? cs

theorem Dialect.integerOf?_stringLiteral (d : Dialect) (s : String) :
    d.integerOf? (d.generator.stringLiteral s).toList = Text.readInteger? s.toList := by
  have hread : d.readString? ((d.generator.stringLiteral s).toList ++ []) = some (s.toList, []) :=
    d.readString?_stringLiteral s (by simp)
  rw [List.append_nil] at hread
  rw [integerOf?, hread]

theorem Dialect.integerOf?_integerText (d : Dialect) (n : Int) :
    d.integerOf? (Text.integerText n).toList = some n := by
  have hread : d.readString? (Text.integerText n).toList = none := by
    obtain ⟨c, rest, hchars, hc⟩ := (Literal.isNumber_integerText n).1.head
    rw [hchars, readString?]
    rintro cs ⟨⟩
    rcases hc with hc | hc <;> cases hc
  rw [integerOf?, hread]
  exact Literal.readInteger?_integerText n

namespace Value

open Binary64

/-- Whether a value stands for an integer and for no other number. -/
def IsExactly : Value → Int → Prop
  | int i, n => i.toInt = n
  | float x, n => x.IsInteger n
  | string s, n => Text.readInteger? s.toList = some n
  | _, _ => False

variable {n : Nat} {tag : TypeTag} {g : Generator}

/-- An integer of sixty-four bits is decoded and written as it is. -/
theorem exact_int (d : Dialect) (i : Int64)
    (ht : tag = .integer ∨ tag = .string ∨ tag = .untyped) :
    ∃ w text, (int i).coerce tag = .ok w ∧ w.IsExactly i.toInt ∧
      (int i).cast d.generator tag = .ok text ∧ d.integerOf? text.toList = some i.toInt := by
  have hread := Literal.readInteger?_integerText i.toInt
  have hdigits := d.integerOf?_integerText i.toInt
  obtain rfl | rfl | rfl := ht
  · exact ⟨int i, _, rfl, rfl, cast_of_shaped rfl rfl rfl, hdigits⟩
  · refine ⟨string (Text.integerText i.toInt), _, rfl, hread, cast_of_shaped rfl rfl rfl, ?_⟩
    rw [← hread]
    exact d.integerOf?_stringLiteral _
  · exact ⟨int i, _, rfl, rfl, cast_of_shaped rfl rfl rfl, hdigits⟩

/-! ## Natural numbers of a document -/

section Great

variable (hlow : 2 ^ 63 ≤ n) (hhigh : n < 2 ^ 64)
include hlow hhigh

theorem isFinite_ofInt_of_lt : (ofInt n).isFinite = true :=
  isFinite_ofInt_of_fits ⟨by omega, by omega⟩

/-- An integer type refuses the number next to a natural number that does not fit. -/
theorem coerce_float_ofInt_ne_ok (w : Value) : (float (ofInt n)).coerce .integer ≠ .ok w := by
  intro h
  obtain ⟨i, -, hi, hne⟩ := coerce_float_eq_ok_iff.mp h
  have hunits := le_units_ofInt (by rw [Int.natAbs_natCast]; exact hlow)
    (isFinite_ofInt_of_lt hlow hhigh)
  rw [hi.units_eq] at hunits
  have habs := Nat.le_of_mul_le_mul_right hunits unitsInOne_pos
  have hleast := i.le_toInt
  have hgreatest := i.toInt_lt
  exact hne (Int64.toInt_inj.mp (by rw [Int64.toInt_minValue]; omega))

theorem cast_float_ofInt_ne_ok (text : String) :
    (float (ofInt n)).cast g .integer ≠ .ok text := by
  rw [Ne, cast_eq_ok_iff rfl]
  rintro ⟨piece, hpiece, -⟩
  obtain ⟨shape, hshape, -⟩ := scalarLiteral_eq_ok_iff.mp hpiece
  exact coerce_float_ofInt_ne_ok hlow hhigh shape hshape

/-- The other types take it.  An untyped field takes the number itself, and all else is the
natural number that its shortest decimal is. -/
theorem exact_float_ofInt (d : Dialect) (ht : tag = .string ∨ tag = .untyped) :
    ∃ w text, (float (ofInt n)).coerce tag = .ok w ∧
      (float (ofInt n)).cast d.generator tag = .ok text ∧
      (w.IsExactly n ↔ tag = .untyped ∧ 2 ^ 11 ∣ n ∨
        tag = .string ∧ (shortest .up (ofInt n)).IsNatural n) ∧
      (d.integerOf? text.toList = some (n : Int) ↔ (shortest .up (ofInt n)).IsNatural n) := by
  have hfinite := isFinite_ofInt_of_lt hlow hhigh
  obtain ⟨y, htext, hnatural⟩ := exists_toText_ofInt (by omega) hfinite
  have hsame : some (y : Int) = some (n : Int) ↔ (shortest .up (ofInt n)).IsNatural n := by
    rw [Option.some.injEq, Int.natCast_inj, hnatural]
    exact eq_comm
  have hread := Literal.readInteger?_integerText y
  rcases ht with rfl | rfl
  · have hstring : (float (ofInt n)).coerce .string = .ok (string (Text.integerText y)) :=
      congrArg (fun text => Except.ok (string text)) htext
    refine ⟨_, _, hstring, cast_of_shaped rfl hstring rfl, ?_, ?_⟩
    · rw [IsExactly, hread, hsame]
      simp
    · rw [← hsame, ← hread]
      exact iff_of_eq (congrArg (· = _) (d.integerOf?_stringLiteral _))
  · have hpiece := scalarPiece_float hfinite .untyped
    rw [htext] at hpiece
    have hlog : n.log2 = 52 + 11 := (Nat.log2_eq_iff (by omega)).mpr ⟨by omega, by omega⟩
    refine ⟨_, _, rfl, cast_of_shaped rfl rfl hpiece, ?_, ?_⟩
    · rw [IsExactly, isInteger_ofInt_iff_dvd hlog hfinite]
      simp
    · rw [← hsame]
      exact iff_of_eq (congrArg (· = _) (d.integerOf?_integerText y))

end Great

theorem exists_ofColumn_eq_int (hn : n < 2 ^ 63)
    (hfits : -0x8000000000000000 ≤ (n : Int) ∧ (n : Int) < 0x10000000000000000) :
    ∃ i : Int64, ofColumn (.number (.integer n hfits)) = int i ∧ i.toInt = n := by
  refine ⟨Int64.ofInt n, ?_, Int64.toInt_ofInt_of_le (by omega) (by omega)⟩
  rw [ofColumn, Json.Number.toInt64?, if_pos (by omega), Option.elim_some]

theorem ofColumn_eq_float (hn : 2 ^ 63 ≤ n)
    (hfits : -0x8000000000000000 ≤ (n : Int) ∧ (n : Int) < 0x10000000000000000) :
    ofColumn (.number (.integer n hfits)) = float (ofInt n) := by
  rw [ofColumn, Json.Number.toInt64?, if_neg (by omega), Option.elim_none]
  rfl

/-- What becomes of a natural number of sixty-four bits in a document or a row.

* Below `2 ^ 63` it is decoded and written as it is.
* From there on an integer type refuses it, and the other types take the number next to it.
  An untyped field decodes that number exactly where it is the natural number, which is for
  multiples of `2 ^ 11`.  Everything else shows the shortest decimal of that number, which is
  the natural number for some multiples of a thousand and for no others. -/
theorem decode_cast_ofWhole (d : Dialect) (hn : n < 2 ^ 64)
    (ht : tag = .integer ∨ tag = .string ∨ tag = .untyped) :
    ∃ (number : Json.Number) (v : Value), Json.Number.ofWhole? false n = some number ∧
      ofJson (.number number) = .ok v ∧
      ((∀ w, decode (.number number) tag = .ok w → w.IsExactly n) ↔
        n < 2 ^ 63 ∨ tag = .integer ∨ tag = .untyped ∧ 2 ^ 11 ∣ n ∨
          tag = .string ∧ (shortest .up (ofInt n)).IsNatural n) ∧
      ((∀ text, v.cast d.generator tag = .ok text → d.integerOf? text.toList = some (n : Int)) ↔
        n < 2 ^ 63 ∨ tag = .integer ∨ (shortest .up (ofInt n)).IsNatural n) ∧
      ((∃ w, decode (.number number) tag = .ok w) ↔ n < 2 ^ 63 ∨ tag ≠ .integer) ∧
      ((∃ text, v.cast d.generator tag = .ok text) ↔ n < 2 ^ 63 ∨ tag ≠ .integer) ∧
      (2 ^ 63 ≤ n → (shortest .up (ofInt n)).IsNatural n → 1000 ∣ n) := by
  have hfits : -0x8000000000000000 ≤ (n : Int) ∧ (n : Int) < 0x10000000000000000 :=
    ⟨by omega, by omega⟩
  refine ⟨.integer n hfits, ofColumn (.number (.integer n hfits)), ?_, rfl, ?_⟩
  · rw [Json.Number.ofWhole?, if_neg Bool.false_ne_true, dif_pos (by omega)]
  have hshort : 2 ^ 63 ≤ n → (shortest .up (ofInt n)).IsNatural n → 1000 ∣ n :=
    fun hlow => thousand_dvd_of_isNatural_shortest hlow hn
  by_cases hsmall : n < 2 ^ 63
  · obtain ⟨i, hcolumn, hvalue⟩ := exists_ofColumn_eq_int hsmall hfits
    obtain ⟨w, text, hw, hexact, htext, hdigits⟩ := exact_int d i ht
    rw [hvalue] at hexact hdigits
    rw [decode, hcolumn, hw, htext]
    refine ⟨iff_of_true ?_ (.inl hsmall), iff_of_true ?_ (.inl hsmall),
      iff_of_true ⟨w, rfl⟩ (.inl hsmall), iff_of_true ⟨text, rfl⟩ (.inl hsmall),
      fun hle => absurd hsmall (Nat.not_lt.mpr hle)⟩
    · rintro _ ⟨⟩
      exact hexact
    · rintro _ ⟨⟩
      exact hdigits
  · have hlow : 2 ^ 63 ≤ n := Nat.not_lt.mp hsmall
    rw [decode, ofColumn_eq_float hlow hfits]
    obtain rfl | ht := ht
    · have hdecode := coerce_float_ofInt_ne_ok hlow hn
      have hcast : ∀ text, (float (ofInt n)).cast d.generator .integer ≠ .ok text :=
        cast_float_ofInt_ne_ok hlow hn
      refine ⟨iff_of_true (fun w hw => absurd hw (hdecode w)) (.inr (.inl rfl)),
        iff_of_true (fun text htext => absurd htext (hcast text)) (.inr (.inl rfl)),
        iff_of_false (fun ⟨w, hw⟩ => hdecode w hw) ?_,
        iff_of_false (fun ⟨text, htext⟩ => hcast text htext) ?_, hshort⟩
      · exact not_or.mpr ⟨hsmall, fun hne => hne rfl⟩
      · exact not_or.mpr ⟨hsmall, fun hne => hne rfl⟩
    · have hne : tag ≠ .integer := by rcases ht with rfl | rfl <;> decide
      obtain ⟨w, text, hw, htext, hexact, hdigits⟩ := exact_float_ofInt hlow hn d ht
      rw [hw, htext]
      simp only [Except.ok.injEq, forall_eq', hexact, hdigits, hsmall, hne, false_or]
      exact ⟨trivial, trivial, iff_of_true ⟨w, rfl⟩ hne, iff_of_true ⟨text, rfl⟩ hne,
        hshort⟩

theorem decode_cast_ofWhole_untyped :
    9223372036854775808 < 2 ^ 64 ∧
    ∃ (number : Json.Number) (v : Value),
      Json.Number.ofWhole? false 9223372036854775808 = some number ∧
      ofJson (.number number) = .ok v ∧
      (∃ w, decode (.number number) .untyped = .ok w) ∧
      (∀ w, decode (.number number) .untyped = .ok w → w.IsExactly 9223372036854775808) ∧
      (∃ text, v.cast Dialect.ansi.generator .untyped = .ok text) ∧
      ¬∀ text, v.cast Dialect.ansi.generator .untyped = .ok text →
        Dialect.ansi.integerOf? text.toList = some 9223372036854775808 := by
  obtain ⟨number, v, hnumber, hv, hexact, hdigits, hdecode, hcast, hshort⟩ :=
    decode_cast_ofWhole .ansi (n := 9223372036854775808) (by decide) (.inr (.inr rfl))
  refine ⟨by decide, number, v, hnumber, hv, hdecode.mpr (.inr (by decide)),
    hexact.mpr (.inr (.inr (.inl ⟨rfl, by decide⟩))), hcast.mpr (.inr (by decide)), ?_⟩
  intro htext
  obtain hsmall | htag | hnatural := hdigits.mp htext
  · exact absurd hsmall (by decide)
  · cases htag
  · exact absurd (hshort (Nat.le_refl _) hnatural) (by decide)

/-- A natural number beyond the integers of sixty-four bits is changed. -/
theorem exists_decode_cast_ofWhole_ne :
    ∃ (number : Json.Number) (v : Value),
      Json.Number.ofWhole? false 9223372036854775809 = some number ∧
      ofJson (.number number) = .ok v ∧
      decode (.number number) .string = .ok (string "9223372036854776000") ∧
      v.cast Dialect.ansi.generator .untyped = .ok "9223372036854776000" ∧
      ¬∀ n < 2 ^ 64, ∀ tag, tag = .integer ∨ tag = .string ∨ tag = .untyped →
        ∀ number v, Json.Number.ofWhole? false n = some number →
          ofJson (.number number) = .ok v →
          (∀ w, decode (.number number) tag = .ok w → w.IsExactly n) ∧
          ∀ (d : Dialect) (text : String), v.cast d.generator tag = .ok text →
            d.integerOf? text.toList = some (n : Int) := by
  have htext : (ofInt 9223372036854775809).toText = "9223372036854776000" := by decide +kernel
  have hfinite : (ofInt 9223372036854775809).isFinite = true := by decide +kernel
  have hstring : decode (.number (.integer 9223372036854775809 (by decide))) .string =
      .ok (string "9223372036854776000") :=
    congrArg (fun text => Except.ok (string text)) htext
  have hcast : (float (ofInt 9223372036854775809)).cast Dialect.ansi.generator .untyped =
      .ok "9223372036854776000" := by
    have hpiece := scalarPiece_float hfinite .untyped
    rw [htext] at hpiece
    exact cast_of_shaped rfl rfl hpiece
  refine ⟨.integer 9223372036854775809 (by decide), float (ofInt 9223372036854775809), rfl, rfl,
    hstring, hcast, fun h => ?_⟩
  have hexact := (h 9223372036854775809 (by decide) .string (.inr (.inl rfl)) _ _ rfl rfl).1 _
    hstring
  have hread : Text.readInteger? "9223372036854776000".toList = some 9223372036854776000 := by
    decide +kernel
  exact absurd (hread.symm.trans hexact) (by decide)

end Value

end RelQuery
