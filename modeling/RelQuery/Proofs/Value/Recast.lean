import RelQuery.Proofs.Value.Positional

/-!
# Untyped literals that are read and written again

A text in an untyped field is written as the number that it spells or as a string, and the
reader of literals gives back a number or a string.  Written again in an untyped field, the
value gives the same literal with two exceptions (`Value.recast_untyped`).

* Minus zero is written `-0`, and that is read as the integer zero.
* A number with places that is an integer is written without a point.  From `2 ^ 63` on the
  digits are out of range, so they are read as a string, and a string is written in quotes.

Integers come back as they are, and so do numbers whose text has a point.
-/

namespace RelQuery

namespace Binary64

variable {x : Binary64} {z y : Int}

/-- The digits of an integer fit sixty-four bits where the integer lies between the ends.
At the ends themselves they are beyond. -/
theorem mem_range_of_toText_iff (hx : x.IsInteger z) (hz : z ≠ 0)
    (htext : x.toText = Text.integerText y) (hy : ofInt y = x) :
    -0x8000000000000000 ≤ y ∧ y < 0x8000000000000000 ↔ -2 ^ 63 < z ∧ z < 2 ^ 63 := by
  have hunits := hx.units_eq
  have hfinite : (ofInt y).isFinite = true := by rw [hy]; exact hx.1
  constructor
  · intro hrange
    -- The digits of both ends are known, and out of range.
    have hdigits : ∀ e w : Int, ofInt e = x → (ofInt e).toText = Text.integerText w → y = w := by
      intro e w he hw
      rw [he, htext] at hw
      exact Literal.integerText_inj hw
    have hleast : ofInt (-2 ^ 63) = x → y = -9223372036854776000 :=
      fun he => hdigits _ _ he (by decide +kernel)
    have hmost : ofInt (2 ^ 63) = x → y = 9223372036854776000 :=
      fun he => hdigits _ _ he (by decide +kernel)
    have hne : y ≠ -2 ^ 63 := by
      rintro rfl
      exact absurd (hleast hy) (by decide)
    have hle := units_ofInt_le (k := 63) (z := y) (by omega) hfinite
    rw [hy, hunits] at hle
    have habs := Nat.le_of_mul_le_mul_right hle unitsInOne_pos
    have hz := ofInt_of_isInteger hx hz
    by_contra hout
    obtain rfl | rfl : z = -2 ^ 63 ∨ z = 2 ^ 63 := by omega
    · have hy := hleast hz
      omega
    · have hy := hmost hz
      omega
  · intro hrange
    by_contra hout
    have hgreat := le_units_ofInt (k := 63) (z := y) (by omega) hfinite
    rw [hy, hunits] at hgreat
    have habs := Nat.le_of_mul_le_mul_right hgreat unitsInOne_pos
    omega

end Binary64

namespace Value

variable {g : Generator} {text : String} {l : Literal} {x : Binary64}

theorem decodeLiteral_untyped (h : Literal.ofText? text = some l) :
    decodeLiteral text .untyped = .ok l.toValue := by
  rw [decodeLiteral, h]
  cases l <;> rfl

theorem cast_int_untyped (n : Int64) :
    (int n).cast g .untyped = .ok (Text.integerText n.toInt) := by
  have hpiece : (int n).scalarPiece .untyped = .ok (.text (Text.integerText n.toInt)) := rfl
  exact cast_of_shaped rfl rfl hpiece

/-- A string in quotes is longer than the string. -/
theorem quotedString_ne (s : String) : quotedString s ≠ s := by
  intro h
  have hlength := congrArg (fun s => s.toList.length) h
  simp only [quotedString, delimited, String.toList_ofList, List.length_append, List.length_cons,
    length_doubled] at hlength
  omega

/-- The zeros are both read as the integer zero, which is written without a sign. -/
theorem recast_zero (negative : Bool) :
    Literal.ofText? (Binary64.zero negative).toText = some (.int 0) ∧
      ((int 0).cast g .untyped = .ok (Binary64.zero negative).toText ↔ negative = false) := by
  rw [cast_int_untyped]
  cases negative with
  | false => exact ⟨by decide +kernel, iff_of_true (by decide +kernel) rfl⟩
  | true => exact ⟨by decide +kernel, iff_of_false (by decide +kernel) (by decide)⟩

/-- The text of an integer is read as an integer in range and as a string out of it, and a
string is written in quotes. -/
theorem recast_integerText (hg : g.stringLiteral = quotedString) (y : Int) :
    ∃ l, Literal.ofText? (Text.integerText y) = some l ∧
      (l.toValue.cast g .untyped = .ok (Text.integerText y) ↔
        -0x8000000000000000 ≤ y ∧ y < 0x8000000000000000) := by
  obtain ⟨hnumber, hread⟩ := Literal.isNumber_integerText y
  refine ⟨_, Literal.ofText?_of_isNumber hnumber, ?_⟩
  by_cases hfits : -0x8000000000000000 ≤ y ∧ y < 0x8000000000000000
  · have hvalue : (Int64.ofInt y).toInt = y := Int64.toInt_ofInt_of_le hfits.1 hfits.2
    have hcast := cast_int_untyped (g := g) (Int64.ofInt y)
    rw [hvalue] at hcast
    rw [hread, Text.toInt64?, if_pos hfits]
    exact iff_of_true hcast hfits
  · rw [Text.toInt64?, if_neg hfits] at hread
    have hcast := cast_untyped_of_ofNumber?_none g
      ((Literal.ofNumber?_of_isNumber hnumber).trans hread)
    rw [hg] at hcast
    rw [hread]
    exact iff_of_false (fun h => quotedString_ne _ (Except.ok.inj (hcast.symm.trans h))) hfits

/-- What is read from the text of a number, and what it is written as in turn. -/
theorem recast_float (hg : g.stringLiteral = quotedString) (hfinite : x.isFinite = true) :
    ∃ l, Literal.ofText? x.toText = some l ∧
      (l.toValue.cast g .untyped = .ok x.toText ↔
        x ≠ Binary64.zero true ∧ ∀ z, x.IsInteger z → -2 ^ 63 < z ∧ z < 2 ^ 63) := by
  have hzero : (Binary64.zero true).IsInteger 0 := ⟨rfl, by decide +kernel⟩
  by_cases hinteger : ∃ z, x.IsInteger z
  · obtain ⟨z, hz⟩ := hinteger
    have hall : (∀ w, x.IsInteger w → -2 ^ 63 < w ∧ w < 2 ^ 63) ↔ -2 ^ 63 < z ∧ z < 2 ^ 63 :=
      ⟨fun h => h z hz, fun h w hw => hw.unique hz ▸ h⟩
    rw [hall]
    by_cases hne : z = 0
    · subst hne
      obtain ⟨negative, rfl⟩ := Binary64.exists_eq_zero hz
      obtain ⟨hread, hrecast⟩ := recast_zero (g := g) negative
      refine ⟨.int 0, hread, hrecast.trans ?_⟩
      cases negative with
      | false => exact iff_of_true rfl ⟨by decide, by decide, by decide⟩
      | true => exact iff_of_false (by decide) fun h => h.1 rfl
    · obtain ⟨y, htext, hy⟩ := Binary64.exists_toText_eq hz hne
      have hminus : x ≠ Binary64.zero true := fun h => hne (hz.unique (h ▸ hzero))
      rw [htext, and_iff_right hminus, ← Binary64.mem_range_of_toText_iff hz hne htext hy]
      exact recast_integerText hg y
  · obtain ⟨hnumber, hread⟩ := Binary64.inRange?_toText hfinite hinteger
    have hliteral := Literal.ofText?_of_isNumber hnumber
    rw [hread] at hliteral
    have hcast : (float x).cast g .untyped = .ok x.toText :=
      cast_of_shaped rfl rfl (scalarPiece_float hfinite .untyped)
    refine ⟨.float x, hliteral, iff_of_true hcast ⟨?_, fun z hz => absurd ⟨z, hz⟩ hinteger⟩⟩
    rintro rfl
    exact hinteger ⟨0, hzero⟩

/-- A text in an untyped field is written as a literal, and the literal is read.  What is read
is written as the same literal, unless the text spells minus zero with places, or with places
an integer whose magnitude is at least `2 ^ 63`. -/
theorem recast_untyped (hg : g.stringLiteral = quotedString) (s : String) :
    ∃ text v, (string s).cast g .untyped = .ok text ∧ decodeLiteral text .untyped = .ok v ∧
      (v.cast g .untyped = .ok text ↔ ∀ x : Binary64, Literal.ofNumber? s = some (.float x) →
        x ≠ Binary64.zero true ∧ ∀ z, x.IsInteger z → -2 ^ 63 < z ∧ z < 2 ^ 63) := by
  obtain hn | ⟨n, hn⟩ | ⟨x, hn, hfinite⟩ := Literal.ofNumber?_cases s
  · have hcast := cast_untyped_of_ofNumber?_none g hn
    have hread := Literal.ofText?_quotedString s
    rw [← hg] at hread
    refine ⟨_, _, hcast, decodeLiteral_untyped hread, iff_of_true hcast ?_⟩
    rw [hn]
    nofun
  · refine ⟨_, _, cast_untyped_of_ofNumber?_int g hn,
      decodeLiteral_untyped (Literal.ofText?_integerText n), iff_of_true (cast_int_untyped n) ?_⟩
    rw [hn]
    nofun
  · obtain ⟨l, hread, hrecast⟩ := recast_float hg hfinite
    refine ⟨_, _, cast_untyped_of_ofNumber?_float g hn hfinite, decodeLiteral_untyped hread, ?_⟩
    rw [hrecast, hn]
    constructor
    · rintro h _ ⟨⟩
      exact h
    · intro h
      exact h x rfl

theorem recast_untyped_places :
    Dialect.sqlServer.generator.stringLiteral = quotedString ∧
    ∃ text v, (string "-12.50").cast Dialect.sqlServer.generator .untyped = .ok text ∧
      decodeLiteral text .untyped = .ok v ∧
      v.cast Dialect.sqlServer.generator .untyped = .ok text := by
  have hg : Dialect.sqlServer.generator.stringLiteral = quotedString := rfl
  have hread : Literal.ofNumber? "-12.50" = some (.float (Binary64.ofDecimal true 1250 (-2))) := by
    decide +kernel
  have hplaces : ¬∃ z, (Binary64.ofDecimal true 1250 (-2)).IsInteger z := by
    rw [Binary64.exists_isInteger_iff (by decide +kernel)]
    decide +kernel
  obtain ⟨text, v, htext, hv, hrecast⟩ := recast_untyped hg "-12.50"
  refine ⟨hg, text, v, htext, hv, hrecast.mpr fun x hx => ?_⟩
  rw [← Literal.float.inj (Option.some.inj (hread.symm.trans hx))]
  exact ⟨by decide +kernel, fun z hz => absurd ⟨z, hz⟩ hplaces⟩

/-- Minus zero does not survive, and neither does an integer of twenty digits. -/
theorem exists_recast_untyped_ne :
    (string "-0.0").cast Dialect.ansi.generator .untyped = .ok "-0" ∧
    decodeLiteral "-0" .untyped = .ok (int 0) ∧
    (int 0).cast Dialect.ansi.generator .untyped = .ok "0" ∧
    (string "10000000000000000000.0").cast Dialect.ansi.generator .untyped =
      .ok "10000000000000000000" ∧
    decodeLiteral "10000000000000000000" .untyped = .ok (string "10000000000000000000") ∧
    (string "10000000000000000000").cast Dialect.ansi.generator .untyped =
      .ok "'10000000000000000000'" ∧
    ¬∀ (g : Generator) (s text : String), g.stringLiteral = quotedString →
      (string s).cast g .untyped = .ok text →
      ∃ v, decodeLiteral text .untyped = .ok v ∧ v.cast g .untyped = .ok text := by
  have hzero : Literal.ofNumber? "-0.0" = some (.float (Binary64.zero true)) := by decide +kernel
  have hzeroText : (Binary64.zero true).toText = "-0" := by decide +kernel
  have hgreat : Literal.ofNumber? "10000000000000000000.0" =
      some (.float (Binary64.ofInt 10000000000000000000)) := by decide +kernel
  have hgreatText : (Binary64.ofInt 10000000000000000000).toText = "10000000000000000000" := by
    decide +kernel
  have hcast : (string "-0.0").cast Dialect.ansi.generator .untyped = .ok "-0" :=
    hzeroText ▸ cast_untyped_of_ofNumber?_float _ hzero rfl
  have hdecode : decodeLiteral "-0" .untyped = .ok (int 0) :=
    decodeLiteral_untyped (by decide +kernel : Literal.ofText? "-0" = some (.int 0))
  have hrecast : (int 0).cast Dialect.ansi.generator .untyped = .ok "0" := cast_int_untyped 0
  refine ⟨hcast, hdecode, hrecast, ?_, ?_, ?_, fun h => ?_⟩
  · exact hgreatText ▸ cast_untyped_of_ofNumber?_float _ hgreat (by decide +kernel)
  · exact decodeLiteral_untyped (l := .string "10000000000000000000") (by decide +kernel)
  · exact cast_untyped_of_ofNumber?_none _ (by decide +kernel)
  · obtain ⟨v, hv, htext⟩ := h _ _ _ rfl hcast
    rw [← Except.ok.inj (hdecode.symm.trans hv), hrecast] at htext
    exact absurd htext (by decide)

end Value

end RelQuery
