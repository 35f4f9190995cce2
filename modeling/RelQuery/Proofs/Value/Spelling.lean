import Mathlib.Data.List.Forall2
import RelQuery.Proofs.Binary64.Numeral
import RelQuery.Proofs.Text.Case
import RelQuery.Value.Literal

/-!
# The spellings of literals

What a literal is, apart from the reader: a relation between the characters of a text
and the literal they spell (`Literal.Spells`).

* The word `NULL` in any case spells null.
* Characters between single quotes spell a string.  They are a sequence of characters
  that are no quote and of pairs of quotes, and a pair stands for one (`Quotes`).
* A number is a minus if any, digits without a leading zero, and a point with digits
  after it if any (`IsNumber`).  It spells the integer or the binary64 number that it
  denotes, and its own text where that is out of range (`Literal.inRange?`).

The reader finds exactly these in a trimmed text (`Literal.ofText?_eq_some_iff_spells`).
It looks at the first character to tell the three apart and never turns back, which
does no harm: no word begins with a quote, and no number with a quote or a letter.
-/

namespace RelQuery

/-! ## Words, quotes and numbers -/

/-- Whether characters are the word of the null literal in any case. -/
def IsNullWord (cs : List Char) : Prop := List.Forall₂ IsCaseOf "NULL".toList cs

/-- Whether characters inside a string literal stand for others. -/
inductive Quotes : List Char → List Char → Prop where
  /-- Nothing stands for nothing. -/
  | nil : Quotes [] []
  /-- A pair of quotes stands for one. -/
  | quote {s body : List Char} (h : Quotes s body) : Quotes ('\'' :: s) ('\'' :: '\'' :: body)
  /-- Any other character stands for itself. -/
  | char {c : Char} {s body : List Char} (hc : c ≠ '\'') (h : Quotes s body) :
      Quotes (c :: s) (c :: body)

/-- Whether characters are digits without a leading zero. -/
inductive IsWhole : List Char → Prop where
  /-- The digit zero alone. -/
  | zero : IsWhole ['0']
  /-- Digits of which the first is not zero. -/
  | digits {c : Char} {cs : List Char} (hc : c.isDigit = true) (hne : c ≠ '0')
      (h : ∀ d ∈ cs, d.isDigit = true) : IsWhole (c :: cs)

/-- Whether characters are a number of a literal. -/
inductive IsNumber : List Char → Prop where
  /-- A minus if any, and digits. -/
  | whole (negative : Bool) {ds : List Char} (hd : IsWhole ds) :
      IsNumber (signText negative ++ ds)
  /-- A minus if any, digits, a point and digits. -/
  | places (negative : Bool) {ds ps : List Char} (hd : IsWhole ds) (hp : IsDigits ps) :
      IsNumber (signText negative ++ (ds ++ '.' :: ps))

/-! ## Cases of letters -/

theorem Text.toLower_of_isDigit {c : Char} (h : c.isDigit = true) : c.toLower = c := by
  obtain ⟨-, hhigh⟩ := Char.isDigit_iff_toNat.mp h
  have hnine : '9'.toNat = 57 := rfl
  rw [← Char.toNat_inj, Text.toNat_toLower, if_neg (by omega)]

theorem sameWord_null_iff {text : String} :
    Text.sameWord text "NULL" = true ↔ IsNullWord text.toList :=
  Text.sameWord_iff (by simp) rfl

/-! ## Digits -/

theorem IsWhole.isDigits {ds : List Char} (h : IsWhole ds) : IsDigits ds := by
  cases h with
  | zero => exact isDigits_singleton rfl
  | digits hc _ h => exact (isDigits_singleton hc).append h

theorem IsDigits.not_mem {ds : List Char} (h : IsDigits ds) {c : Char}
    (hc : c.isDigit = false) : c ∉ ds := by
  intro hmem
  rw [h.2 c hmem] at hc
  cases hc

theorem IsDigits.append_ne_cons {ds : List Char} (h : IsDigits ds) {c : Char}
    (hc : c.isDigit = false) (rest cs : List Char) : ds ++ rest ≠ c :: cs := by
  cases ds with
  | nil => exact absurd rfl h.1
  | cons d ds =>
    intro heq
    obtain ⟨rfl, -⟩ := List.cons.inj heq
    exact h.not_mem hc (.head _)

theorem IsDigits.takeWhile_append_point {ds : List Char} (h : IsDigits ds) (ps : List Char) :
    (ds ++ '.' :: ps).takeWhile Char.isDigit = ds := by
  rw [List.takeWhile_append_of_pos h.2]
  exact List.append_nil ds

theorem IsDigits.dropWhile_append_point {ds : List Char} (h : IsDigits ds) (ps : List Char) :
    (ds ++ '.' :: ps).dropWhile Char.isDigit = '.' :: ps := by
  rw [List.dropWhile_append_of_pos h.2]
  rfl

/-- A number of a literal is a number of a statement. -/
theorem IsNumber.isNumeral {cs : List Char} (h : IsNumber cs) : IsNumeral cs := by
  cases h with
  | whole negative hd => exact ⟨negative, _, .whole hd.isDigits, rfl⟩
  | places negative hd hp => exact ⟨negative, _, .places hd.isDigits hp, rfl⟩

/-- A number begins with a minus or a digit. -/
theorem IsNumber.head {cs : List Char} (h : IsNumber cs) :
    ∃ c rest, cs = c :: rest ∧ (c = '-' ∨ c.isDigit = true) := by
  have hsigned : ∀ (negative : Bool) {ds : List Char} (rest : List Char), IsWhole ds →
      ∃ c cs, signText negative ++ (ds ++ rest) = c :: cs ∧ (c = '-' ∨ c.isDigit = true) := by
    intro negative ds rest hd
    cases negative with
    | true => exact ⟨'-', ds ++ rest, rfl, .inl rfl⟩
    | false =>
      cases hd with
      | zero => exact ⟨'0', rest, rfl, .inr rfl⟩
      | digits hc _ _ => exact ⟨_, _, rfl, .inr hc⟩
  cases h with
  | whole negative hd =>
    have hwhole := hsigned negative [] hd
    rwa [List.append_nil] at hwhole
  | places negative hd _ => exact hsigned negative _ hd

namespace Literal

theorem isWholePart_cons {c : Char} (hc : c ≠ '0') (cs : List Char) :
    isWholePart (c :: cs) = (c :: cs).all Char.isDigit := by
  rw [isWholePart]
  · simp
  · simp [hc]

theorem isWholePart_iff {cs : List Char} : isWholePart cs = true ↔ IsWhole cs := by
  constructor
  · intro h
    match cs with
    | [] => cases h
    | c :: cs =>
      by_cases hc : c = '0'
      · subst hc
        obtain rfl := List.isEmpty_iff.mp h
        exact .zero
      · rw [isWholePart_cons hc, List.all_eq_true] at h
        exact .digits (h c (.head _)) hc fun d hd => h d (.tail _ hd)
  · intro h
    cases h with
    | zero => rfl
    | digits hc hne h =>
      rw [isWholePart_cons hne, List.all_eq_true]
      exact List.forall_mem_cons.mpr ⟨hc, h⟩

/-- The parts of an unsigned number are its digits before the point and those after it. -/
theorem digitsOfNumber?_eq_some_iff {cs whole : List Char} {places : Option (List Char)} :
    digitsOfNumber? cs = some (whole, places) ↔
      IsWhole whole ∧ (∀ ps ∈ places, IsDigits ps) ∧
        cs = whole ++ places.elim [] ('.' :: ·) := by
  constructor
  · intro h
    have hcs := List.takeWhile_append_dropWhile (p := Char.isDigit) (l := cs)
    rw [digitsOfNumber?] at h
    split at h
    next hwhole =>
      rw [isWholePart_iff] at hwhole
      split at h
      next hrest =>
        cases h
        rw [hrest] at hcs
        exact ⟨hwhole, nofun, hcs.symm⟩
      next ps hrest =>
        split at h
        next hps =>
          cases h
          rw [hrest] at hcs
          refine ⟨hwhole, ?_, hcs.symm⟩
          rintro _ ⟨⟩
          exact ⟨hps.1, List.all_eq_true.mp hps.2⟩
        next => cases h
      next => cases h
    next => cases h
  · rintro ⟨hwhole, hplaces, rfl⟩
    have hpart := isWholePart_iff.mpr hwhole
    have hdigits := hwhole.isDigits
    cases places with
    | none =>
      rw [Option.elim_none, List.append_nil, digitsOfNumber?,
        List.takeWhile_eq_self_iff.mpr hdigits.2, List.dropWhile_eq_nil_iff.mpr hdigits.2,
        if_pos hpart]
    | some ps =>
      have hps := hplaces ps rfl
      rw [Option.elim_some, digitsOfNumber?, hdigits.takeWhile_append_point,
        hdigits.dropWhile_append_point, if_pos hpart]
      exact if_pos ⟨hps.1, List.all_eq_true.mpr hps.2⟩

/-! ## Numbers -/

/-- The number of a text, an integer without a point and a binary64 number with one, if
it is in range. -/
def inRange? (text : String) : Option Literal :=
  if '.' ∈ text.toList then ((Binary64.ofText? text).filter Binary64.isFinite).map float
  else (Text.readInt64? text).map int

/-- The integer that digits denote after a sign. -/
def signedValue (negative : Bool) (ds : List Char) : Int :=
  if negative then -(Nat.ofDigitChars 10 ds 0 : Int) else Nat.ofDigitChars 10 ds 0

theorem readInteger?_whole (negative : Bool) {ds : List Char} (h : IsDigits ds) :
    Text.readInteger? (signText negative ++ ds) = some (signedValue negative ds) := by
  have hread : Text.readNatural? ds = some (Nat.ofDigitChars 10 ds 0) :=
    if_pos ⟨h.1, List.all_eq_true.mpr h.2⟩
  cases negative with
  | true =>
    rw [signText, if_pos rfl, List.singleton_append, Text.readInteger?, hread]
    rfl
  | false =>
    rw [signText, if_neg (by decide), List.nil_append, Text.readInteger?, hread]
    · rfl
    all_goals
      rw [← List.append_nil ds]
      exact h.append_ne_cons rfl []

theorem binary64_ofText?_places (negative : Bool) {ds ps : List Char} (hd : IsDigits ds)
    (hp : IsDigits ps) :
    Binary64.ofText? (String.ofList (signText negative ++ (ds ++ '.' :: ps))) =
      some (Binary64.ofDecimal negative (Nat.ofDigitChars 10 (ds ++ ps) 0)
        (-(ps.length : Int))) := by
  have hread : ∀ negative, Binary64.ofUnsigned? negative (ds ++ '.' :: ps) =
      some (Binary64.ofDecimal negative (Nat.ofDigitChars 10 (ds ++ ps) 0)
        (-(ps.length : Int))) := by
    intro negative
    rw [Binary64.ofUnsigned?, Binary64.ofDigits?, hd.takeWhile_append_point,
      hd.dropWhile_append_point]
    simp only [Binary64.fraction, List.takeWhile_eq_self_iff.mpr hp.2,
      List.dropWhile_eq_nil_iff.mpr hp.2, hd.1, false_and, if_false]
    rfl
  rw [Binary64.ofText?, String.toList_ofList]
  cases negative with
  | true => exact hread true
  | false =>
    rw [signText, if_neg (by decide), List.nil_append]
    split
    next cs heq => exact absurd heq (hd.append_ne_cons rfl _ cs)
    next cs heq => exact absurd heq (hd.append_ne_cons rfl _ cs)
    next => exact hread false

theorem inRange?_whole (negative : Bool) {ds : List Char} (h : IsDigits ds) :
    inRange? (String.ofList (signText negative ++ ds)) =
      (Text.toInt64? (signedValue negative ds)).map int := by
  have hpoint : '.' ∉ signText negative ++ ds := by
    rw [List.mem_append, not_or]
    exact ⟨by cases negative <;> decide, h.not_mem rfl⟩
  rw [inRange?, String.toList_ofList, if_neg hpoint, Text.readInt64?, String.toList_ofList,
    readInteger?_whole negative h]
  rfl

theorem unsignedNumber?_whole (negative : Bool) {ds : List Char} (h : IsWhole ds) :
    unsignedNumber? negative ds = some (inRange? (String.ofList (signText negative ++ ds))) := by
  have hparts : digitsOfNumber? ds = some (ds, none) :=
    digitsOfNumber?_eq_some_iff.mpr ⟨h, nofun, (List.append_nil ds).symm⟩
  rw [unsignedNumber?, hparts, inRange?_whole negative h.isDigits]
  rfl

theorem unsignedNumber?_places (negative : Bool) {ds ps : List Char} (hd : IsWhole ds)
    (hp : IsDigits ps) :
    unsignedNumber? negative (ds ++ '.' :: ps) =
      some (inRange? (String.ofList (signText negative ++ (ds ++ '.' :: ps)))) := by
  have hparts : digitsOfNumber? (ds ++ '.' :: ps) = some (ds, some ps) := by
    refine digitsOfNumber?_eq_some_iff.mpr ⟨hd, ?_, rfl⟩
    rintro _ ⟨⟩
    exact hp
  rw [unsignedNumber?, hparts, inRange?, if_pos (by simp),
    binary64_ofText?_places negative hd.isDigits hp]
  simp only [Option.filter_some]
  split <;> rfl

/-- An unsigned number is read after its sign as the number it denotes with the sign. -/
theorem of_unsignedNumber? {negative : Bool} {cs : List Char} {n : Option Literal}
    (h : unsignedNumber? negative cs = some n) :
    IsNumber (signText negative ++ cs) ∧
      n = inRange? (String.ofList (signText negative ++ cs)) := by
  cases hparts : digitsOfNumber? cs with
  | none =>
    rw [unsignedNumber?, hparts] at h
    cases h
  | some parts =>
    obtain ⟨whole, places⟩ := parts
    obtain ⟨hwhole, hplaces, rfl⟩ := digitsOfNumber?_eq_some_iff.mp hparts
    cases places with
    | none =>
      rw [Option.elim_none, List.append_nil] at h ⊢
      rw [unsignedNumber?_whole negative hwhole] at h
      exact ⟨.whole negative hwhole, (Option.some.inj h).symm⟩
    | some ps =>
      have hps := hplaces ps rfl
      rw [Option.elim_some] at h ⊢
      rw [unsignedNumber?_places negative hwhole hps] at h
      exact ⟨.places negative hwhole hps, (Option.some.inj h).symm⟩

theorem readNumber?_signed (negative : Bool) {ds : List Char} (h : IsDigits ds) (rest : List Char) :
    readNumber? (signText negative ++ (ds ++ rest)) = unsignedNumber? negative (ds ++ rest) := by
  cases negative with
  | true => rfl
  | false =>
    rw [signText, if_neg (by decide), List.nil_append, readNumber?]
    exact h.append_ne_cons rfl rest

/-- The reader of numbers takes numbers and nothing else, and gives what they denote. -/
theorem readNumber?_eq_some_iff {cs : List Char} {n : Option Literal} :
    readNumber? cs = some n ↔ IsNumber cs ∧ n = inRange? (String.ofList cs) := by
  constructor
  · intro h
    rw [readNumber?.eq_def] at h
    split at h
    next cs =>
      have hsigned := of_unsignedNumber? h
      exact hsigned
    next =>
      have hunsigned := of_unsignedNumber? h
      exact hunsigned
  · rintro ⟨hnumber, rfl⟩
    cases hnumber with
    | whole negative hd =>
      have hread := readNumber?_signed negative hd.isDigits []
      rw [List.append_nil] at hread
      rw [hread, unsignedNumber?_whole negative hd]
    | places negative hd hp =>
      rw [readNumber?_signed negative hd.isDigits, unsignedNumber?_places negative hd hp]

/-! ## Literals -/

/-- Whether characters spell a literal. -/
inductive Spells : List Char → Literal → Prop where
  /-- The word for null. -/
  | null {cs : List Char} (h : IsNullWord cs) : Spells cs null
  /-- A string between quotes. -/
  | string {s body : List Char} (h : Quotes s body) :
      Spells ('\'' :: (body ++ ['\''])) (string (String.ofList s))
  /-- A number, or its text where it is out of range. -/
  | number {cs : List Char} (h : IsNumber cs) :
      Spells cs ((inRange? (String.ofList cs)).getD (string (String.ofList cs)))

theorem readQuoted?_eq_some_iff {cs s : List Char} :
    readQuoted? cs = some s ↔ ∃ body, Quotes s body ∧ cs = body ++ ['\''] := by
  constructor
  · intro h
    fun_induction readQuoted? cs generalizing s with
    | case1 => cases h
    | case2 =>
      cases h
      exact ⟨[], .nil, rfl⟩
    | case3 cs ih =>
      obtain ⟨s, hs, rfl⟩ := Option.map_eq_some_iff.mp h
      obtain ⟨body, hbody, rfl⟩ := ih hs
      exact ⟨_, .quote hbody, rfl⟩
    | case4 => cases h
    | case5 c cs hlast _ hquote ih =>
      have hc : c ≠ '\'' := by
        rintro rfl
        cases cs with
        | nil => exact hlast rfl rfl
        | cons d cs => exact hquote d cs rfl rfl
      obtain ⟨s, hs, rfl⟩ := Option.map_eq_some_iff.mp h
      obtain ⟨body, hbody, rfl⟩ := ih hs
      exact ⟨_, .char hc hbody, rfl⟩
  · rintro ⟨body, hbody, rfl⟩
    induction hbody with
    | nil => rfl
    | quote _ ih =>
      rw [List.cons_append, List.cons_append, readQuoted?, ih]
      rfl
    | char hc _ ih =>
      rw [List.cons_append, readQuoted?, ih]
      · rfl
      all_goals simp [hc]

/-- Text that does not begin with the letter is not the null literal. -/
theorem sameWord_null_of_head {c : Char} {cs : List Char} (h : c.toLower ≠ 'n') :
    Text.sameWord (String.ofList (c :: cs)) "NULL" = false := by
  simp [Text.sameWord, h]

theorem ofTrimmed?_eq_some_iff {text : String} {l : Literal} :
    ofTrimmed? text = some l ↔ Spells text.toList l := by
  constructor
  · intro h
    rw [ofTrimmed?] at h
    split at h
    next hword =>
      cases h
      exact .null (sameWord_null_iff.mp hword)
    next =>
      split at h
      next cs hcs =>
        obtain ⟨s, hs, rfl⟩ := Option.map_eq_some_iff.mp h
        obtain ⟨body, hbody, rfl⟩ := readQuoted?_eq_some_iff.mp hs
        rw [hcs]
        exact .string hbody
      next =>
        obtain ⟨n, hn, rfl⟩ := Option.map_eq_some_iff.mp h
        obtain ⟨hnumber, rfl⟩ := readNumber?_eq_some_iff.mp hn
        have hspells := Spells.number hnumber
        rw [String.ofList_toList] at hspells ⊢
        exact hspells
  · intro h
    obtain ⟨cs, rfl⟩ : ∃ cs, text = String.ofList cs := ⟨text.toList, String.ofList_toList.symm⟩
    rw [String.toList_ofList] at h
    rw [ofTrimmed?]
    cases h with
    | null h =>
      rw [← String.toList_ofList (l := cs)] at h
      rw [sameWord_null_iff.mpr h, if_pos rfl]
    | @string s body h =>
      have hread : readQuoted? (body ++ ['\'']) = some s :=
        readQuoted?_eq_some_iff.mpr ⟨body, h, rfl⟩
      rw [sameWord_null_of_head (by decide), if_neg (by decide), String.toList_ofList]
      exact congrArg (Option.map fun s => string (String.ofList s)) hread
    | number h =>
      have hread := readNumber?_eq_some_iff.mpr ⟨h, rfl⟩
      obtain ⟨c, rest, rfl, hc⟩ := h.head
      -- The first character is no letter and no quote, so the earlier choices fail.
      have hletter : c.toLower ≠ 'n' := by
        rcases hc with rfl | hdigit
        · decide
        · rw [Text.toLower_of_isDigit hdigit]
          rintro rfl
          cases hdigit
      have hquote : c ≠ '\'' := by
        rintro rfl
        rcases hc with hc | hc <;> cases hc
      rw [sameWord_null_of_head hletter, if_neg (by decide), String.toList_ofList]
      split
      next cs hcs => exact absurd (List.cons.inj hcs).1 hquote
      next => rw [hread, Option.map_some]

/-- The literals of a text are those that its characters between the outer blanks spell:
a text is read exactly when these are the word for null, a string between quotes or a
number, and what is read is the literal that they spell. -/
theorem ofText?_eq_some_iff_spells (text : String) :
    ((ofText? text).isSome = true ↔ IsNullWord (Text.trim text).toList ∨
      (∃ s body, Quotes s body ∧ (Text.trim text).toList = '\'' :: (body ++ ['\''])) ∨
      IsNumber (Text.trim text).toList) ∧
    ∀ l, ofText? text = some l ↔ Spells (Text.trim text).toList l := by
  have hspells : ∀ l, ofText? text = some l ↔ Spells (Text.trim text).toList l :=
    fun l => ofTrimmed?_eq_some_iff
  refine ⟨?_, hspells⟩
  rw [Option.isSome_iff_exists]
  constructor
  · rintro ⟨l, hl⟩
    have hl := (hspells l).mp hl
    generalize (Text.trim text).toList = cs at hl
    cases hl with
    | null h => exact .inl h
    | string h => exact .inr (.inl ⟨_, _, h, rfl⟩)
    | number h => exact .inr (.inr h)
  · rintro (h | ⟨s, body, hs, h⟩ | h)
    · exact ⟨null, (hspells _).mpr (.null h)⟩
    · refine ⟨string (String.ofList s), (hspells _).mpr ?_⟩
      rw [h]
      exact .string hs
    · exact ⟨_, (hspells _).mpr (.number h)⟩

end Literal

end RelQuery
