import RelQuery.Proofs.Query.Order

/-!
# Calls in sort orders

The field of a term may be a call, with commas between its arguments.  A term of its own
keeps such a field (`OrderTerm.ofText?_keeps_direction`).  A list of terms is cut at its
commas before any term is read, and the cut does not see parentheses.  So the terms of a
list are read one by one (`OrderTerm.listOfText_intercalate`), but a term with a
comma in its field is not read as one term.  Its direction goes to what follows the last
comma, and what stands before that comma is a list of other terms
(`OrderTerm.listOfText_calls`).
-/

namespace RelQuery

/-! ## Parentheses -/

/-- How many parentheses are open behind some characters, if `n` are open before them.
There is no answer where one is closed that is not open, or a comma stands outside of
all. -/
def Text.openBehind? (n : Nat) : List Char → Option Nat
  | [] => some n
  | c :: cs =>
    if c = '(' then openBehind? (n + 1) cs
    else if c = ')' then if n = 0 then none else openBehind? (n - 1) cs
    else if c = ',' ∧ n = 0 then none
    else openBehind? n cs

namespace Text

variable {n m : Nat}

/-- Only a closing parenthesis makes fewer of them open. -/
theorem le_of_openBehind? {cs : List Char} (h : openBehind? n cs = some m) (hclose : ')' ∉ cs) :
    n ≤ m := by
  induction cs generalizing n with
  | nil =>
    obtain rfl := Option.some.inj h
    exact Nat.le_refl n
  | cons c cs ih =>
    obtain ⟨hc, hcs⟩ := List.ne_and_not_mem_of_not_mem_cons hclose
    rw [openBehind?, if_neg (Ne.symm hc)] at h
    split at h
    · exact Nat.le_of_succ_le (ih h hcs)
    · split at h
      · cases h
      · exact ih h hcs

/-- A comma stands inside parentheses, so one of them is closed behind it. -/
theorem close_mem_of_openBehind? {before after : List Char}
    (h : openBehind? n (before ++ ',' :: after) = some 0) : ')' ∈ after := by
  induction before generalizing n with
  | nil =>
    rw [List.nil_append, openBehind?, if_neg (by decide), if_neg (by decide)] at h
    split at h
    next => cases h
    next hopen =>
      by_contra hclose
      have hzero := le_of_openBehind? h hclose
      exact hopen ⟨rfl, Nat.le_zero.mp hzero⟩
  | cons c before ih =>
    rw [List.cons_append, openBehind?] at h
    split at h
    · exact ih h
    · split at h
      · split at h
        · cases h
        · exact ih h
      · split at h
        · cases h
        · exact ih h

end Text

namespace OrderTerm

/-! ## Fields without commas -/

/-- A field holds no characters but those of the text it is read from. -/
theorem subset_of_ofText? {text : String} {t : OrderTerm} (h : ofText? text = some t) :
    t.field.toList ⊆ text.toList := by
  refine List.Subset.trans ?_ (Text.trimChars_subset text.toList)
  rw [ofText?] at h
  generalize Text.trimChars text.toList = cs at h ⊢
  split at h
  next => cases h
  next =>
    obtain rfl := Option.some.inj h
    cases hplain : plain? cs with
    | some t =>
      obtain ⟨d, -, rfl⟩ := Option.map_eq_some_iff.mp hplain
      simpa using List.takeWhile_subset _
    | none =>
      cases hexpression : expression? cs with
      | none => simp
      | some t =>
        obtain ⟨⟨before, word⟩, hsplit, h⟩ := Option.bind_eq_some_iff.mp hexpression
        obtain ⟨d, -, h⟩ := Option.bind_eq_some_iff.mp h
        dsimp only at h
        split at h
        next => cases h
        next =>
          obtain rfl := Option.some.inj h
          obtain ⟨c, rfl⟩ := Text.exists_eq_of_splitAtLastBlank hsplit
          have hfield : Text.dropEndBlanks before ⊆ before ++ c :: word :=
            List.Subset.trans (Text.dropEndBlanks_subset before) (List.subset_append_left _ _)
          simpa using hfield

/-- No field of a list has a comma. -/
theorem comma_not_mem_of_mem_listOfText {text : String} {t : OrderTerm}
    (h : t ∈ listOfText text) : ',' ∉ t.field.toList := by
  obtain ⟨part, hpart, ht⟩ := List.mem_filterMap.mp h
  intro hcomma
  have hmem := subset_of_ofText? ht hcomma
  rw [String.toList_ofList] at hmem
  exact Text.not_mem_of_mem_splitAt hpart hmem

/-! ## Terms with calls -/

/-- A term with a word for its direction, whose field has commas inside parentheses only. -/
structure Directed extends Worded where
  /-- The parentheses of the field are balanced, and no comma stands outside of them. -/
  nested : Text.openBehind? 0 term.field.toList = some 0

/-- The direction of a term goes to what follows the last comma of its field. -/
theorem Directed.listOfText_text_of_comma (t : Directed) {front last : String}
    (hfield : t.term.field = front ++ "," ++ last) (hlast : ',' ∉ last.toList) :
    listOfText t.text = listOfText front ++ [⟨Text.trim last, t.term.direction⟩] := by
  have htext : t.text = front ++ "," ++ (last ++ " " ++ t.word) := by
    simp [Worded.text, hfield, String.append_assoc]
  have hnested := t.nested
  have hchars : t.term.field.toList = front.toList ++ ',' :: last.toList := by simp [hfield]
  rw [hchars] at hnested
  have hne : Text.trim last ≠ "" := by
    intro hblank
    have hclose := List.all_eq_true.mp (Text.trim_eq_empty_iff.mp hblank) _
      (Text.close_mem_of_openBehind? hnested)
    exact absurd hclose (by decide)
  rw [htext, listOfText_append_comma, listOfText_field hlast hne t.isWord]

/-- A list of terms, whose fields have commas inside parentheses only, is read term by
term.  A term with a comma in its field is read as the list before its last comma, and
what follows that comma with the direction.  So the list is read as its terms exactly
when no field has a comma. -/
theorem listOfText_calls (ts : List Directed) :
    listOfText (", ".intercalate (ts.map (·.text))) =
      ts.flatMap (fun t => listOfText t.text) ∧
    (∀ t ∈ ts, ∀ front last : String, t.term.field = front ++ "," ++ last → ',' ∉ last.toList →
      listOfText t.text = listOfText front ++ [⟨Text.trim last, t.term.direction⟩]) ∧
    (listOfText (", ".intercalate (ts.map (·.text))) = ts.map (·.term) ↔
      ∀ t ∈ ts, ',' ∉ t.term.field.toList) := by
  have hlist : listOfText (", ".intercalate (ts.map (·.text))) =
      ts.flatMap fun t => listOfText t.text := by
    rw [listOfText_intercalate, List.flatMap_map]
  refine ⟨hlist, fun t _ front last hfield hlast => t.listOfText_text_of_comma hfield hlast,
    fun hread t ht => ?_, fun hcommas => ?_⟩
  · have hmem : t.term ∈ listOfText (", ".intercalate (ts.map (·.text))) := by
      rw [hread]
      exact List.mem_map_of_mem ht
    exact comma_not_mem_of_mem_listOfText hmem
  · calc listOfText (", ".intercalate (ts.map (·.text)))
      _ = ts.flatMap fun t => listOfText t.text := hlist
      _ = ts.flatMap fun t => [t.term] :=
        List.flatMap_congr fun t ht => t.listOfText_text (hcommas t ht)
      _ = ts.map (·.term) := (List.map_eq_flatMap ..).symm

/-- A call with two arguments, in descending order. -/
def coalesceTerm : Directed where
  term := ⟨"COALESCE(a, b)", .desc⟩
  word := "DESC"
  field_ne := by decide
  trimmed := by decide +kernel
  nested := by decide
  isWord := Direction.sameWord_desc_iff.mp rfl

/-- A plain field, with its direction in letters of both kinds. -/
def totalTerm : Directed where
  term := ⟨"total", .asc⟩
  word := "Asc"
  field_ne := by decide
  trimmed := by decide +kernel
  nested := by decide
  isWord := Direction.sameWord_asc_iff.mp rfl

/-- The call and the plain field. -/
def callTerms : List Directed := [coalesceTerm, totalTerm]

theorem listOfText_calls_callTerms :
    coalesceTerm ∈ callTerms ∧ coalesceTerm.term.field = "COALESCE(a" ++ "," ++ " b)" ∧
    ',' ∉ " b)".toList ∧
    listOfText coalesceTerm.text = listOfText "COALESCE(a" ++ [⟨Text.trim " b)", .desc⟩] := by
  have hmem : coalesceTerm ∈ callTerms := .head _
  exact ⟨hmem, rfl, by decide, (listOfText_calls callTerms).2.1 _ hmem _ _ rfl (by decide)⟩

/-- A call with two arguments is read as two terms. -/
theorem exists_listOfText_calls_ne :
    listOfText "COALESCE(a, b) DESC" = [⟨"COALESCE(a", .asc⟩, ⟨"b)", .desc⟩] ∧
    ¬∀ ts : List Directed, ts ≠ [] →
      listOfText (", ".intercalate (ts.map (·.text))) = ts.map (·.term) := by
  have hread : listOfText "COALESCE(a, b) DESC" = [⟨"COALESCE(a", .asc⟩, ⟨"b)", .desc⟩] := by
    decide +kernel
  refine ⟨hread, fun h => ?_⟩
  have hterm : listOfText "COALESCE(a, b) DESC" = [⟨"COALESCE(a, b)", .desc⟩] :=
    h [coalesceTerm] (List.cons_ne_nil _ _)
  exact absurd (hread.symm.trans hterm) (by decide)

end OrderTerm

end RelQuery
