import RelQuery.Proofs.Schema.Cache
import RelQuery.Proofs.Text.Blank
import RelQuery.Proofs.Text.Case
import RelQuery.Query.Order

/-!
# Sort orders and their spellings

A term with a direction is a field, blanks and a word for the direction.  The field may
hold blanks itself, and the last word of it may be `desc`, but the last blank of the term
is always the one before the direction.  So there is one way to cut a term like this
(`OrderTerm.Cut.unique`).  The reader has two grammars.  The one for plain terms comes
first and knows four kinds of blanks only, but where it finds two words they are such a
cut, so it never comes between a longer term and its direction (`OrderTerm.read_of_cut`).

A list of terms has many spellings: an object of fields and directions, a text with
commas, and arrays of these.  All are read as the terms in their order
(`OrderTerm.listOfJson_all_spellings`).
-/

namespace RelQuery

/-! ## Entries with different keys -/

namespace Entries

variable {α : Type}

theorem putAll_eq_append (settled entries : Entries α) (h : (keys (settled ++ entries)).Nodup) :
    putAll settled entries = settled ++ entries := by
  induction entries generalizing settled with
  | nil => rw [putAll, List.append_nil]
  | cons e rest ih =>
    obtain ⟨key, value⟩ := e
    have hnew : find? key settled = none := by
      rw [find?_eq_none_iff]
      intro hmem
      rw [keys, List.map_append, List.nodup_append] at h
      exact h.2.2 key hmem key (.head _) rfl
    rw [putAll, put_eq_append hnew, ih _ (by simpa using h), List.append_assoc]
    rfl

/-- Entries stay as they are where no key is repeated. -/
theorem settle_eq_self {entries : Entries α} (h : (keys entries).Nodup) :
    settle entries = entries :=
  putAll_eq_append [] entries h

end Entries

/-! ## Direction words -/

namespace Direction

variable {d : Direction} {word : String}

/-- A word for a direction has letters only. -/
theorem isAlpha_of_mem_word (h : Text.IsAnyCaseOf d.keyword word) :
    ∀ c ∈ word.toList, c.isAlpha = true :=
  h.forall_mem (P := fun c => c.isAlpha = true) (by cases d <;> simp [keyword])

theorem isBlank_of_mem_word (h : Text.IsAnyCaseOf d.keyword word) :
    ∀ c ∈ word.toList, Text.isBlank c = false :=
  fun c hc => Text.isBlank_of_isAlpha (isAlpha_of_mem_word h c hc)

theorem word_ne_nil (h : Text.IsAnyCaseOf d.keyword word) : word.toList ≠ [] := by
  intro hnil
  have hlength : d.keyword.toList.length = 0 := h.length_eq.trans (congrArg List.length hnil)
  exact absurd hlength (by cases d <;> decide)

theorem sameWord_asc_iff : Text.sameWord word "asc" = true ↔ Text.IsAnyCaseOf "ASC" word :=
  Text.sameWord_iff (by simp) rfl

theorem sameWord_desc_iff : Text.sameWord word "desc" = true ↔ Text.IsAnyCaseOf "DESC" word :=
  Text.sameWord_iff (by simp) rfl

/-- A word in any case means the direction that it is the keyword of. -/
theorem ofText_of_isAnyCaseOf (h : Text.IsAnyCaseOf d.keyword word) : ofText word = d := by
  have htrim : Text.trim word = word := by
    have hsolid := isBlank_of_mem_word h
    rw [Text.trim, Text.trimChars_eq_self (fun c hc => hsolid c (List.mem_of_head? hc))
      (fun c hc => hsolid c (List.mem_of_getLast? hc)), String.ofList_toList]
  rw [ofText, htrim]
  cases d with
  | asc =>
    have hdesc : ¬Text.sameWord word "desc" = true := fun hdesc =>
      absurd ((sameWord_desc_iff.mp hdesc).length_congr h) (by decide)
    rw [if_neg hdesc]
  | desc => rw [if_pos (sameWord_desc_iff.mpr h)]

end Direction

namespace OrderTerm

theorem lastDirection?_of_isAnyCaseOf {d : Direction} {word : String}
    (h : Text.IsAnyCaseOf d.keyword word) : lastDirection? word.toList = some d := by
  rw [lastDirection?, String.ofList_toList]
  cases d with
  | asc => rw [if_pos (Direction.sameWord_asc_iff.mpr h)]
  | desc =>
    have hasc : ¬Text.sameWord word "asc" = true := fun hasc =>
      absurd ((Direction.sameWord_asc_iff.mp hasc).length_congr h) (by decide)
    rw [if_neg hasc, if_pos (Direction.sameWord_desc_iff.mpr h)]

/-! ## Cuts -/

/-- Whether characters are a field, blanks, and a word behind the last blank. -/
structure Cut (cs field gap word : List Char) : Prop where
  /-- The three parts are all there is. -/
  chars : cs = field ++ gap ++ word
  /-- The field does not end with a blank. -/
  field : ∀ c, field.getLast? = some c → Text.isBlank c = false
  /-- There are blanks between field and word. -/
  gap_ne : gap ≠ []
  /-- There is nothing else between them. -/
  gap : ∀ c ∈ gap, Text.isBlank c = true
  /-- The word has no blanks. -/
  word : ∀ c ∈ word, Text.isBlank c = false

namespace Cut

variable {cs field gap word : List Char}

/-- The last blank stands right before the word, and the field is what is left of the
characters before it. -/
theorem splitAtLastBlank (h : Cut cs field gap word) :
    ∃ before, Text.splitAtLastBlank cs = some (before, word) ∧
      Text.dropEndBlanks before = field := by
  obtain ⟨blanks, c, hgap⟩ := List.eq_nil_or_concat gap |>.resolve_left h.gap_ne
  have hblanks : ∀ d ∈ blanks, Text.isBlank d = true :=
    fun d hd => h.gap d (by simp [hgap, hd])
  have hc : Text.isBlank c = true := h.gap c (by simp [hgap])
  refine ⟨field ++ blanks, ?_, ?_⟩
  · have hchars : cs = field ++ blanks ++ c :: word := by simp [h.chars, hgap]
    rw [hchars, Text.splitAtLastBlank_append _ hc h.word]
  · rw [Text.dropEndBlanks_append field hblanks, Text.dropEndBlanks_eq_self h.field]

/-- Characters are cut in one way only. -/
theorem unique {field' gap' word' : List Char} (h : Cut cs field gap word)
    (h' : Cut cs field' gap' word') : field' = field ∧ word' = word := by
  obtain ⟨before, hsplit, hfield⟩ := h.splitAtLastBlank
  obtain ⟨before', hsplit', hfield'⟩ := h'.splitAtLastBlank
  obtain ⟨rfl, rfl⟩ := Prod.mk.inj (Option.some.inj (hsplit.symm.trans hsplit'))
  exact ⟨hfield'.symm.trans hfield, rfl⟩

theorem exists_blank (h : Cut cs field gap word) : ∃ c ∈ cs, Text.isBlank c = true := by
  obtain ⟨c, hc⟩ := List.exists_mem_of_ne_nil gap h.gap_ne
  exact ⟨c, by simp [h.chars, hc], h.gap c hc⟩

end Cut

/-! ## The two grammars of a term -/

theorem isBlank_of_isTermSpace {c : Char} (h : isTermSpace c = true) : Text.isBlank c = true := by
  simp only [isTermSpace, Bool.or_eq_true, decide_eq_true_eq] at h
  rcases h with ((rfl | rfl) | rfl) | rfl <;> decide

/-- A plain term is one word, or it is cut into its two words. -/
theorem plain?_cases {cs : List Char} {t : OrderTerm} (h : plain? cs = some t) :
    (∀ c ∈ cs, Text.isBlank c = false) ∨
    ∃ field gap word, Cut cs field gap word ∧
      t = ⟨String.ofList field, Direction.ofText (String.ofList word)⟩ := by
  obtain ⟨d, hd, rfl⟩ := Option.map_eq_some_iff.mp h
  have hfield : ∀ c ∈ cs.takeWhile fun c => !Text.isBlank c, Text.isBlank c = false :=
    fun c hc => by simpa using List.mem_takeWhile_imp hc
  have hcs := List.takeWhile_append_dropWhile (p := fun c => !Text.isBlank c) (l := cs)
  generalize (cs.takeWhile fun c => !Text.isBlank c) = field at hfield hcs ⊢
  generalize (cs.dropWhile fun c => !Text.isBlank c) = rest at hd hcs
  have hrest := List.takeWhile_append_dropWhile (p := isTermSpace) (l := rest)
  have hgap : ∀ c ∈ rest.takeWhile isTermSpace, Text.isBlank c = true :=
    fun c hc => isBlank_of_isTermSpace (List.mem_takeWhile_imp hc)
  rw [plainDirection?] at hd
  split at hd
  next hspaces hword =>
    rw [hspaces, hword, List.append_nil] at hrest
    left
    rwa [← hcs, ← hrest, List.append_nil]
  next _ _ hspaces =>
    split at hd
    next hword =>
      obtain rfl := Option.some.inj hd
      right
      refine ⟨field, _, _, ⟨?_, ?_, ?_, hgap, ?_⟩, rfl⟩
      · rw [List.append_assoc, hrest, hcs]
      · exact fun c hc => hfield c (List.mem_of_getLast? hc)
      · rw [hspaces]
        exact List.cons_ne_nil _ _
      · exact fun c hc => Text.isBlank_of_isAlpha (List.all_eq_true.mp hword.2 c hc)
    next => cases hd
  next => cases hd

section Terms

variable {before field gap after : List Char} {word : String} {d : Direction}

/-- Where a field, blanks and a word for a direction make up the characters, the reader
finds that field and that direction, by whichever grammar. -/
theorem read_of_cut {cs : List Char} (hcut : Cut cs field gap word.toList) (hne : field ≠ [])
    (hword : Text.IsAnyCaseOf d.keyword word) :
    (plain? cs <|> expression? cs) = some ⟨String.ofList field, d⟩ := by
  cases hplain : plain? cs with
  | none =>
    obtain ⟨before, hsplit, hfield⟩ := hcut.splitAtLastBlank
    simp [expression?, hsplit, lastDirection?_of_isAnyCaseOf hword, hfield, hne]
  | some t =>
    rcases plain?_cases hplain with hsolid | ⟨field', gap', word', hcut', rfl⟩
    · obtain ⟨c, hc, hblank⟩ := hcut.exists_blank
      exact absurd hblank (by simp [hsolid c hc])
    · obtain ⟨rfl, rfl⟩ := hcut.unique hcut'
      rw [String.ofList_toList, Direction.ofText_of_isAnyCaseOf hword]
      rfl

/-- The term of a field without blanks at its ends, blanks, and a word for a direction,
with any blanks around them. -/
theorem ofText?_ofList (hbefore : ∀ c ∈ before, Text.isBlank c = true)
    (hafter : ∀ c ∈ after, Text.isBlank c = true) (hne : field ≠ [])
    (htrimmed : Text.trimChars field = field) (hgap_ne : gap ≠ [])
    (hgap : ∀ c ∈ gap, Text.isBlank c = true) (hword : Text.IsAnyCaseOf d.keyword word) :
    ofText? (String.ofList (before ++ (field ++ gap ++ word.toList) ++ after)) =
      some ⟨String.ofList field, d⟩ := by
  have hsolid := Direction.isBlank_of_mem_word hword
  have hlast : ∀ c, field.getLast? = some c → Text.isBlank c = false :=
    fun c hc => Text.isBlank_of_getLast?_trimChars (htrimmed.symm ▸ hc)
  have htrim : Text.trimChars (field ++ gap ++ word.toList) = field ++ gap ++ word.toList := by
    apply Text.trimChars_eq_self
    · intro c hc
      rw [List.append_assoc, List.head?_append_of_ne_nil _ hne] at hc
      exact Text.isBlank_of_head?_trimChars (htrimmed.symm ▸ hc)
    · intro c hc
      rw [List.getLast?_append_of_ne_nil _ (Direction.word_ne_nil hword)] at hc
      exact hsolid c (List.mem_of_getLast? hc)
  have hcut : Cut (field ++ gap ++ word.toList) field gap word.toList :=
    ⟨rfl, hlast, hgap_ne, hgap, hsolid⟩
  have hcs : (field ++ gap ++ word.toList).isEmpty = false := by simp [hne]
  rw [ofText?, String.toList_ofList, Text.trimChars_append hbefore hafter, htrim]
  simp only [hcs, read_of_cut hcut hne hword]
  rfl

end Terms

/-- A term keeps its field and its direction, whatever the field holds between two
characters that are no blanks. -/
theorem ofText?_keeps_direction {before field gap word after : String} {d : Direction}
    (hbefore : Text.isBlankText before = true) (hafter : Text.isBlankText after = true)
    (hne : field ≠ "") (htrimmed : Text.trim field = field) (hgap_ne : gap ≠ "")
    (hgap : Text.isBlankText gap = true) (hword : Text.IsAnyCaseOf d.keyword word) :
    ofText? (before ++ field ++ gap ++ word ++ after) = some ⟨field, d⟩ := by
  have htext : before ++ field ++ gap ++ word ++ after = String.ofList
      (before.toList ++ (field.toList ++ gap.toList ++ word.toList) ++ after.toList) := by
    simp [← String.toList_inj]
  rw [htext, ofText?_ofList (List.all_eq_true.mp hbefore) (List.all_eq_true.mp hafter)
    (mt String.toList_eq_nil_iff.mp hne) (Text.trimChars_toList htrimmed)
    (mt String.toList_eq_nil_iff.mp hgap_ne) (List.all_eq_true.mp hgap) hword,
    String.ofList_toList]

/-- A call with a comma, a wide space and a word that could be a direction. -/
def callField : String := "COALESCE(a, b)\u2003desc"

theorem ofText?_keeps_direction_callField :
    Text.isBlankText "\u00a0" = true ∧ Text.isBlankText "\n" = true ∧ callField ≠ "" ∧
    Text.trim callField = callField ∧ " \u3000" ≠ "" ∧ Text.isBlankText " \u3000" = true ∧
    Text.IsAnyCaseOf Direction.asc.keyword "aSc" ∧
    ofText? ("\u00a0" ++ callField ++ " \u3000" ++ "aSc" ++ "\n") = some ⟨callField, .asc⟩ := by
  have htrimmed : Text.trim callField = callField := by decide +kernel
  have hword : Text.IsAnyCaseOf Direction.asc.keyword "aSc" :=
    Direction.sameWord_asc_iff.mp rfl
  exact ⟨by decide, by decide, by decide, htrimmed, by decide, by decide, hword,
    ofText?_keeps_direction (by decide) (by decide) (by decide) htrimmed (by decide) (by decide)
      hword⟩

/-! ## Lists of terms -/

/-- Blanks before a term do not count. -/
theorem ofText?_append {blanks : List Char} (h : ∀ c ∈ blanks, Text.isBlank c = true)
    (cs : List Char) : ofText? (String.ofList (blanks ++ cs)) = ofText? (String.ofList cs) := by
  have htrim : Text.trimChars (blanks ++ cs) = Text.trimChars cs := by
    rw [← List.append_nil (blanks ++ cs)]
    exact Text.trimChars_append h (List.forall_mem_nil _)
  rw [ofText?, ofText?, String.toList_ofList, String.toList_ofList, htrim]

/-- Blanks before a list do not count. -/
theorem listOfText_space (text : String) : listOfText (" " ++ text) = listOfText text := by
  rw [listOfText, listOfText, String.toList_append]
  show ((Text.splitAt ',' (' ' :: text.toList)).filterMap _) = _
  rw [Text.splitAt_cons_of_ne (by decide)]
  cases Text.splitAt ',' text.toList with
  | nil => rfl
  | cons part parts =>
    have hpart : ofText? (String.ofList (' ' :: part)) = ofText? (String.ofList part) :=
      ofText?_append (List.forall_mem_singleton.mpr rfl) part
    rw [List.modifyHead_cons, List.filterMap_cons, List.filterMap_cons, hpart]

/-- A list is read up to a comma and then from there. -/
theorem listOfText_append_comma (before after : String) :
    listOfText (before ++ "," ++ after) = listOfText before ++ listOfText after := by
  have hchars : (before ++ "," ++ after).toList = before.toList ++ ',' :: after.toList := by simp
  rw [listOfText, hchars, Text.splitAt_append_cons, List.filterMap_append]
  rfl

/-- Lists with a comma and a space between them are read one by one. -/
theorem listOfText_intercalate (texts : List String) :
    listOfText (", ".intercalate texts) = texts.flatMap listOfText := by
  induction texts with
  | nil => rfl
  | cons text texts ih =>
    cases texts with
    | nil => simp
    | cons next texts =>
      have hcomma : text ++ ", " ++ ", ".intercalate (next :: texts) =
          text ++ "," ++ (" " ++ ", ".intercalate (next :: texts)) := by
        simp [← String.toList_inj]
      rw [String.intercalate_cons_cons, hcomma, listOfText_append_comma, listOfText_space, ih]
      rfl

/-- A text without commas is one term, or blank. -/
theorem listOfText_of_not_mem {text : String} (h : ',' ∉ text.toList) :
    listOfText text = (ofText? text).toList := by
  rw [listOfText, Text.splitAt_eq_singleton_iff.mpr h, List.filterMap_cons, String.ofList_toList]
  cases ofText? text <;> rfl

/-- A field without commas and a word for a direction are one term. -/
theorem listOfText_field {field word : String} {d : Direction} (hcomma : ',' ∉ field.toList)
    (hne : Text.trim field ≠ "") (hword : Text.IsAnyCaseOf d.keyword word) :
    listOfText (field ++ " " ++ word) = [⟨Text.trim field, d⟩] := by
  obtain ⟨before, after, hbefore, hafter, hfield⟩ := Text.exists_eq_append_trimChars field.toList
  have hwhole : ',' ∉ (field ++ " " ++ word).toList := by
    simp only [String.toList_append, List.mem_append, not_or]
    exact ⟨⟨hcomma, by decide⟩,
      fun h => absurd (Direction.isAlpha_of_mem_word hword _ h) (by decide)⟩
  have hchars : (field ++ " " ++ word).toList =
      before ++ (Text.trimChars field.toList ++ (after ++ [' ']) ++ word.toList) ++ [] := by
    rw [String.toList_append, String.toList_append]
    conv_lhs => rw [hfield]
    simp
  have hgap : ∀ c ∈ after ++ [' '], Text.isBlank c = true :=
    List.forall_mem_append.mpr ⟨hafter, List.forall_mem_singleton.mpr rfl⟩
  have hread : ofText? (field ++ " " ++ word) = some ⟨Text.trim field, d⟩ := by
    rw [← String.ofList_toList (s := field ++ " " ++ word), hchars]
    exact ofText?_ofList hbefore (List.forall_mem_nil _) (mt (congrArg String.ofList) hne)
      (Text.trimChars_trimChars _) (List.append_ne_nil_of_right_ne_nil _ (List.cons_ne_nil _ _))
      hgap hword
  rw [listOfText_of_not_mem hwhole, hread, Option.toList_some]

/-! ## Written terms -/

/-- A term with a word for its direction. -/
structure Worded where
  /-- The term. -/
  term : OrderTerm
  /-- The word for its direction. -/
  word : String
  /-- The term has a field. -/
  field_ne : term.field ≠ ""
  /-- The field has no blanks at its ends. -/
  trimmed : Text.trim term.field = term.field
  /-- The word is the keyword of the direction in any case. -/
  isWord : Text.IsAnyCaseOf term.direction.keyword word

namespace Worded

/-- The term as a text. -/
def text (t : Worded) : String := t.term.field ++ " " ++ t.word

/-- The term as an entry of an object. -/
def entry (t : Worded) : String × Json := (t.term.field, .string t.word)

/-- A term whose field has no comma is read as it is. -/
theorem listOfText_text (t : Worded) (h : ',' ∉ t.term.field.toList) :
    listOfText t.text = [t.term] := by
  have hne : Text.trim t.term.field ≠ "" := by
    rw [t.trimmed]
    exact t.field_ne
  rw [text, listOfText_field h hne t.isWord, t.trimmed]

/-- An entry has the field in its key and the direction in its value. -/
theorem term_entry (t : Worded) : (⟨t.entry.1, directionOf t.entry.2⟩ : OrderTerm) = t.term := by
  rw [entry, directionOf, Direction.ofText_of_isAnyCaseOf t.isWord]

end Worded

/-- A term with a word for its direction, as it can stand in a list. -/
structure Written extends Worded where
  /-- The field has no commas. -/
  comma : ',' ∉ term.field.toList

/-- Terms with a comma and a space between them are read one by one. -/
theorem listOfText_written (ts : List Written) :
    listOfText (", ".intercalate (ts.map (·.text))) = ts.map (·.term) := by
  rw [listOfText_intercalate, List.flatMap_map]
  have hread : ∀ t ∈ ts, listOfText t.text = [t.term] := fun t _ => t.listOfText_text t.comma
  rw [List.flatMap_congr hread]
  exact (List.map_eq_flatMap ..).symm

mutual

/-- Whether a document writes terms, all of them in their order. -/
inductive Spells : List Written → Json → Prop where
  /-- An object has an entry for each term. -/
  | object (ts : List Written) : Spells ts (.object (Entries.settle (ts.map (·.entry))))
  /-- A text has the terms with commas between them. -/
  | text (ts : List Written) : Spells ts (.string (", ".intercalate (ts.map (·.text))))
  /-- An array has documents that write the terms between them. -/
  | array {ts : List Written} {items : List Json} (h : SpellsItems ts items) :
      Spells ts (.array items)

/-- Whether several documents write terms, one after another. -/
inductive SpellsItems : List Written → List Json → Prop where
  /-- There are no documents and no terms. -/
  | nil : SpellsItems [] []
  /-- The first document writes the first terms and the others the rest. -/
  | cons {ts us : List Written} {d : Json} {items : List Json} (h : Spells ts d)
      (hs : SpellsItems us items) : SpellsItems (ts ++ us) (d :: items)

end

/-- A document for each term makes up an array of the terms. -/
theorem SpellsItems.of_forall {write : Written → Json} (h : ∀ t, Spells [t] (write t)) :
    ∀ ts : List Written, SpellsItems ts (ts.map write)
  | [] => .nil
  | t :: ts => .cons (h t) (SpellsItems.of_forall h ts)

mutual

theorem Spells.listOfJson : ∀ {ts : List Written} {d : Json}, Spells ts d →
    (ts.map fun t => t.term.field).Nodup → OrderTerm.listOfJson d = .ok (ts.map (·.term))
  | _, _, .object ts, hdistinct => by
    have hkeys : (Entries.keys (ts.map (·.entry))).Nodup := by
      rw [Entries.keys, List.map_map]
      exact hdistinct
    rw [OrderTerm.listOfJson, Entries.settle_eq_self hkeys, List.map_map]
    exact congrArg Except.ok (List.map_congr_left fun t _ => t.term_entry)
  | _, _, .text ts, _ => by
    rw [OrderTerm.listOfJson, listOfText_written]
  | _, _, .array h, hdistinct => by
    rw [OrderTerm.listOfJson, h.listOfItems hdistinct]

theorem SpellsItems.listOfItems : ∀ {ts : List Written} {items : List Json},
    SpellsItems ts items → (ts.map fun t => t.term.field).Nodup →
      OrderTerm.listOfItems items = .ok (ts.map (·.term))
  | _, _, .nil, _ => rfl
  | _, _, .cons h hs, hdistinct => by
    rw [List.map_append, List.nodup_append] at hdistinct
    obtain ⟨hfirst, hrest, -⟩ := hdistinct
    rw [OrderTerm.listOfItems, h.listOfJson hfirst, hs.listOfItems hrest, List.map_append]
    rfl

end

/-- All spellings of a list of terms with different fields are read as these terms: the
object of the fields and directions, the array of the terms as texts, the array of the
objects of one entry each, the text with all terms, and every nesting of these in arrays
that has the terms in their order. -/
theorem listOfJson_all_spellings {ts : List Written}
    (hdistinct : (ts.map fun t => t.term.field).Nodup) :
    listOfJson (.object (Entries.settle (ts.map (·.entry)))) = .ok (ts.map (·.term)) ∧
    listOfJson (.array (ts.map fun t => .string t.text)) = .ok (ts.map (·.term)) ∧
    listOfJson (.array (ts.map fun t => .object [t.entry])) = .ok (ts.map (·.term)) ∧
    listOfJson (.string (", ".intercalate (ts.map (·.text)))) = .ok (ts.map (·.term)) ∧
    ∀ d : Json, Spells ts d → listOfJson d = .ok (ts.map (·.term)) := by
  have htexts : SpellsItems ts (ts.map fun t => .string t.text) :=
    .of_forall (fun t => by simpa using Spells.text [t]) ts
  have hobjects : SpellsItems ts (ts.map fun t => .object [t.entry]) :=
    .of_forall (fun t => Spells.object [t]) ts
  exact ⟨(Spells.object ts).listOfJson hdistinct, (Spells.array htexts).listOfJson hdistinct,
    (Spells.array hobjects).listOfJson hdistinct, (Spells.text ts).listOfJson hdistinct,
    fun d h => h.listOfJson hdistinct⟩

/-- Three terms, of which the first has a direction word in its field. -/
def rankTerms : List Written :=
  [⟨⟨⟨"rank desc", .asc⟩, "ASC", by decide, by decide +kernel,
      Direction.sameWord_asc_iff.mp rfl⟩, by decide⟩,
    ⟨⟨⟨"price * qty", .desc⟩, "Desc", by decide, by decide +kernel,
      Direction.sameWord_desc_iff.mp rfl⟩, by decide⟩,
    ⟨⟨⟨"id", .asc⟩, "asc", by decide, by decide +kernel,
      Direction.sameWord_asc_iff.mp rfl⟩, by decide⟩]

/-- An object with the first of `rankTerms`, and a text with the others in an array. -/
def rankDocument : Json :=
  .array [.object [("rank desc", .string "ASC")], .array [.string "price * qty Desc, id asc"]]

theorem listOfJson_all_spellings_rankDocument :
    (rankTerms.map fun t => t.term.field).Nodup ∧ Spells rankTerms rankDocument ∧
    listOfJson rankDocument =
      .ok [⟨"rank desc", .asc⟩, ⟨"price * qty", .desc⟩, ⟨"id", .asc⟩] := by
  have hdistinct : (rankTerms.map fun t => t.term.field).Nodup := by decide
  have hspells : Spells rankTerms rankDocument :=
    .array (.cons (.object (rankTerms.take 1))
      (.cons (.array (.cons (.text (rankTerms.drop 1)) .nil)) .nil))
  exact ⟨hdistinct, hspells, (listOfJson_all_spellings hdistinct).2.2.2.2 rankDocument hspells⟩

end OrderTerm

end RelQuery
