import RelQuery.Proofs.Sql.Insert
import RelQuery.Sql.Writer

/-!
# Operands of lists

The right side of a membership test is one or more literals between parentheses, and
each end of a range is one literal (`Dialect.IsListTest`).

How many values a list has is checked of the list itself, and its literal is that of
its values with commas between, whatever lists they are in turn.  So what stands
between the commas are the *slots* of the list: its scalars at any depth, and nothing
at all for every empty list inside (`Value.exists_texts_of_cast`).  Of lists of
scalars these are the values.  In general a test is well formed exactly when the
slots are what its operands should be (`isListTest_iff`), since no literal is empty and
a literal is told apart from what follows it.
-/

namespace RelQuery

/-! ## Well-formed tests -/

/-- Whether a text tests a column against a list as a database expects it. -/
inductive Dialect.IsListTest (d : Dialect) (column : String) : Operator → String → Prop where
  /-- Membership in the empty list. -/
  | never : d.IsListTest column .eq "1 = 0"
  /-- No membership in the empty list. -/
  | always : d.IsListTest column .ne "1 = 1"
  /-- Membership among literals. -/
  | member {literals : List String} (hne : literals ≠ [])
      (hliterals : ∀ l ∈ literals, d.IsLiteral l.toList) :
      d.IsListTest column .eq (column ++ " IN (" ++ ", ".intercalate literals ++ ")")
  /-- No membership among literals. -/
  | noMember {literals : List String} (hne : literals ≠ [])
      (hliterals : ∀ l ∈ literals, d.IsLiteral l.toList) :
      d.IsListTest column .ne (column ++ " NOT IN (" ++ ", ".intercalate literals ++ ")")
  /-- A range from one literal to another. -/
  | range {low high : String} (hlow : d.IsLiteral low.toList) (hhigh : d.IsLiteral high.toList) :
      d.IsListTest column .between (column ++ " BETWEEN " ++ low ++ " AND " ++ high)

/-! ## Slots -/

namespace Value

mutual

/-- The places between the commas of the literal of a value, each with the scalar that
stands there.  An empty list leaves its place empty. -/
def slots : Value → List (Option Value)
  | .list items => if items.isEmpty then [none] else slotsAll items
  | value => [some value]

/-- The slots of several values, in order. -/
def slotsAll : List Value → List (Option Value)
  | [] => []
  | item :: items => slots item ++ slotsAll items

end

theorem slots_list {items : List Value} (h : items ≠ []) : (list items).slots = slotsAll items := by
  rw [slots, List.isEmpty_eq_false_iff.mpr h]
  rfl

/-- Whether the values of a list are operands of a test: no list among the members is
empty, and each end of a range is one scalar. -/
def AreOperands : Operator → List Value → Prop
  | .between, items => ∀ item ∈ items, ∃ value, item.slots = [some value]
  | _, items => none ∉ slotsAll items

/-- Whether a text is written in a slot. -/
def SlotText (g : Generator) (tag : TypeTag) : Option Value → String → Prop
  | none, text => text = ""
  | some value, text => value.isScalar = true ∧ value.cast g tag = .ok text

variable {g : Generator} {tag : TypeTag}

theorem exists_texts_of_isScalar {value : Value} {pieces : List Piece}
    (hs : value.isScalar = true) (h : value.literal tag = .ok pieces) :
    ∃ texts, texts ≠ [] ∧ g.render pieces = ", ".intercalate texts ∧
      List.Forall₂ (SlotText g tag) value.slots texts := by
  have hslots : value.slots = [some value] := by
    cases value with
    | list items => cases hs
    | query q => cases hs
    | _ => rfl
  have hcast : value.cast g tag = .ok (g.render pieces) := by
    rw [cast_eq, h]
    rfl
  rw [hslots]
  exact ⟨[g.render pieces], List.cons_ne_nil _ _, String.intercalate_singleton.symm,
    .cons ⟨hs, hcast⟩ .nil⟩

mutual

/-- A literal is written slot by slot. -/
theorem exists_texts_of_literal : ∀ (value : Value) {pieces : List Piece},
    value.literal tag = .ok pieces →
    ∃ texts, texts ≠ [] ∧ g.render pieces = ", ".intercalate texts ∧
      List.Forall₂ (SlotText g tag) value.slots texts
  | .list [], pieces, h => by
    cases h
    exact ⟨[""], List.cons_ne_nil _ _, String.intercalate_singleton.symm, .cons rfl .nil⟩
  | .list (item :: items), pieces, h => by
    rw [literal, map_eq_ok_iff] at h
    obtain ⟨literals, hliterals, rfl⟩ := h
    obtain ⟨texts, hne, htext, hslots⟩ := exists_texts_of_literals (item :: items) hliterals
    rw [Generator.render_intercalate]
    exact ⟨texts, hne (List.cons_ne_nil _ _), htext, hslots⟩
  | .query q, pieces, h => by cases h
  | .null, _, h => exists_texts_of_isScalar rfl h
  | .bool _, _, h => exists_texts_of_isScalar rfl h
  | .int _, _, h => exists_texts_of_isScalar rfl h
  | .float _, _, h => exists_texts_of_isScalar rfl h
  | .string _, _, h => exists_texts_of_isScalar rfl h

theorem exists_texts_of_literals : ∀ (items : List Value) {lists : List (List Piece)},
    literals tag items = .ok lists →
    ∃ texts, (items ≠ [] → texts ≠ []) ∧
      ", ".intercalate (lists.map g.render) = ", ".intercalate texts ∧
      List.Forall₂ (SlotText g tag) (slotsAll items) texts
  | [], lists, h => by
    cases h
    exact ⟨[], absurd rfl, rfl, .nil⟩
  | item :: items, lists, h => by
    rw [literals, bind_eq_ok_iff] at h
    obtain ⟨first, hfirst, h⟩ := h
    obtain ⟨rest, hrest, hlists⟩ := bind_eq_ok_iff.mp h
    cases hlists
    obtain ⟨texts, hne, htext, hslots⟩ := exists_texts_of_literal item hfirst
    obtain ⟨others, hothers, hotherText, hotherSlots⟩ := exists_texts_of_literals items hrest
    have hall : List.Forall₂ (SlotText g tag) (slotsAll (item :: items)) (texts ++ others) := by
      rw [slotsAll]
      exact List.rel_append hslots hotherSlots
    refine ⟨texts ++ others, fun _ => List.append_ne_nil_of_left_ne_nil hne _, ?_, hall⟩
    cases items with
    | nil =>
      cases hrest
      rw [List.forall₂_nil_left_iff.mp hotherSlots, List.append_nil, ← htext]
      exact String.intercalate_singleton
    | cons next items =>
      have hnil : rest.map g.render ≠ [] := by
        rw [literals, bind_eq_ok_iff] at hrest
        obtain ⟨_, _, hrest⟩ := hrest
        obtain ⟨_, _, hrest⟩ := bind_eq_ok_iff.mp hrest
        cases hrest
        exact List.cons_ne_nil _ _
      rw [List.map_cons, String.intercalate_cons_of_ne_nil hnil, hotherText, htext,
        String.intercalate_append_of_ne_nil hne (hothers (List.cons_ne_nil _ _))]

end

theorem exists_texts_of_cast {value : Value} {text : String} (h : value.cast g tag = .ok text) :
    ∃ texts, texts ≠ [] ∧ text = ", ".intercalate texts ∧
      List.Forall₂ (SlotText g tag) value.slots texts := by
  rw [cast_eq, map_eq_ok_iff] at h
  obtain ⟨pieces, hpieces, rfl⟩ := h
  exact exists_texts_of_literal value hpieces

end Value

/-! ## Slots as lexemes -/

namespace Dialect

variable {d : Dialect} {tag : TypeTag} {slots : List (Option Value)} {texts : List String}

theorem IsLiteral.ne_nil {cs : List Char} (h : d.IsLiteral cs) : cs ≠ [] := by
  cases h with
  | null => simp
  | number h => exact h.ne_nil
  | string h =>
    rintro rfl
    cases h

/-- Whether characters stand in a slot: one literal, or nothing. -/
def IsSlot (d : Dialect) (cs : List Char) : Prop := d.IsLiteral cs ∨ cs = []

theorem selfDelimiting_slot (d : Dialect) : SelfDelimiting d.IsSlot := by
  apply selfDelimiting_of_reader d.readLiteral?
  intro u hu
  rcases hu with hu | rfl
  · exact hu.exists_read
  · exact ⟨[], fun r hr => readLiteral?_append_of_not_string (List.forall_mem_nil _) hr⟩

/-- The text of a slot is a literal when a scalar stands there. -/
theorem isLiteral_slotText_iff {slot : Option Value} {text : String}
    (h : Value.SlotText d.generator tag slot text) :
    d.IsLiteral text.toList ↔ slot ≠ none := by
  cases slot with
  | none =>
    obtain rfl : text = "" := h
    exact iff_of_false (fun hliteral => hliteral.ne_nil rfl) (fun hne => hne rfl)
  | some value => exact iff_of_true (Value.isLiteral_of_cast d h.1 h.2) nofun

theorem isSlot_of_slotText {slot : Option Value} {text : String}
    (h : Value.SlotText d.generator tag slot text) : d.IsSlot text.toList := by
  cases slot with
  | none =>
    obtain rfl : text = "" := h
    exact .inr rfl
  | some value => exact .inl ((isLiteral_slotText_iff h).mpr nofun)

theorem isSlot_of_forall₂ (h : List.Forall₂ (Value.SlotText d.generator tag) slots texts) :
    ∀ cs ∈ texts.map String.toList, d.IsSlot cs := by
  induction h with
  | nil => nofun
  | cons hslot _ ih => exact List.forall_mem_cons.mpr ⟨isSlot_of_slotText hslot, ih⟩

/-- All slots hold literals when a scalar stands in each. -/
theorem forall_isLiteral_iff (h : List.Forall₂ (Value.SlotText d.generator tag) slots texts) :
    (∀ text ∈ texts, d.IsLiteral text.toList) ↔ none ∉ slots := by
  induction h with
  | nil => simp
  | cons hslot _ ih =>
    rw [List.forall_mem_cons, isLiteral_slotText_iff hslot, ih, List.mem_cons, not_or]
    exact and_congr_left' ne_comm

/-- Slots that end in front of something else than a comma and begin like one literal are
this literal. -/
theorem eq_singleton_of_intercalate_append {us : List (List Char)} {l r s : List Char}
    (hus : us ≠ []) (hslots : ∀ u ∈ us, d.IsSlot u) (hl : d.IsLiteral l) (hr : Stops r)
    (hs : Stops s) (hcomma : s.head? ≠ some ',')
    (h : [',', ' '].intercalate us ++ r = l ++ s) : us = [l] ∧ r = s := by
  cases us with
  | nil => exact absurd rfl hus
  | cons u us =>
    have hu := hslots u (.head _)
    cases us with
    | nil =>
      rw [List.intercalate_singleton] at h
      obtain ⟨rfl, hrest⟩ := d.selfDelimiting_slot hu (.inl hl) hr hs h
      exact ⟨rfl, hrest⟩
    | cons v vs =>
      rw [List.intercalate_cons_cons, List.append_assoc, List.append_assoc] at h
      obtain ⟨-, hrest⟩ := d.selfDelimiting_slot hu (.inl hl) ⟨',', _, rfl, by simp⟩ hs h
      exact absurd (hrest ▸ rfl) hcomma

/-! ## Slots as operands -/

/-- Slots between parentheses are literals between parentheses when a scalar stands in
each. -/
theorem exists_members_iff (hne : texts ≠ [])
    (h : List.Forall₂ (Value.SlotText d.generator tag) slots texts) (before : String) :
    (∃ literals : List String, literals ≠ [] ∧ (∀ l ∈ literals, d.IsLiteral l.toList) ∧
      before ++ ", ".intercalate texts ++ ")" = before ++ ", ".intercalate literals ++ ")") ↔
    none ∉ slots := by
  rw [← forall_isLiteral_iff h]
  constructor
  · rintro ⟨literals, hliterals, hall, htext⟩
    have hchars := congrArg String.toList htext
    simp only [String.toList_append, String.toList_intercalate, List.append_assoc] at hchars
    have hslots : ∀ cs ∈ literals.map String.toList, d.IsSlot cs :=
      List.forall_mem_map.mpr fun l hl => .inl (hall l hl)
    have hsame := (eq_of_intercalate_append d.selfDelimiting_slot (isSlot_of_forall₂ h) hslots
      (by simpa using hne) (by simpa using hliterals) (List.append_cancel_left hchars)).1
    have hinj : Function.Injective (List.map String.toList) :=
      List.map_injective_iff.mpr fun _ _ => String.toList_injective
    rw [hinj hsame]
    exact hall
  · intro hall
    exact ⟨texts, hne, hall, rfl⟩

theorem exists_slots_eq_iff (h : List.Forall₂ (Value.SlotText d.generator tag) slots texts) :
    (∃ literal : String, d.IsLiteral literal.toList ∧ texts = [literal]) ↔
      ∃ value, slots = [some value] := by
  constructor
  · rintro ⟨literal, hliteral, rfl⟩
    obtain ⟨slot, rest, hslot, hrest, rfl⟩ := List.forall₂_cons_right_iff.mp h
    obtain rfl := List.forall₂_nil_right_iff.mp hrest
    have hsome := (isLiteral_slotText_iff hslot).mp hliteral
    obtain ⟨value, rfl⟩ := Option.ne_none_iff_exists'.mp hsome
    exact ⟨value, rfl⟩
  · rintro ⟨value, rfl⟩
    obtain ⟨literal, rest, hslot, hrest, rfl⟩ := List.forall₂_cons_left_iff.mp h
    obtain rfl := List.forall₂_nil_left_iff.mp hrest
    exact ⟨literal, (isLiteral_slotText_iff hslot).mpr nofun, rfl⟩

/-- Slots on both sides of a range are two literals when one scalar stands on each. -/
theorem exists_ends_iff {highSlots : List (Option Value)} {highs : List String}
    (hne : texts ≠ []) (hhighs : highs ≠ [])
    (h : List.Forall₂ (Value.SlotText d.generator tag) slots texts)
    (hhigh : List.Forall₂ (Value.SlotText d.generator tag) highSlots highs) (before : String) :
    (∃ low high : String, d.IsLiteral low.toList ∧ d.IsLiteral high.toList ∧
      before ++ ", ".intercalate texts ++ " AND " ++ ", ".intercalate highs =
        before ++ low ++ " AND " ++ high) ↔
    (∃ value, slots = [some value]) ∧ ∃ value, highSlots = [some value] := by
  rw [← exists_slots_eq_iff h, ← exists_slots_eq_iff hhigh]
  constructor
  · rintro ⟨low, high, hlow, hhigh', htext⟩
    have hchars := congrArg (fun text => text.toList ++ [')']) htext
    simp only [String.toList_append, String.toList_intercalate, List.append_assoc] at hchars
    have hand : ∀ cs, Stops (" AND ".toList ++ cs) := fun cs => ⟨' ', _, rfl, by simp⟩
    have hclose : Stops [')'] := ⟨')', [], rfl, by simp⟩
    obtain ⟨hlows, hrest⟩ := eq_singleton_of_intercalate_append (by simpa using hne)
      (isSlot_of_forall₂ h) hlow (hand _) (hand _) (by simp) (List.append_cancel_left hchars)
    obtain ⟨hhighs', -⟩ := eq_singleton_of_intercalate_append (by simpa using hhighs)
      (isSlot_of_forall₂ hhigh) hhigh' hclose hclose (by simp) (List.append_cancel_left hrest)
    have hinj : Function.Injective (List.map String.toList) :=
      List.map_injective_iff.mpr fun _ _ => String.toList_injective
    exact ⟨⟨low, hlow, hinj hlows⟩, high, hhigh', hinj hhighs'⟩
  · rintro ⟨⟨low, hlow, rfl⟩, high, hhigh', rfl⟩
    exact ⟨low, high, hlow, hhigh', by simp only [String.intercalate_singleton]⟩

/-! ## The forms of a test -/

theorem append_paren_ne {decided : String} (h : decided.toList.getLast? ≠ some ')')
    (text : String) : text ++ ")" ≠ decided := by
  rintro rfl
  simp at h

theorem isListTest_eq_iff {before text : String} :
    d.IsListTest before .eq (text ++ ")") ↔
      ∃ literals : List String, literals ≠ [] ∧ (∀ l ∈ literals, d.IsLiteral l.toList) ∧
        text ++ ")" = before ++ " IN (" ++ ", ".intercalate literals ++ ")" := by
  generalize htext : text ++ ")" = whole
  constructor
  · intro h
    cases h with
    | never => exact absurd htext (append_paren_ne (by simp) text)
    | member hne hliterals => exact ⟨_, hne, hliterals, rfl⟩
  · rintro ⟨literals, hne, hliterals, rfl⟩
    exact .member hne hliterals

theorem isListTest_ne_iff {before text : String} :
    d.IsListTest before .ne (text ++ ")") ↔
      ∃ literals : List String, literals ≠ [] ∧ (∀ l ∈ literals, d.IsLiteral l.toList) ∧
        text ++ ")" = before ++ " NOT IN (" ++ ", ".intercalate literals ++ ")" := by
  generalize htext : text ++ ")" = whole
  constructor
  · intro h
    cases h with
    | always => exact absurd htext (append_paren_ne (by simp) text)
    | noMember hne hliterals => exact ⟨_, hne, hliterals, rfl⟩
  · rintro ⟨literals, hne, hliterals, rfl⟩
    exact .noMember hne hliterals

theorem isListTest_between_iff {before text : String} :
    d.IsListTest before .between text ↔
      ∃ low high : String, d.IsLiteral low.toList ∧ d.IsLiteral high.toList ∧
        text = before ++ " BETWEEN " ++ low ++ " AND " ++ high := by
  constructor
  · rintro ⟨⟩
    exact ⟨_, _, ‹_›, ‹_›, rfl⟩
  · rintro ⟨low, high, hlow, hhigh, rfl⟩
    exact .range hlow hhigh

end Dialect

/-! ## Tests against lists -/

namespace Generator

variable {g : Generator} {t : Target} {column text field : String} {op : Operator}
  {items : List Value}

/-- What is written for a test against a list is a range, a test that is decided, or a
membership. -/
theorem listTest_cases (h : g.listTest t column field op items = .ok text) :
    (∃ low high lowText highText, op = .between ∧ items = [low, high] ∧
      g.literal t field low = .ok lowText ∧ g.literal t field high = .ok highText ∧
      text = column ++ " BETWEEN " ++ lowText ++ " AND " ++ highText) ∨
    (op = .eq ∧ items = [] ∧ text = "1 = 0") ∨
    (op = .ne ∧ items = [] ∧ text = "1 = 1") ∨
    ∃ members, items ≠ [] ∧ g.literal t field (.list items) = .ok members ∧
      (op = .eq ∧ text = column ++ " IN (" ++ members ++ ")" ∨
        op = .ne ∧ text = column ++ " NOT IN (" ++ members ++ ")") := by
  unfold listTest at h
  split at h
  next low high =>
    obtain ⟨lowText, hlow, h⟩ := bind_eq_ok_iff.mp h
    obtain ⟨highText, hhigh, h⟩ := bind_eq_ok_iff.mp h
    exact .inl ⟨low, high, lowText, highText, rfl, rfl, hlow, hhigh, (Except.ok.inj h).symm⟩
  next => cases h
  next => exact .inr (.inl ⟨rfl, rfl, (Except.ok.inj h).symm⟩)
  next => exact .inr (.inr (.inl ⟨rfl, rfl, (Except.ok.inj h).symm⟩))
  next hne =>
    obtain ⟨members, hmembers, h⟩ := bind_eq_ok_iff.mp h
    exact .inr (.inr (.inr ⟨members, hne, hmembers, .inl ⟨rfl, (Except.ok.inj h).symm⟩⟩))
  next hne =>
    obtain ⟨members, hmembers, h⟩ := bind_eq_ok_iff.mp h
    exact .inr (.inr (.inr ⟨members, hne, hmembers, .inr ⟨rfl, (Except.ok.inj h).symm⟩⟩))
  next => cases h

theorem exists_texts_of_literal {value : Value} (h : g.literal t field value = .ok text) :
    ∃ texts, texts ≠ [] ∧ text = ", ".intercalate texts ∧
      List.Forall₂ (Value.SlotText g (t.typeOf field)) value.slots texts := by
  rw [literal, mapError_eq_ok_iff] at h
  exact Value.exists_texts_of_cast h

end Generator

namespace Sql

open Generator

/-- What is written for a test against a list is well formed exactly when the values of
the list are operands: no list among the members of a set is empty, and there is one
scalar on each side of a range. -/
theorem isListTest_iff (d : Dialect) (scope : Scope) (column field : String) (op : Operator)
    (items : List Value) (text : String)
    (h : (d.generator.leafText scope column field op (.list items)).outcome = .ok text) :
    d.IsListTest column op text ↔ Value.AreOperands op items := by
  have hlist : d.generator.listTest scope.target column field op items = .ok text := by
    cases op <;> exact h
  rcases listTest_cases hlist with
    ⟨low, high, lowText, highText, rfl, rfl, hlow, hhigh, rfl⟩ | ⟨rfl, rfl, rfl⟩ |
    ⟨rfl, rfl, rfl⟩ | ⟨members, hne, hmembers, hop⟩
  · obtain ⟨lows, hlows, rfl, hlowSlots⟩ := exists_texts_of_literal hlow
    obtain ⟨highs, hhighs, rfl, hhighSlots⟩ := exists_texts_of_literal hhigh
    rw [Dialect.isListTest_between_iff, Dialect.exists_ends_iff hlows hhighs hlowSlots hhighSlots]
    simp [Value.AreOperands]
  · exact iff_of_true .never (by simp [Value.AreOperands, Value.slotsAll])
  · exact iff_of_true .always (by simp [Value.AreOperands, Value.slotsAll])
  · obtain ⟨texts, htexts, rfl, hslots⟩ := exists_texts_of_literal hmembers
    rw [Value.slots_list hne] at hslots
    rcases hop with ⟨rfl, rfl⟩ | ⟨rfl, rfl⟩
    · rw [Dialect.isListTest_eq_iff]
      exact Dialect.exists_members_iff htexts hslots _
    · rw [Dialect.isListTest_ne_iff]
      exact Dialect.exists_members_iff htexts hslots _

/-- Lists among the members are written as their scalars. -/
theorem isListTest_iff_nested :
    (Dialect.ansi.generator.leafText postScope "title" "title" .ne
        (.list [.string "it's", .list [.int 1, .list [.null]]])).outcome =
      .ok "title NOT IN ('it''s', 1, NULL)" ∧
    (Dialect.ansi.IsListTest "title" .ne "title NOT IN ('it''s', 1, NULL)" ↔
      Value.AreOperands .ne [.string "it's", .list [.int 1, .list [.null]]]) :=
  have h : (Dialect.ansi.generator.leafText postScope "title" "title" .ne
      (.list [.string "it's", .list [.int 1, .list [.null]]])).outcome =
        .ok "title NOT IN ('it''s', 1, NULL)" := rfl
  ⟨h, isListTest_iff .ansi postScope "title" "title" .ne _ _ h⟩

/-- A set of one empty list has no literal, and a list as an end of a range may have
several. -/
theorem not_isListTest_nested :
    (Dialect.ansi.generator.leafText postScope "id" "id" .eq (.list [.list []])).outcome =
      .ok "id IN ()" ∧
    ¬Dialect.ansi.IsListTest "id" .eq "id IN ()" ∧
    (Dialect.ansi.generator.leafText postScope "id" "id" .between
        (.list [.list [.int 1, .int 2], .int 3])).outcome =
      .ok "id BETWEEN 1, 2 AND 3" ∧
    ¬Dialect.ansi.IsListTest "id" .between "id BETWEEN 1, 2 AND 3" := by
  have hset : ¬Dialect.ansi.IsListTest "id" .eq "id IN ()" := by
    intro h
    have hslots : List.Forall₂ (Value.SlotText Dialect.ansi.generator .integer) [none] [""] :=
      .cons rfl .nil
    have hempty : Dialect.ansi.IsListTest "id" .eq
        ("id" ++ " IN (" ++ ", ".intercalate [""] ++ ")") := h
    have hmembers := Dialect.isListTest_eq_iff.mp hempty
    exact (Dialect.exists_members_iff (List.cons_ne_nil _ _) hslots _).mp hmembers (.head _)
  have hrange : ¬Dialect.ansi.IsListTest "id" .between "id BETWEEN 1, 2 AND 3" := by
    intro h
    have hslot : ∀ n text, (Value.int n).cast Dialect.ansi.generator .integer = .ok text →
        Value.SlotText Dialect.ansi.generator .integer (some (.int n)) text :=
      fun _ _ hcast => ⟨rfl, hcast⟩
    have hlows := List.Forall₂.cons (hslot 1 "1" rfl) (.cons (hslot 2 "2" rfl) .nil)
    have hhighs := List.Forall₂.cons (hslot 3 "3" rfl) .nil
    have hlists : Dialect.ansi.IsListTest "id" .between
        ("id" ++ " BETWEEN " ++ ", ".intercalate ["1", "2"] ++ " AND " ++ ", ".intercalate ["3"]) :=
      h
    have hends := (Dialect.exists_ends_iff (List.cons_ne_nil _ _) (List.cons_ne_nil _ _) hlows
      hhighs _).mp (Dialect.isListTest_between_iff.mp hlists)
    obtain ⟨⟨value, hvalue⟩, -⟩ := hends
    cases hvalue
  exact ⟨rfl, hset, rfl, hrange⟩

end Sql

end RelQuery
