import Mathlib.Data.List.DropRight
import RelQuery.Text.Blank

/-!
# Cutting texts

Trimming takes away the blanks around a text and leaves none at either end
(`trimChars_append`, `isBlank_of_head?_trimChars`, `isBlank_of_getLast?_trimChars`).  A cut
at the last blank is undone by putting the parts together, as long as the second has no
blanks (`splitAtLastBlank_append`).  A cut at a mark cuts what stands on either side of a
mark on its own (`splitAt_append_cons`), and no part has the mark
(`not_mem_of_mem_splitAt`).
-/

namespace RelQuery.Text

variable {cs : List Char}

/-! ## Blanks at the ends -/

/-- No character that is visible in ASCII is a blank. -/
theorem isBlank_of_toNat {c : Char} (h : 33 ≤ c.toNat ∧ c.toNat ≤ 126) : isBlank c = false := by
  simp [isBlank, inRanges, blankRanges]
  omega

theorem isBlank_of_isAlpha {c : Char} (h : c.isAlpha = true) : isBlank c = false := by
  have hcase : (c.isUpper || c.isLower) = true := h
  rcases Bool.or_eq_true_iff.mp hcase with hupper | hlower
  · obtain ⟨hA, hZ⟩ : 65 ≤ c.toNat ∧ c.toNat ≤ 90 := of_decide_eq_true hupper
    exact isBlank_of_toNat (by omega)
  · obtain ⟨ha, hz⟩ := Bool.and_eq_true_iff.mp hlower
    have hlow : 97 ≤ c.toNat := of_decide_eq_true ha
    have hhigh : c.toNat ≤ 122 := of_decide_eq_true hz
    exact isBlank_of_toNat (by omega)

theorem isBlank_of_isDigit {c : Char} (h : c.isDigit = true) : isBlank c = false := by
  obtain ⟨hlow, hhigh⟩ := Char.isDigit_iff_toNat.mp h
  have hzero : '0'.toNat = 48 := rfl
  have hnine : '9'.toNat = 57 := rfl
  exact isBlank_of_toNat (by omega)

theorem dropEndBlanks_eq_rdropWhile (cs : List Char) :
    dropEndBlanks cs = cs.rdropWhile isBlank :=
  rfl

theorem dropEndBlanks_append (cs : List Char) {blanks : List Char}
    (h : ∀ c ∈ blanks, isBlank c = true) : dropEndBlanks (cs ++ blanks) = dropEndBlanks cs := by
  have hblanks : ∀ c ∈ blanks.reverse, isBlank c = true :=
    fun c hc => h c (List.mem_reverse.mp hc)
  rw [dropEndBlanks_eq_rdropWhile, dropEndBlanks_eq_rdropWhile, List.rdropWhile,
    List.reverse_append, List.dropWhile_append_of_pos hblanks, List.rdropWhile]

/-- Characters that do not end with a blank lose none at the end. -/
theorem dropEndBlanks_eq_self (h : ∀ c, cs.getLast? = some c → isBlank c = false) :
    dropEndBlanks cs = cs := by
  rw [dropEndBlanks_eq_rdropWhile, List.rdropWhile_eq_self_iff]
  intro hne
  simp [h _ (List.getLast?_eq_some_getLast hne)]

theorem dropEndBlanks_subset (cs : List Char) : dropEndBlanks cs ⊆ cs := by
  rw [dropEndBlanks_eq_rdropWhile]
  exact (List.rdropWhile_prefix isBlank cs).subset

theorem trimChars_subset (cs : List Char) : trimChars cs ⊆ cs :=
  List.Subset.trans (dropEndBlanks_subset _) (List.dropWhile_suffix isBlank).subset

/-- Blanks around a text are trimmed with its own. -/
theorem trimChars_append {before after : List Char} (hbefore : ∀ c ∈ before, isBlank c = true)
    (hafter : ∀ c ∈ after, isBlank c = true) :
    trimChars (before ++ cs ++ after) = trimChars cs := by
  rw [trimChars, trimChars, dropBlanks, dropBlanks, List.append_assoc,
    List.dropWhile_append_of_pos hbefore, List.dropWhile_append]
  split
  next hcs =>
    have hnil : after.dropWhile isBlank = [] := List.dropWhile_eq_nil_iff.mpr hafter
    rw [hnil, List.isEmpty_iff.mp hcs]
  next => exact dropEndBlanks_append _ hafter

/-- A text is what is left when it is trimmed, with blanks around it. -/
theorem exists_eq_append_trimChars (cs : List Char) : ∃ before after,
    (∀ c ∈ before, isBlank c = true) ∧ (∀ c ∈ after, isBlank c = true) ∧
      cs = before ++ trimChars cs ++ after := by
  refine ⟨cs.takeWhile isBlank, (dropBlanks cs).rtakeWhile isBlank,
    fun c hc => List.mem_takeWhile_imp hc, fun c hc => List.mem_rtakeWhile_imp hc, ?_⟩
  rw [trimChars, dropEndBlanks_eq_rdropWhile, List.append_assoc, List.rdropWhile_append_rtakeWhile,
    dropBlanks, List.takeWhile_append_dropWhile]

/-- There is nothing left to trim after a text has been trimmed. -/
theorem trimChars_trimChars (cs : List Char) : trimChars (trimChars cs) = trimChars cs := by
  obtain ⟨before, after, hbefore, hafter, hcs⟩ := exists_eq_append_trimChars cs
  conv_rhs => rw [hcs, trimChars_append hbefore hafter]

/-- No text begins with a blank after it has been trimmed. -/
theorem isBlank_of_head?_trimChars {c : Char} (h : (trimChars cs).head? = some c) :
    isBlank c = false := by
  rw [trimChars, dropEndBlanks_eq_rdropWhile] at h
  obtain ⟨rest, hrest⟩ := List.rdropWhile_prefix isBlank (dropBlanks cs)
  have hhead : (dropBlanks cs).head? = some c := by
    rw [← hrest, List.head?_append, h]
    rfl
  have hdropped := List.head?_dropWhile_not isBlank cs
  rw [dropBlanks] at hhead
  rwa [hhead] at hdropped

/-- No text ends with a blank after it has been trimmed. -/
theorem isBlank_of_getLast?_trimChars {c : Char} (h : (trimChars cs).getLast? = some c) :
    isBlank c = false := by
  rw [trimChars, dropEndBlanks_eq_rdropWhile] at h
  have hne : (dropBlanks cs).rdropWhile isBlank ≠ [] := by
    intro hnil
    rw [hnil] at h
    cases h
  rw [List.getLast?_eq_some_getLast hne, Option.some.injEq] at h
  simpa [h] using List.rdropWhile_last_not isBlank (dropBlanks cs) hne

theorem trimChars_toList {s : String} (h : trim s = s) : trimChars s.toList = s.toList := by
  rw [trim] at h
  rw [← String.toList_ofList (l := trimChars s.toList), h]

/-! ## Cuts -/

theorem splitAtLastBlank_eq_none (h : ∀ c ∈ cs, isBlank c = false) :
    splitAtLastBlank cs = none := by
  induction cs with
  | nil => rfl
  | cons c cs ih =>
    obtain ⟨hc, hcs⟩ := List.forall_mem_cons.mp h
    simp [splitAtLastBlank, ih hcs, hc]

/-- A text is cut at a blank that no other blank follows. -/
theorem splitAtLastBlank_append (before : List Char) {c : Char} {word : List Char}
    (hc : isBlank c = true) (hword : ∀ d ∈ word, isBlank d = false) :
    splitAtLastBlank (before ++ c :: word) = some (before, word) := by
  induction before with
  | nil => simp [splitAtLastBlank, splitAtLastBlank_eq_none hword, hc]
  | cons d before ih => simp [splitAtLastBlank, ih]

/-- A cut at the last blank takes that blank away and nothing else. -/
theorem exists_eq_of_splitAtLastBlank {before after : List Char}
    (h : splitAtLastBlank cs = some (before, after)) : ∃ c, cs = before ++ c :: after := by
  induction cs generalizing before with
  | nil => cases h
  | cons c cs ih =>
    rw [splitAtLastBlank] at h
    split at h
    next front word hsplit =>
      cases h
      obtain ⟨d, rfl⟩ := ih hsplit
      exact ⟨d, rfl⟩
    next =>
      split at h
      · cases h
        exact ⟨c, rfl⟩
      · cases h

/-- Cutting at a mark that stands in a text cuts what is before it and what is after it. -/
theorem splitAt_append_cons (mark : Char) (before after : List Char) :
    splitAt mark (before ++ mark :: after) = splitAt mark before ++ splitAt mark after :=
  List.splitOn_append_cons_self before after

theorem splitAt_cons_of_ne {mark c : Char} (h : c ≠ mark) (cs : List Char) :
    splitAt mark (c :: cs) = (splitAt mark cs).modifyHead (List.cons c) := by
  rw [splitAt, splitAt, List.splitOn_cons_eq_if_modifyHead, if_neg (by simpa using h)]

theorem not_mem_of_mem_splitAt {mark : Char} {part : List Char} (h : part ∈ splitAt mark cs) :
    mark ∉ part := by
  induction cs generalizing part with
  | nil =>
    obtain rfl := List.mem_singleton.mp h
    exact List.not_mem_nil
  | cons c cs ih =>
    by_cases hc : c = mark
    · rw [hc, ← List.nil_append (mark :: cs), splitAt_append_cons, List.mem_append] at h
      rcases h with h | h
      · obtain rfl := List.mem_singleton.mp h
        exact List.not_mem_nil
      · exact ih h
    · rw [splitAt_cons_of_ne hc] at h
      cases hparts : splitAt mark cs with
      | nil => exact absurd hparts (splitAt_ne_nil mark cs)
      | cons first parts =>
        rw [hparts, List.modifyHead_cons, List.mem_cons] at h
        rcases h with rfl | h
        · rw [List.mem_cons, not_or]
          exact ⟨Ne.symm hc, ih (by rw [hparts]; exact .head _)⟩
        · exact ih (by rw [hparts]; exact .tail _ h)

/-- Only a text without the mark is left in one part. -/
theorem splitAt_eq_singleton_iff {mark : Char} : splitAt mark cs = [cs] ↔ mark ∉ cs :=
  ⟨fun h => not_mem_of_mem_splitAt (h ▸ List.mem_singleton_self cs), List.splitOn_eq_singleton⟩

/-- The last segment of a text is the text exactly when there is no mark in it. -/
theorem getLast?_splitAt_eq_iff {mark : Char} :
    (splitAt mark cs).getLast? = some cs ↔ mark ∉ cs := by
  constructor
  · intro h
    exact not_mem_of_mem_splitAt (List.mem_of_getLast? h)
  · intro h
    rw [splitAt_eq_singleton_iff.mpr h, List.getLast?_singleton]

end RelQuery.Text
