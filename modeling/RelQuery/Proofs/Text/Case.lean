import Mathlib.Data.List.Forall2
import RelQuery.Vocabulary

/-!
# Words in any case

Keys, operators and directions are words that may be written in any ASCII case.
`Text.IsAnyCaseOf` says so letter by letter: each is a capital of the word or the small
letter of that capital.  The readers make all letters of two texts small and compare
them, which is the same thing for a word of capitals (`Text.sameWord_iff`).  So a key
names a connective exactly when it is its keyword in any case
(`Connective.ofKey?_eq_some_iff`).
-/

namespace RelQuery

/-- Whether a character is a capital letter or the small one. -/
def IsCaseOf (capital c : Char) : Prop := c = capital ∨ c = capital.toLower

/-- Whether a text is a word of capitals in any case. -/
def Text.IsAnyCaseOf (capitals text : String) : Prop :=
  List.Forall₂ IsCaseOf capitals.toList text.toList

/-! ## Cases of letters -/

/-- A capital is made small by thirty-two code points, and other characters stay. -/
theorem Text.toNat_toLower (c : Char) :
    c.toLower.toNat = if 65 ≤ c.toNat ∧ c.toNat ≤ 90 then c.toNat + 32 else c.toNat := by
  by_cases h : 65 ≤ c.toNat ∧ c.toNat ≤ 90
  · have hlower : c.toLower.toNat = (c.val + 32).toNat := congrArg Char.toNat (dif_pos h)
    have hcode : c.val.toNat ≤ 90 := h.2
    rw [if_pos h, hlower, UInt32.toNat_add]
    exact Nat.mod_eq_of_lt (Nat.lt_of_le_of_lt (Nat.add_le_add_right hcode 32) (by decide))
  · have hlower : c.toLower = c := dif_neg h
    rw [if_neg h, hlower]

theorem toLower_eq_iff {capital c : Char} (h : 65 ≤ capital.toNat ∧ capital.toNat ≤ 90) :
    c.toLower = capital.toLower ↔ IsCaseOf capital c := by
  rw [IsCaseOf, ← Char.toNat_inj, ← Char.toNat_inj, ← Char.toNat_inj, Text.toNat_toLower c,
    Text.toNat_toLower capital, if_pos h]
  split <;> omega

theorem map_toLower_eq_iff {capitals cs : List Char}
    (h : ∀ capital ∈ capitals, 65 ≤ capital.toNat ∧ capital.toNat ≤ 90) :
    cs.map Char.toLower = capitals.map Char.toLower ↔ List.Forall₂ IsCaseOf capitals cs := by
  induction capitals generalizing cs with
  | nil => simp
  | cons capital capitals ih =>
    obtain ⟨hcapital, hcapitals⟩ := List.forall_mem_cons.mp h
    cases cs with
    | nil => simp
    | cons c cs =>
      rw [List.map_cons, List.map_cons, List.cons.injEq, List.forall₂_cons,
        toLower_eq_iff hcapital, ih hcapitals]

/-! ## Words -/

namespace Text

variable {capitals text : String}

/-- A text is the same word as the small letters of some capitals exactly when it is
these capitals in any case. -/
theorem sameWord_iff {word : String}
    (hcapitals : ∀ c ∈ capitals.toList, 65 ≤ c.toNat ∧ c.toNat ≤ 90)
    (hword : word.toList.map Char.toLower = capitals.toList.map Char.toLower) :
    sameWord text word = true ↔ IsAnyCaseOf capitals text := by
  rw [sameWord, beq_iff_eq, hword]
  exact map_toLower_eq_iff hcapitals

/-- A text is in any case of words of one length only. -/
theorem IsAnyCaseOf.length_congr {capitals' : String} (h : IsAnyCaseOf capitals text)
    (h' : IsAnyCaseOf capitals' text) : capitals.length = capitals'.length :=
  h.length_eq.trans h'.length_eq.symm

/-- What holds of the capitals of a word and of their small letters holds of the
characters of the word in any case. -/
theorem IsAnyCaseOf.forall_mem {P : Char → Prop} (h : IsAnyCaseOf capitals text)
    (hP : ∀ c ∈ capitals.toList, P c ∧ P c.toLower) : ∀ c ∈ text.toList, P c := by
  rw [IsAnyCaseOf] at h
  generalize text.toList = cs at h ⊢
  generalize capitals.toList = capitals at h hP
  induction h with
  | nil => exact List.forall_mem_nil _
  | cons hcase _ ih =>
    obtain ⟨hc, hcs⟩ := List.forall_mem_cons.mp hP
    refine List.forall_mem_cons.mpr ⟨?_, ih hcs⟩
    rcases hcase with rfl | rfl
    · exact hc.1
    · exact hc.2

theorem sameWord_and_iff : sameWord text "and" = true ↔ IsAnyCaseOf "AND" text :=
  sameWord_iff (by simp) rfl

theorem sameWord_or_iff : sameWord text "or" = true ↔ IsAnyCaseOf "OR" text :=
  sameWord_iff (by simp) rfl

end Text

/-- A key names a connective exactly when it is the keyword of it in any case. -/
theorem Connective.ofKey?_eq_some_iff {connective : Connective} {key : String} :
    ofKey? key = some connective ↔ Text.IsAnyCaseOf connective.keyword key := by
  rw [ofKey?]
  cases connective with
  | and =>
    rw [keyword, ← Text.sameWord_and_iff]
    by_cases hand : Text.sameWord key "and" = true <;> simp [hand]
  | or =>
    rw [keyword, ← Text.sameWord_or_iff]
    by_cases hand : Text.sameWord key "and" = true
    · have hor : ¬Text.sameWord key "or" = true := fun hor =>
        absurd ((Text.sameWord_and_iff.mp hand).length_congr (Text.sameWord_or_iff.mp hor))
          (by decide)
      simp [hand, hor]
    · simp [hand]

end RelQuery
