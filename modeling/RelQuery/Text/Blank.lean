/-!
# Blank characters

The Unicode property `White_Space` and what follows from it: trimming, blank
text, and splitting at the first or last blank.  Texts are read as lists of
characters, so every definition is a short recursion or a `List` operator.

* `isBlank` is membership in `blankRanges`, twenty-five characters in all.
* `trim` drops the blanks at both ends and nothing between.
* A text is blank when it has no other characters, so `isBlankText s` says that
  `trim s` is empty.
* `after?` drops a start that a text begins with.
-/

namespace RelQuery.Text

/-! ## The property -/

/-- The ranges of code points with the property `White_Space`, in order. -/
def blankRanges : List (Nat × Nat) :=
  [(0x9, 0xd), (0x20, 0x20), (0x85, 0x85), (0xa0, 0xa0), (0x1680, 0x1680), (0x2000, 0x200a),
    (0x2028, 0x2029), (0x202f, 0x202f), (0x205f, 0x205f), (0x3000, 0x3000)]

/-- Whether a code point lies in one of the ranges. -/
def inRanges (ranges : List (Nat × Nat)) (n : Nat) : Bool :=
  ranges.any fun r => decide (r.1 ≤ n) && decide (n ≤ r.2)

/-- Whether a character is white space. -/
def isBlank (c : Char) : Bool := inRanges blankRanges c.toNat

/-! ## Trimming -/

/-- The characters without the blanks at the start. -/
def dropBlanks (cs : List Char) : List Char := cs.dropWhile isBlank

/-- The characters without the blanks at the end. -/
def dropEndBlanks (cs : List Char) : List Char := (dropBlanks cs.reverse).reverse

/-- The characters without the blanks at either end. -/
def trimChars (cs : List Char) : List Char := dropEndBlanks (dropBlanks cs)

/-- The text without the blanks at either end. -/
def trim (s : String) : String := String.ofList (trimChars s.toList)

/-- Whether a text holds no character but blanks. -/
def isBlankText (s : String) : Bool := s.toList.all isBlank

/-- A blank text loses all its characters at the start. -/
theorem dropBlanks_eq_nil_iff {cs : List Char} : dropBlanks cs = [] ↔ cs.all isBlank = true := by
  induction cs with
  | nil => simp [dropBlanks]
  | cons c cs ih =>
    rw [dropBlanks, List.dropWhile_cons, List.all_cons, Bool.and_eq_true, ← ih]
    by_cases h : isBlank c = true
    · rw [if_pos h]
      exact (and_iff_right h).symm
    · rw [if_neg h]
      exact iff_of_false nofun fun hall => h hall.1

/-- A blank text loses all its characters at the end. -/
theorem dropEndBlanks_eq_nil_iff {cs : List Char} :
    dropEndBlanks cs = [] ↔ cs.all isBlank = true := by
  rw [dropEndBlanks, List.reverse_eq_nil_iff, dropBlanks_eq_nil_iff, List.all_reverse]

/-- A text is blank exactly when what its first blanks leave is blank. -/
theorem all_dropBlanks_iff {cs : List Char} :
    (dropBlanks cs).all isBlank = true ↔ cs.all isBlank = true := by
  have hfirst : (cs.takeWhile isBlank).all isBlank = true := List.all_takeWhile
  have hcs : cs.all isBlank =
      ((cs.takeWhile isBlank).all isBlank && (dropBlanks cs).all isBlank) := by
    rw [dropBlanks, ← List.all_append, List.takeWhile_append_dropWhile]
  rw [hcs, hfirst, Bool.true_and]

/-- Trimming leaves nothing of a blank text and something of any other. -/
theorem trim_eq_empty_iff {s : String} : trim s = "" ↔ isBlankText s = true := by
  rw [trim, isBlankText, ← all_dropBlanks_iff, ← dropEndBlanks_eq_nil_iff, trimChars]
  constructor
  · intro h
    have hchars := congrArg String.toList h
    simpa using hchars
  · intro h
    rw [h]

/-- Characters that end with one that is not blank lose none at the end. -/
theorem dropEndBlanks_concat (cs : List Char) {c : Char} (h : isBlank c = false) :
    dropEndBlanks (cs ++ [c]) = cs ++ [c] := by
  simp [dropEndBlanks, dropBlanks, h]

/-- Characters that neither start nor end with a blank are trimmed already. -/
theorem trimChars_eq_self {cs : List Char} (hhead : ∀ c, cs.head? = some c → isBlank c = false)
    (hlast : ∀ c, cs.getLast? = some c → isBlank c = false) : trimChars cs = cs := by
  have hdrop : dropBlanks cs = cs := by
    cases cs with
    | nil => rfl
    | cons c cs => simp [dropBlanks, hhead c rfl]
  rw [trimChars, hdrop]
  cases h : cs.getLast? with
  | none =>
    rw [List.getLast?_eq_none_iff.mp h]
    rfl
  | some c =>
    obtain ⟨ds, rfl⟩ := List.getLast?_eq_some_iff.mp h
    exact dropEndBlanks_concat ds (hlast c h)

/-! ## Splitting -/

/-- The text cut at every `mark`.  There is one part more than there are marks. -/
def splitAt (mark : Char) (cs : List Char) : List (List Char) := cs.splitOn mark

/-- Cutting leaves at least one part. -/
theorem splitAt_ne_nil (mark : Char) (cs : List Char) : splitAt mark cs ≠ [] :=
  List.splitOn_ne_nil mark cs

/-- The parts with a mark between neighbours are the text that was cut. -/
theorem intercalate_splitAt (mark : Char) (cs : List Char) :
    [mark].intercalate (splitAt mark cs) = cs :=
  List.intercalate_splitOn mark

/-- The characters after a start, if they begin with it. -/
def after? : List Char → List Char → Option (List Char)
  | [], cs => some cs
  | _ :: _, [] => none
  | s :: start, c :: cs => if s = c then after? start cs else none

/-- A text begins with a start exactly when it is the start and what follows. -/
theorem after?_eq_some_iff {start cs rest : List Char} :
    after? start cs = some rest ↔ cs = start ++ rest := by
  induction start generalizing cs with
  | nil => simp [after?]
  | cons s start ih =>
    cases cs with
    | nil => simp [after?]
    | cons c cs =>
      by_cases h : s = c
      · subst h
        simp [after?, ih]
      · simp [after?, h, Ne.symm h]

/-- The characters before the last blank and those after it, if there is one. -/
def splitAtLastBlank : List Char → Option (List Char × List Char)
  | [] => none
  | c :: cs =>
    match splitAtLastBlank cs with
    | some (before, after) => some (c :: before, after)
    | none => if isBlank c then some ([], cs) else none

/-! ## ASCII case -/

/-- The text with the ASCII capitals made small and every other character kept. -/
def lowerAscii (s : String) : String := String.ofList (s.toList.map Char.toLower)

/-- Whether two texts are one up to the case of their ASCII letters. -/
def sameWord (s t : String) : Bool := s.toList.map Char.toLower == t.toList.map Char.toLower

/-! ## Checks -/

example : isBlank ' ' = true ∧ isBlank '\u00a0' = true ∧ isBlank '\u200b' = false := by decide

example : trimChars "\u3000 a b\t\n".toList = "a b".toList := by decide

example : splitAt '.' "a..b".toList = [['a'], [], ['b']] := by decide

example : splitAtLastBlank "a b c".toList = some ("a b".toList, "c".toList) := by decide

example : sameWord "Not LIKE" "not like" = true ∧ sameWord "\u0130" "i" = false := by decide

end RelQuery.Text
