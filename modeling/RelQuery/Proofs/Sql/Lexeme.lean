import RelQuery.Proofs.Binary64.Numeral
import RelQuery.Sql.Dialect

/-!
# How databases read names and literals

A database takes a statement apart into names, literals and the text between.
Here is that reading, apart from the writing, one reader for each kind of lexeme.
A reader starts at the first character of the lexeme and gives back what the
lexeme stands for and what follows it.

* Between delimiters a closing delimiter that is written twice is one character.
  An escape character, where there is one, stands for the character after it
  (`readDelimited?`).
* A string stands between single quotes, and in `mySql` the backslash escapes
  (`Dialect.readString?`).
* A name is one or more segments with dots between.  A segment is a star, or
  stands between the delimiters of the dialect (`Dialect.readName?`).
* A literal is `NULL`, a numeral or a string (`Dialect.IsLiteral`).

Two facts are proved of each reader.  What the generator of the dialect writes
is read back, whatever follows (`readString?_stringLiteral`,
`readName?_quoteName`).  And a lexeme that is read as a whole is read in the
same way in front of other text (`readString?_append`, `readName?_append`), as
long as that text does not begin with a character that continues the lexeme.
So no two names are written in the same way (`readName?_quoteName_unique`).
-/

namespace RelQuery

/-! ## Between delimiters -/

/-- The characters before a closing delimiter, and what follows it. -/
def readDelimited? (closing : Char) (escape : Option Char) :
    List Char → Option (List Char × List Char)
  | [] => none
  | [c] => if c = closing then some ([], []) else none
  | c :: d :: cs =>
    if c = closing then
      if d = closing then (readDelimited? closing escape cs).map (Prod.map (closing :: ·) id)
      else some ([], d :: cs)
    else if escape = some c then (readDelimited? closing escape cs).map (Prod.map (d :: ·) id)
    else (readDelimited? closing escape (d :: cs)).map (Prod.map (c :: ·) id)

/-- The characters with the escape character, if there is one, written twice. -/
def escaped (escape : Option Char) (cs : List Char) : List Char :=
  match escape with
  | none => cs
  | some e => doubled e cs

section Delimited

variable {closing : Char} {escape : Option Char} {cs s rest following : List Char}

/-- A closing delimiter ends what it encloses, unless another follows. -/
theorem readDelimited?_closing (h : cs.head? ≠ some closing) :
    readDelimited? closing escape (closing :: cs) = some ([], cs) := by
  cases cs with
  | nil => rw [readDelimited?, if_pos rfl]
  | cons d cs =>
    have hd : d ≠ closing := fun hd => h (congrArg some hd)
    rw [readDelimited?, if_pos rfl, if_neg hd]

theorem readDelimited?_closing_closing :
    readDelimited? closing escape (closing :: closing :: cs) =
      (readDelimited? closing escape cs).map (Prod.map (closing :: ·) id) := by
  rw [readDelimited?, if_pos rfl, if_pos rfl]

theorem readDelimited?_escape {e c : Char} (h : e ≠ closing) :
    readDelimited? closing (some e) (e :: c :: cs) =
      (readDelimited? closing (some e) cs).map (Prod.map (c :: ·) id) := by
  rw [readDelimited?, if_neg h, if_pos rfl]

/-- A character that is not special stands for itself. -/
theorem readDelimited?_cons {c : Char} (hc : c ≠ closing) (he : escape ≠ some c) :
    readDelimited? closing escape (c :: cs) =
      (readDelimited? closing escape cs).map (Prod.map (c :: ·) id) := by
  cases cs with
  | nil => simp [readDelimited?, hc]
  | cons d cs => rw [readDelimited?, if_neg hc, if_neg he]

theorem doubled_cons (mark c : Char) (cs : List Char) :
    doubled mark (c :: cs) = (if c = mark then [c, c] else [c]) ++ doubled mark cs :=
  List.flatMap_cons

theorem length_doubled (mark : Char) (cs : List Char) :
    (doubled mark cs).length = cs.length + cs.count mark := by
  induction cs with
  | nil => rfl
  | cons c cs ih =>
    rw [doubled_cons, List.length_append, ih, List.length_cons, List.count_cons]
    by_cases hc : c = mark
    · simp only [hc, if_true, List.length_cons, List.length_nil, beq_self_eq_true]
      omega
    · simp only [hc, if_false, List.length_singleton, beq_iff_eq]
      omega

/-- Characters stay as they are exactly when the one that is doubled is not among
them. -/
theorem doubled_eq_self_iff {mark : Char} {cs : List Char} :
    doubled mark cs = cs ↔ mark ∉ cs := by
  constructor
  · intro h
    have hlength := length_doubled mark cs
    rw [h] at hlength
    exact List.count_eq_zero.mp (by omega)
  · intro h
    induction cs with
    | nil => rfl
    | cons c cs ih =>
      rw [List.mem_cons, not_or] at h
      rw [doubled_cons, if_neg (Ne.symm h.1), ih h.2]
      rfl

/-- The closing delimiter and the escape character are written twice, and every
other character once. -/
theorem doubled_escaped_cons (he : escape ≠ some closing) (c : Char) (s : List Char) :
    doubled closing (escaped escape (c :: s)) =
      (if c = closing ∨ escape = some c then [c, c] else [c]) ++
        doubled closing (escaped escape s) := by
  cases escape with
  | none => simp [escaped, doubled_cons]
  | some e =>
    have hne : closing ≠ e := fun h => he (congrArg some h.symm)
    by_cases hc : c = closing
    · simp [escaped, doubled_cons, hc, hne]
    · by_cases hce : c = e
      · have hec : e ≠ closing := hne.symm
        simp [escaped, doubled_cons, hce, hec]
      · have hec : e ≠ c := Ne.symm hce
        simp [escaped, doubled_cons, hc, hce, hec]

/-- What is written between delimiters is read back. -/
theorem readDelimited?_doubled (he : escape ≠ some closing) (s : List Char)
    (hf : following.head? ≠ some closing) :
    readDelimited? closing escape (doubled closing (escaped escape s) ++ closing :: following) =
      some (s, following) := by
  induction s with
  | nil =>
    have hnil : doubled closing (escaped escape []) = [] := by cases escape <;> rfl
    rw [hnil, List.nil_append, readDelimited?_closing hf]
  | cons c s ih =>
    rw [doubled_escaped_cons he, List.append_assoc]
    by_cases hc : c = closing
    · subst hc
      rw [if_pos (.inl rfl), List.cons_append, List.cons_append, List.nil_append,
        readDelimited?_closing_closing, ih]
      rfl
    · by_cases hec : escape = some c
      · rw [if_pos (.inr hec), List.cons_append, List.cons_append, List.nil_append]
        subst hec
        rw [readDelimited?_escape hc, ih]
        rfl
      · rw [if_neg (not_or.mpr ⟨hc, hec⟩), List.cons_append, List.nil_append,
          readDelimited?_cons hc hec, ih]
        rfl

/-- What is read is read in the same way in front of other text, which must not
double the closing delimiter. -/
theorem readDelimited?_append (h : readDelimited? closing escape cs = some (s, rest))
    (hf : rest = [] → following.head? ≠ some closing) :
    readDelimited? closing escape (cs ++ following) = some (s, rest ++ following) := by
  fun_induction readDelimited? closing escape cs generalizing s rest with
  | case1 => simp at h
  | case2 =>
    cases h
    exact readDelimited?_closing (hf rfl)
  | case3 c hc => simp at h
  | case4 cs ih =>
    obtain ⟨⟨s', rest'⟩, hread, hs⟩ := Option.map_eq_some_iff.mp h
    cases hs
    rw [List.cons_append, List.cons_append, readDelimited?_closing_closing, ih hread hf]
    rfl
  | case5 d cs hd =>
    cases h
    exact readDelimited?_closing (fun hhead => hd (Option.some.inj hhead))
  | case6 c d cs hc he ih =>
    obtain ⟨⟨s', rest'⟩, hread, hs⟩ := Option.map_eq_some_iff.mp h
    cases hs
    subst he
    rw [List.cons_append, List.cons_append, readDelimited?_escape hc, ih hread hf]
    rfl
  | case7 c d cs hc he ih =>
    obtain ⟨⟨s', rest'⟩, hread, hs⟩ := Option.map_eq_some_iff.mp h
    cases hs
    rw [List.cons_append, readDelimited?_cons hc he, ih hread hf]
    rfl

/-- Reading goes on. -/
theorem length_lt_of_readDelimited? (h : readDelimited? closing escape cs = some (s, rest)) :
    rest.length < cs.length := by
  fun_induction readDelimited? closing escape cs generalizing s rest with
  | case1 => simp at h
  | case2 =>
    cases h
    exact Nat.zero_lt_one
  | case3 c hc => simp at h
  | case4 cs ih =>
    obtain ⟨⟨s', rest'⟩, hread, hs⟩ := Option.map_eq_some_iff.mp h
    cases hs
    have hlt := ih hread
    simp only [List.length_cons, id]
    omega
  | case5 d cs hd =>
    cases h
    exact Nat.lt_succ_self _
  | case6 c d cs hc he ih =>
    obtain ⟨⟨s', rest'⟩, hread, hs⟩ := Option.map_eq_some_iff.mp h
    cases hs
    have hlt := ih hread
    simp only [List.length_cons, id]
    omega
  | case7 c d cs hc he ih =>
    obtain ⟨⟨s', rest'⟩, hread, hs⟩ := Option.map_eq_some_iff.mp h
    cases hs
    have hlt := ih hread
    simp only [List.length_cons, id] at hlt ⊢
    omega

end Delimited

/-! ## Strings -/

namespace Dialect

/-- The character that escapes the next one inside a string, if there is one. -/
def escape : Dialect → Option Char
  | mySql => some '\\'
  | _ => none

/-- The value of a string literal, and what follows it. -/
def readString? (d : Dialect) : List Char → Option (List Char × List Char)
  | '\'' :: cs => readDelimited? '\'' d.escape cs
  | _ => none

variable {d : Dialect} {cs s rest following : List Char}

theorem escape_ne (d : Dialect) : d.escape ≠ some '\'' := by
  cases d <;> decide

/-- The text of a string literal. -/
theorem toList_stringLiteral (d : Dialect) (s : String) :
    (d.generator.stringLiteral s).toList =
      '\'' :: (doubled '\'' (escaped d.escape s.toList) ++ ['\'']) := by
  cases d <;> simp [generator, quotedString, backslashedString, delimited, escaped, escape]

/-- A string literal is read as its value, whatever follows, unless that begins
with another quote. -/
theorem readString?_stringLiteral (d : Dialect) (s : String)
    (hf : following.head? ≠ some '\'') :
    d.readString? ((d.generator.stringLiteral s).toList ++ following) =
      some (s.toList, following) := by
  rw [toList_stringLiteral, List.cons_append, List.append_assoc]
  exact readDelimited?_doubled d.escape_ne s.toList hf

theorem readString?_append (h : d.readString? cs = some (s, []))
    (hf : following.head? ≠ some '\'') :
    d.readString? (cs ++ following) = some (s, following) := by
  cases cs with
  | nil => simp [readString?] at h
  | cons c cs =>
    by_cases hc : c = '\''
    · subst hc
      exact readDelimited?_append h fun _ => hf
    · simp [readString?, hc] at h

/-! ## Names -/

/-- The delimiters of identifiers, if there are any. -/
def delimiters? : Dialect → Option (Char × Char)
  | ansi => some ('"', '"')
  | mySql => some ('\x60', '\x60')
  | sqlServer => some ('[', ']')
  | plain => none

/-- A segment of a name, and what follows it. -/
def readSegment? (d : Dialect) : List Char → Option (List Char × List Char)
  | [] => none
  | c :: cs =>
    if c = '*' then some (['*'], cs)
    else
      match d.delimiters? with
      | none => none
      | some (opening, closing) => if c = opening then readDelimited? closing none cs else none

theorem length_lt_of_readSegment? (h : d.readSegment? cs = some (s, rest)) :
    rest.length < cs.length := by
  cases cs with
  | nil => simp [readSegment?] at h
  | cons c cs =>
    rw [readSegment?] at h
    split at h
    next =>
      cases h
      exact Nat.lt_succ_self _
    next =>
      split at h
      next => simp at h
      next opening closing _ =>
        split at h
        next => exact Nat.lt_succ_of_lt (length_lt_of_readDelimited? h)
        next => simp at h

/-- The segments of a name, and what follows it. -/
def readName? (d : Dialect) (cs : List Char) : Option (List (List Char) × List Char) :=
  match _h : d.readSegment? cs with
  | none => none
  | some (segment, '.' :: rest) => (d.readName? rest).map (Prod.map (segment :: ·) id)
  | some (segment, rest) => some ([segment], rest)
termination_by cs.length
decreasing_by exact Nat.lt_trans (Nat.lt_succ_self _) (length_lt_of_readSegment? _h)

/-- A name ends with a segment that no dot follows. -/
theorem readName?_last (h : d.readSegment? cs = some (s, rest)) (hdot : rest.head? ≠ some '.') :
    d.readName? cs = some ([s], rest) := by
  rw [readName?]
  split
  next hnone => simp [hnone] at h
  next segment tail hsome =>
    rw [hsome] at h
    cases h
    simp at hdot
  next segment tail _ hsome =>
    rw [hsome] at h
    cases h
    rfl

/-- After a dot a name goes on. -/
theorem readName?_dot (h : d.readSegment? cs = some (s, '.' :: rest)) :
    d.readName? cs = (d.readName? rest).map (Prod.map (s :: ·) id) := by
  rw [readName?]
  split
  next hnone => simp [hnone] at h
  next segment tail hsome =>
    rw [hsome] at h
    cases h
    rfl
  next segment tail hne hsome =>
    rw [hsome] at h
    cases h
    exact absurd rfl (hne rest)

/-- Whether text does not continue a name that ends before it. -/
def EndsName (d : Dialect) (following : List Char) : Prop :=
  following.head? ≠ some '.' ∧
    ∀ opening closing, d.delimiters? = some (opening, closing) → following.head? ≠ some closing

/-- The text of an identifier. -/
theorem toList_quoteIdentifier {opening closing : Char}
    (hd : d.delimiters? = some (opening, closing)) (name : String) :
    (d.generator.quoteIdentifier name).toList =
      opening :: (doubled closing name.toList ++ [closing]) := by
  cases d <;> cases hd <;> simp [generator, delimited]

theorem opening_ne_star {opening closing : Char} (hd : d.delimiters? = some (opening, closing)) :
    opening ≠ '*' := by
  cases d <;> cases hd <;> decide

theorem closing_ne_dot {opening closing : Char} (hd : d.delimiters? = some (opening, closing)) :
    closing ≠ '.' := by
  cases d <;> cases hd <;> decide

/-- A segment is read back, a star from the star alone. -/
theorem readSegment?_quoteSegment {opening closing : Char}
    (hd : d.delimiters? = some (opening, closing)) (segment : List Char)
    (hf : following.head? ≠ some closing) :
    d.readSegment? ((d.generator.quoteSegment segment).toList ++ following) =
      some (segment, following) := by
  by_cases hstar : segment = ['*']
  · simp [hstar, Generator.quoteSegment, readSegment?]
  · have htext : (d.generator.quoteSegment segment).toList =
        opening :: (doubled closing segment ++ [closing]) := by
      rw [Generator.quoteSegment, if_neg hstar, toList_quoteIdentifier hd, String.toList_ofList]
    rw [htext, List.cons_append, List.append_assoc, readSegment?, if_neg (opening_ne_star hd), hd]
    simp only [if_true]
    exact readDelimited?_doubled (by simp) segment hf

/-- Segments with dots between are read back, one after the other. -/
theorem readName?_quoteSegments {opening closing : Char}
    (hd : d.delimiters? = some (opening, closing)) {segments : List (List Char)}
    (hne : segments ≠ []) (hf : d.EndsName following) :
    d.readName? ((".".intercalate (segments.map d.generator.quoteSegment)).toList ++ following) =
      some (segments, following) := by
  induction segments with
  | nil => exact absurd rfl hne
  | cons segment segments ih =>
    cases segments with
    | nil =>
      have hread := readSegment?_quoteSegment hd segment (hf.2 opening closing hd)
      simpa using readName?_last hread hf.1
    | cons segment' segments =>
      have hdot : ('.' :: ((".".intercalate
          ((segment' :: segments).map d.generator.quoteSegment)).toList ++ following)).head? ≠
            some closing :=
        fun h => closing_ne_dot hd (Option.some.inj h).symm
      have hname := readName?_dot (readSegment?_quoteSegment hd segment hdot)
      rw [ih (List.cons_ne_nil _ _)] at hname
      rw [List.map_cons, List.map_cons, String.intercalate_cons_cons]
      simpa using hname

/-- A name is read as its segments, whatever follows that does not continue it. -/
theorem readName?_quoteName (hd : d ≠ .plain) (name : String) (hf : d.EndsName following) :
    d.readName? ((d.generator.quoteName name).toList ++ following) =
      some (Text.splitAt '.' name.toList, following) := by
  obtain ⟨⟨opening, closing⟩, hdelimiters⟩ : ∃ p, d.delimiters? = some p := by
    cases d with
    | plain => exact absurd rfl hd
    | _ => exact ⟨_, rfl⟩
  exact readName?_quoteSegments hdelimiters (Text.splitAt_ne_nil '.' name.toList) hf

/-- Two names that are written alike in front of texts that do not continue them are the
same name, and so are the texts. -/
theorem quoteName_append_inj (hd : d ≠ .plain) {name name' : String}
    {following following' : List Char} (hf : d.EndsName following) (hf' : d.EndsName following')
    (h : (d.generator.quoteName name).toList ++ following =
      (d.generator.quoteName name').toList ++ following') :
    name = name' ∧ following = following' := by
  have hread := readName?_quoteName hd name hf
  rw [h, readName?_quoteName hd name' hf', Option.some.injEq, Prod.mk.injEq] at hread
  obtain ⟨hsegments, hfollowing⟩ := hread
  have hjoined := congrArg (List.intercalate ['.']) hsegments
  rw [Text.intercalate_splitAt, Text.intercalate_splitAt] at hjoined
  exact ⟨(String.toList_inj.mp hjoined).symm, hfollowing.symm⟩

/-- What is written for a name is read as the segments of the name, whatever follows that
does not continue it, so no other name is written in the same way. -/
theorem readName?_quoteName_unique (hd : d ≠ .plain) :
    (∀ (name : String) (following : List Char), d.EndsName following →
      d.readName? ((d.generator.quoteName name).toList ++ following) =
        some (Text.splitAt '.' name.toList, following)) ∧
    (∀ (name name' : String) (following following' : List Char),
      d.EndsName following → d.EndsName following' →
      (d.generator.quoteName name).toList ++ following =
        (d.generator.quoteName name').toList ++ following' →
      name = name' ∧ following = following') ∧
    Function.Injective d.generator.quoteName := by
  have hend : d.EndsName [] := ⟨nofun, fun _ _ _ => nofun⟩
  refine ⟨fun name _ hf => readName?_quoteName hd name hf,
    fun _ _ _ _ hf hf' h => quoteName_append_inj hd hf hf' h, fun name name' h => ?_⟩
  exact (quoteName_append_inj hd hend hend (congrArg (String.toList · ++ []) h)).1

theorem readName?_quoteName_unique_brackets :
    Dialect.sqlServer ≠ .plain ∧ Dialect.sqlServer.EndsName " = 1".toList ∧
    Dialect.sqlServer.generator.quoteName "a]b..*" = "[a]]b].[].*" ∧
    Dialect.sqlServer.readName? "[a]]b].[].* = 1".toList =
      some (["a]b".toList, [], ['*']], " = 1".toList) ∧
    Function.Injective Dialect.sqlServer.generator.quoteName := by
  have hd : Dialect.sqlServer ≠ .plain := by decide
  have hend : Dialect.sqlServer.EndsName " = 1".toList := by
    refine ⟨by decide, ?_⟩
    rintro _ _ ⟨⟩
    decide
  have hname : Dialect.sqlServer.generator.quoteName "a]b..*" = "[a]]b].[].*" := by
    decide +kernel
  obtain ⟨hread, -, hinjective⟩ := readName?_quoteName_unique hd
  have hsegments := hread "a]b..*" " = 1".toList hend
  rw [hname] at hsegments
  exact ⟨hd, hend, hname, hsegments, hinjective⟩

theorem readSegment?_append (h : d.readSegment? cs = some (s, rest))
    (hf : rest = [] → d.EndsName following) :
    d.readSegment? (cs ++ following) = some (s, rest ++ following) := by
  cases cs with
  | nil => simp [readSegment?] at h
  | cons c cs =>
    rw [List.cons_append, readSegment?]
    rw [readSegment?] at h
    split at h
    next hstar =>
      cases h
      rw [if_pos hstar]
    next hstar =>
      rw [if_neg hstar]
      cases hd : d.delimiters? with
      | none => simp [hd] at h
      | some delimiters =>
        simp only [hd] at h ⊢
        split at h
        next hc =>
          rw [if_pos hc]
          exact readDelimited?_append h fun hrest => (hf hrest).2 _ _ hd
        next => simp at h

/-- A name that is read as a whole is read in the same way in front of other
text. -/
theorem readName?_append {segments : List (List Char)} (h : d.readName? cs = some (segments, []))
    (hf : d.EndsName following) : d.readName? (cs ++ following) = some (segments, following) := by
  fun_induction readName? d cs generalizing segments with
  | case1 => simp at h
  | case2 cs segment rest hsegment ih =>
    obtain ⟨⟨segments', rest'⟩, hread, hs⟩ := Option.map_eq_some_iff.mp h
    cases hs
    have happend : d.readSegment? (cs ++ following) = some (segment, '.' :: (rest ++ following)) :=
      readSegment?_append hsegment (by simp)
    rw [readName?_dot happend, ih hread]
    rfl
  | case3 cs segment rest hdot hsegment =>
    cases h
    have happend := readSegment?_append hsegment fun _ => hf
    exact readName?_last happend hf.1

/-! ## Literals -/

/-- Whether characters are one literal. -/
inductive IsLiteral (d : Dialect) : List Char → Prop where
  /-- The null literal. -/
  | null : d.IsLiteral "NULL".toList
  /-- A number. -/
  | number {cs : List Char} (h : IsNumeral cs) : d.IsLiteral cs
  /-- A string. -/
  | string {cs s : List Char} (h : d.readString? cs = some (s, [])) : d.IsLiteral cs

end Dialect

end RelQuery
