import RelQuery.Proofs.Sql.Write

/-!
# Inserts that are read back

A reader of an insert looks for the table, the columns and the literals, and has
to find where each of them ends.  Names and strings may hold any character: commas,
parentheses, delimiters and the words of the statement itself.

`Insertion.Reads` says that a text can be taken apart in a way that gives an
insertion.  It leaves open where the names and literals end, so a text might be
read in several ways.  It is read in one at most (`Insertion.Reads.unique`),
because names and literals are *self-delimiting*: two of them that are followed
by a blank, a comma or a parenthesis and begin one text are the same
(`selfDelimiting_name`, `selfDelimiting_literal`).  The lists of columns and of
literals inherit this from their members (`eq_of_intercalate_append`).

The insert of a query is read as its table, the fields of its payload and the
literals of their values, in order (`insert_reads`).
-/

namespace RelQuery

/-! ## Self-delimiting lexemes -/

/-- Whether text begins with a character that ends names and literals. -/
def Stops (cs : List Char) : Prop := ∃ c rest, cs = c :: rest ∧ c ∈ [' ', ',', ')']

/-- Whether lexemes of a kind are told apart from what follows them. -/
def SelfDelimiting (P : List Char → Prop) : Prop :=
  ∀ ⦃u v r s : List Char⦄, P u → P v → Stops r → Stops s → u ++ r = v ++ s → u = v ∧ r = s

/-- A reader that stops where a lexeme ends makes its lexemes self-delimiting. -/
theorem selfDelimiting_of_reader {α : Type} {P : List Char → Prop}
    (read : List Char → Option (α × List Char))
    (hread : ∀ u, P u → ∃ a, ∀ r, Stops r → read (u ++ r) = some (a, r)) :
    SelfDelimiting P := by
  intro u v r s hu hv hr hs heq
  obtain ⟨a, ha⟩ := hread u hu
  obtain ⟨b, hb⟩ := hread v hv
  have hboth := ha r hr
  rw [heq, hb s hs] at hboth
  cases hboth
  exact ⟨List.append_cancel_right heq, rfl⟩

/-- Lists of lexemes between commas are self-delimiting in front of a parenthesis. -/
theorem eq_of_intercalate_append {P : List Char → Prop} (hP : SelfDelimiting P)
    {us vs : List (List Char)} (hu : ∀ u ∈ us, P u) (hv : ∀ v ∈ vs, P v)
    (hus : us ≠ []) (hvs : vs ≠ []) {r s : List Char}
    (h : [',', ' '].intercalate us ++ ')' :: r = [',', ' '].intercalate vs ++ ')' :: s) :
    us = vs ∧ r = s := by
  have hclose : ∀ cs, Stops (')' :: cs) := fun cs => ⟨')', cs, rfl, by simp⟩
  have hcomma : ∀ cs, Stops (',' :: cs) := fun cs => ⟨',', cs, rfl, by simp⟩
  induction us generalizing vs with
  | nil => exact absurd rfl hus
  | cons u us ih =>
    cases vs with
    | nil => exact absurd rfl hvs
    | cons v vs =>
      have hPu := hu u (.head _)
      have hPv := hv v (.head _)
      cases us with
      | nil =>
        cases vs with
        | nil =>
          rw [List.intercalate_singleton, List.intercalate_singleton] at h
          obtain ⟨rfl, hrest⟩ := hP hPu hPv (hclose r) (hclose s) h
          exact ⟨rfl, List.tail_eq_of_cons_eq hrest⟩
        | cons v' vs =>
          -- One list ends where the other goes on, so a parenthesis would be a comma.
          rw [List.intercalate_singleton, List.intercalate_cons_cons, List.append_assoc,
            List.append_assoc] at h
          obtain ⟨-, hrest⟩ := hP hPu hPv (hclose r) (hcomma _) h
          cases hrest
      | cons u' us =>
        cases vs with
        | nil =>
          rw [List.intercalate_singleton, List.intercalate_cons_cons, List.append_assoc,
            List.append_assoc] at h
          obtain ⟨-, hrest⟩ := hP hPu hPv (hcomma _) (hclose s) h
          cases hrest
        | cons v' vs =>
          rw [List.intercalate_cons_cons, List.intercalate_cons_cons, List.append_assoc,
            List.append_assoc, List.append_assoc, List.append_assoc] at h
          obtain ⟨rfl, hrest⟩ := hP hPu hPv (hcomma _) (hcomma _) h
          have hafter := (List.cons.inj (List.cons.inj hrest).2).2
          obtain ⟨htail, hrest⟩ := ih (fun w hw => hu w (.tail _ hw))
            (fun w hw => hv w (.tail _ hw)) (List.cons_ne_nil _ _) (List.cons_ne_nil _ _) hafter
          exact ⟨congrArg (u :: ·) htail, hrest⟩

/-! ## Names and literals -/

namespace Dialect

variable {d : Dialect}

theorem endsName_of_stops {cs : List Char} (h : Stops cs) : d.EndsName cs := by
  obtain ⟨c, rest, rfl, hc⟩ := h
  have hmem : c = ' ' ∨ c = ',' ∨ c = ')' := by simpa using hc
  refine ⟨?_, ?_⟩
  · obtain rfl | rfl | rfl := hmem <;> simp
  · intro opening closing hd
    obtain rfl | rfl | rfl := hmem <;> cases d <;> cases hd <;> simp

/-- Whether characters are one name. -/
def IsName (d : Dialect) (cs : List Char) : Prop :=
  ∃ segments, d.readName? cs = some (segments, [])

theorem selfDelimiting_name (d : Dialect) : SelfDelimiting d.IsName := by
  apply selfDelimiting_of_reader d.readName?
  rintro u ⟨segments, hu⟩
  exact ⟨segments, fun r hr => readName?_append hu (endsName_of_stops hr)⟩

/-- The characters that do not stand in a literal other than a string. -/
def isForeign (c : Char) : Bool := c ∈ [' ', ',', ')', '\'']

theorem isForeign_of_isDigit {c : Char} (h : c.isDigit = true) : isForeign c = false := by
  cases hc : isForeign c with
  | false => rfl
  | true =>
    have hmem : c = ' ' ∨ c = ',' ∨ c = ')' ∨ c = '\'' := by simpa [isForeign] using hc
    obtain rfl | rfl | rfl | rfl := hmem <;> cases h

theorem head?_ne_quote_of_stops {cs : List Char} (h : Stops cs) : cs.head? ≠ some '\'' := by
  obtain ⟨c, rest, rfl, hc⟩ := h
  have hmem : c = ' ' ∨ c = ',' ∨ c = ')' := by simpa using hc
  obtain rfl | rfl | rfl := hmem <;> simp

theorem head?_eq_of_readString? {cs : List Char} {p : List Char × List Char}
    (h : d.readString? cs = some p) : cs.head? = some '\'' := by
  cases cs with
  | nil => simp [readString?] at h
  | cons c cs =>
    by_cases hc : c = '\''
    · rw [hc]
      rfl
    · simp [readString?, hc] at h

/-- The value of a string literal or the characters of any other, and what follows. -/
def readLiteral? (d : Dialect) (cs : List Char) : Option (List Char × List Char) :=
  if cs.head? = some '\'' then d.readString? cs
  else some (cs.takeWhile fun c => !isForeign c, cs.dropWhile fun c => !isForeign c)

theorem readLiteral?_append_of_not_string {u : List Char}
    (hu : ∀ c ∈ u, isForeign c = false) {r : List Char} (hr : Stops r) :
    d.readLiteral? (u ++ r) = some (u, r) := by
  have hhead : (u ++ r).head? ≠ some '\'' := by
    cases u with
    | nil => exact head?_ne_quote_of_stops hr
    | cons a u =>
      intro h
      have ha := hu a (.head _)
      rw [Option.some.inj h] at ha
      cases ha
  obtain ⟨c, rest, rfl, hc⟩ := hr
  have hforeign : isForeign c = true := by
    have hmem : c = ' ' ∨ c = ',' ∨ c = ')' := by simpa using hc
    obtain rfl | rfl | rfl := hmem <;> rfl
  have hall : ∀ a ∈ u, (!isForeign a) = true := fun a ha => by simp [hu a ha]
  rw [readLiteral?, if_neg hhead, List.takeWhile_append_of_pos hall,
    List.dropWhile_append_of_pos hall]
  simp [hforeign]

/-- A literal is read as a whole in front of text that ends it. -/
theorem IsLiteral.exists_read {u : List Char} (hu : d.IsLiteral u) :
    ∃ a, ∀ r, Stops r → d.readLiteral? (u ++ r) = some (a, r) := by
  cases hu with
  | null =>
    have hforeign : ∀ c ∈ "NULL".toList, isForeign c = false := by simp [isForeign]
    exact ⟨_, fun r hr => readLiteral?_append_of_not_string hforeign hr⟩
  | number h =>
    refine ⟨u, fun r hr => readLiteral?_append_of_not_string ?_ hr⟩
    intro c hc
    obtain rfl | rfl | hdigit := h.of_mem hc
    · rfl
    · rfl
    · exact isForeign_of_isDigit hdigit
  | @string _ s h =>
    refine ⟨s, fun r hr => ?_⟩
    have hread := readString?_append h (head?_ne_quote_of_stops hr)
    rw [readLiteral?, if_pos (head?_eq_of_readString? hread), hread]

theorem selfDelimiting_literal (d : Dialect) : SelfDelimiting d.IsLiteral :=
  selfDelimiting_of_reader d.readLiteral? fun _ hu => hu.exists_read

/-- Whether a text is written for a name.  Its segments have dots between them
in the name. -/
def Names (d : Dialect) (text name : String) : Prop :=
  ∃ segments, d.readName? text.toList = some (segments, []) ∧
    name.toList = ['.'].intercalate segments

theorem Names.isName {text name : String} (h : d.Names text name) : d.IsName text.toList := by
  obtain ⟨segments, hread, -⟩ := h
  exact ⟨segments, hread⟩

theorem isName_of_forall₂ {texts names : List String} (h : List.Forall₂ d.Names texts names) :
    ∀ text ∈ texts, d.IsName text.toList :=
  ((List.forall₂_and_left _ _).mp (h.imp fun _ _ hname => ⟨hname.isName, hname⟩)).1

/-- A text is written for one name at most. -/
theorem names_rightUnique (d : Dialect) : Relator.RightUnique d.Names := by
  rintro text name name' ⟨segments, hread, hname⟩ ⟨segments', hread', hname'⟩
  rw [hread] at hread'
  cases hread'
  exact String.toList_injective (hname.trans hname'.symm)

/-- The generator writes a name so that it is read back. -/
theorem names_quoteName (hd : d ≠ .plain) (name : String) :
    d.Names (d.generator.quoteName name) name := by
  have hend : d.EndsName [] := ⟨by simp, by simp⟩
  have hread := readName?_quoteName hd name hend
  rw [List.append_nil] at hread
  exact ⟨_, hread, (Text.intercalate_splitAt '.' name.toList).symm⟩

end Dialect

/-! ## The text of an insert -/

/-- The insert of literals into the columns of a source. -/
def insertText (source : String) (columns literals : List String) : String :=
  "INSERT INTO " ++ source ++ " (" ++ ", ".intercalate columns ++ ") VALUES (" ++
    ", ".intercalate literals ++ ");"

theorem toList_insertText (source : String) (columns literals : List String) :
    (insertText source columns literals).toList =
      "INSERT INTO ".toList ++ (source.toList ++ ' ' :: '(' ::
        ([',', ' '].intercalate (columns.map String.toList) ++ ')' :: (" VALUES (".toList ++
          ([',', ' '].intercalate (literals.map String.toList) ++ [')', ';'])))) := by
  delta insertText
  simp [String.toList_intercalate]

/-- Whether texts are a name, one or more names, and one or more literals. -/
structure AreLexemes (d : Dialect) (source : String) (columns literals : List String) : Prop where
  source_isName : d.IsName source.toList
  columns_isName : ∀ c ∈ columns, d.IsName c.toList
  literals_isLiteral : ∀ l ∈ literals, d.IsLiteral l.toList
  columns_ne_nil : columns ≠ []
  literals_ne_nil : literals ≠ []

/-- An insert has one source, one list of columns and one list of literals. -/
theorem insertText_inj {d : Dialect} {source source' : String}
    {columns columns' literals literals' : List String}
    (h : AreLexemes d source columns literals) (h' : AreLexemes d source' columns' literals')
    (heq : insertText source columns literals = insertText source' columns' literals') :
    source = source' ∧ columns = columns' ∧ literals = literals' := by
  have hchars := congrArg String.toList heq
  rw [toList_insertText, toList_insertText] at hchars
  have hafterInto := List.append_cancel_left hchars
  obtain ⟨hsource, hrest⟩ := d.selfDelimiting_name h.source_isName h'.source_isName
    ⟨' ', _, rfl, by simp⟩ ⟨' ', _, rfl, by simp⟩ hafterInto
  have hafterOpening := (List.cons.inj (List.cons.inj hrest).2).2
  obtain ⟨hcolumns, hrest⟩ := eq_of_intercalate_append d.selfDelimiting_name
    (List.forall_mem_map.mpr h.columns_isName) (List.forall_mem_map.mpr h'.columns_isName)
    (by simpa using h.columns_ne_nil) (by simpa using h'.columns_ne_nil) hafterOpening
  have hafterValues := List.append_cancel_left hrest
  obtain ⟨hliterals, -⟩ := eq_of_intercalate_append d.selfDelimiting_literal
    (List.forall_mem_map.mpr h.literals_isLiteral) (List.forall_mem_map.mpr h'.literals_isLiteral)
    (by simpa using h.literals_ne_nil) (by simpa using h'.literals_ne_nil) hafterValues
  have hinj : Function.Injective (List.map String.toList) :=
    List.map_injective_iff.mpr fun _ _ => String.toList_injective
  exact ⟨String.toList_injective hsource, hinj hcolumns, hinj hliterals⟩

/-! ## Reading -/

/-- What an insert says. -/
structure Insertion where
  /-- The table. -/
  source : String
  /-- The columns, in order. -/
  columns : List String
  /-- The literal of each column, as it is written. -/
  literals : List String

/-- Whether a text is an insert that says something.  The text is taken apart in
any way that leaves names and literals. -/
def Insertion.Reads (d : Dialect) (text : String) (r : Insertion) : Prop :=
  ∃ source columns, text = insertText source columns r.literals ∧
    d.Names source r.source ∧ List.Forall₂ d.Names columns r.columns ∧
    (∀ l ∈ r.literals, d.IsLiteral l.toList) ∧ columns ≠ [] ∧ r.literals ≠ []

/-- A text says one thing at most. -/
theorem Insertion.Reads.unique {d : Dialect} {text : String} {r r' : Insertion}
    (h : r.Reads d text) (h' : r'.Reads d text) : r = r' := by
  obtain ⟨source, columns, rfl, hsource, hcolumns, hliterals, hcne, hlne⟩ := h
  obtain ⟨source', columns', htext, hsource', hcolumns', hliterals', hcne', hlne'⟩ := h'
  have hlexemes : AreLexemes d source columns r.literals :=
    ⟨hsource.isName, Dialect.isName_of_forall₂ hcolumns, hliterals, hcne, hlne⟩
  have hlexemes' : AreLexemes d source' columns' r'.literals :=
    ⟨hsource'.isName, Dialect.isName_of_forall₂ hcolumns', hliterals', hcne', hlne'⟩
  obtain ⟨rfl, rfl, hsame⟩ := insertText_inj hlexemes hlexemes' htext
  obtain ⟨name, names, literals⟩ := r
  obtain ⟨name', names', literals'⟩ := r'
  have hname : name = name' := d.names_rightUnique hsource hsource'
  have hcolumn : names = names' :=
    List.right_unique_forall₂' d.names_rightUnique hcolumns hcolumns'
  simp only at hsame
  rw [hname, hcolumn, hsame]

/-! ## Inserts of queries -/

/-- Whether a query inserts what an insertion says: the fields of its payload in
their order, with the literals of their values. -/
def Insertion.IsOf (d : Dialect) (ctx : Context) (q : Query) (r : Insertion) : Prop :=
  ∃ t fields, (ctx.target q.kind q.model).outcome = .ok t ∧ q.payload = some fields ∧
    r.source = t.model.source ∧ r.columns = Entries.keys fields ∧
    List.Forall₂ (fun (entry : String × Value) literal => entry.2.isScalar = true ∧
      entry.2.cast d.generator (t.typeOf entry.1) = .ok literal) fields r.literals

/-- The text of an insertion. -/
def Insertion.text (d : Dialect) (r : Insertion) : String :=
  insertText (d.generator.quoteName r.source) (r.columns.map d.generator.quoteName) r.literals

namespace Sql

variable {d : Dialect} {ctx : Context} {q : Query} {text : String}

/-- What is written for a payload are the names of its fields and the literals of their
values. -/
theorem forall₂_written {g : Generator} {t : Target} {fields : Entries Value}
    {written : List (String × String)} (h : g.written t fields = .ok written) :
    written.map Prod.fst = (Entries.keys fields).map g.quoteName ∧
      List.Forall₂ (fun (entry : String × Value) literal => entry.2.isScalar = true ∧
        entry.2.cast g (t.typeOf entry.1) = .ok literal) fields (written.map Prod.snd) := by
  induction fields generalizing written with
  | nil =>
    cases h
    exact ⟨rfl, .nil⟩
  | cons entry rest ih =>
    rw [Generator.written, bind_eq_ok_iff] at h
    obtain ⟨literal, hliteral, h⟩ := h
    obtain ⟨others, hothers, hwritten⟩ := bind_eq_ok_iff.mp h
    cases hwritten
    obtain ⟨hkeys, hcasts⟩ := ih hothers
    refine ⟨congrArg (g.quoteName entry.1 :: ·) hkeys, .cons ?_ hcasts⟩
    rw [Generator.writtenLiteral] at hliteral
    split at hliteral
    next hs => exact ⟨hs, mapError_eq_ok_iff.mp hliteral⟩
    next => cases hliteral

/-- The literals of scalars are read as literals. -/
theorem isLiteral_of_forall₂_cast {t : Target} {fields : Entries Value} {literals : List String}
    (h : List.Forall₂ (fun (entry : String × Value) literal => entry.2.isScalar = true ∧
      entry.2.cast d.generator (t.typeOf entry.1) = .ok literal) fields literals) :
    ∀ l ∈ literals, d.IsLiteral l.toList := by
  induction h with
  | nil => nofun
  | cons hcast _ ih =>
    exact List.forall_mem_cons.mpr ⟨Value.isLiteral_of_cast d hcast.1 hcast.2, ih⟩

/-- A query that compiles to an insert inserts one thing, and its text is read
as that. -/
theorem exists_isOf_of_compile (hd : d ≠ .plain) (hkind : q.kind = .create)
    (h : (compile d.generator ctx q).outcome = .ok text) :
    ∃ r : Insertion, r.IsOf d ctx q ∧ text = r.text d ∧ r.Reads d text := by
  rw [compile, Lookups.outcome_bind, bind_eq_ok_iff] at h
  obtain ⟨statement, hstatement, htext⟩ := h
  simp only [Generator.statement, hkind, Generator.insert, Lookups.outcome_bind,
    Lookups.outcome_ofExcept, bind_eq_ok_iff] at hstatement
  obtain ⟨t, ht, fields, hfields, written, hwritten, hstatement⟩ := hstatement
  obtain ⟨hpayload, hne⟩ := payload_eq_ok_iff.mp hfields
  obtain ⟨hkeys, hcasts⟩ := forall₂_written hwritten
  let r : Insertion := ⟨t.model.source, Entries.keys fields, written.map Prod.snd⟩
  have hrtext : text = r.text d := by
    have hsemicolon : ")" ++ ";" = ");" := rfl
    rw [← Except.ok.inj htext, ← Except.ok.inj hstatement, hkeys]
    simp only [Insertion.text, r]
    delta insertText
    simp [String.append_assoc, hsemicolon]
  have hcolumns : Entries.keys fields ≠ [] := fun hnil => hne (List.map_eq_nil_iff.mp hnil)
  have hliterals : written.map Prod.snd ≠ [] := fun hnil =>
    hne (List.forall₂_nil_right_iff.mp (hnil ▸ hcasts))
  have hnames : List.Forall₂ d.Names ((Entries.keys fields).map d.generator.quoteName)
      (Entries.keys fields) :=
    List.forall₂_map_left_iff.mpr (List.forall₂_same.mpr fun name _ => d.names_quoteName hd name)
  exact ⟨r, ⟨t, fields, hkind ▸ ht, hpayload, rfl, rfl, hcasts⟩, hrtext,
    _, _, hrtext, d.names_quoteName hd _, hnames, isLiteral_of_forall₂_cast hcasts,
    by simpa using hcolumns, hliterals⟩

/-- The text of an insert is read in one way: as the source of its model, the
fields of its payload in their order, and the literals of their values.  Queries
with one text insert the same. -/
theorem insert_reads (hd : d ≠ .plain) :
    (∀ (ctx : Context) (q : Query) (text : String), q.kind = .create →
      (compile d.generator ctx q).outcome = .ok text →
        ∃ r : Insertion, r.IsOf d ctx q ∧ text = r.text d ∧
          ∀ r' : Insertion, r'.Reads d text ↔ r' = r) ∧
    ∀ (ctx ctx' : Context) (q q' : Query) (text : String), q.kind = .create → q'.kind = .create →
      (compile d.generator ctx q).outcome = .ok text →
      (compile d.generator ctx' q').outcome = .ok text →
        ∃ r : Insertion, r.IsOf d ctx q ∧ r.IsOf d ctx' q' := by
  refine ⟨fun ctx q text hkind h => ?_, fun ctx ctx' q q' text hkind hkind' h h' => ?_⟩
  · obtain ⟨r, hr, htext, hreads⟩ := exists_isOf_of_compile hd hkind h
    refine ⟨r, hr, htext, fun r' => ⟨fun hr' => hr'.unique hreads, ?_⟩⟩
    rintro rfl
    exact hreads
  · obtain ⟨r, hr, -, hreads⟩ := exists_isOf_of_compile hd hkind h
    obtain ⟨r', hr', -, hreads'⟩ := exists_isOf_of_compile hd hkind' h'
    rw [hreads'.unique hreads] at hr'
    exact ⟨r, hr, hr'⟩

/-- A query whose names and texts look like other parts of the statement. -/
def oddCreate (model : String) : Query where
  kind := .create
  model := some ⟨model, "a\"b.*", "id"⟩
  payload := some [("x, y) VALUES (", .string "it's, ("), ("*", .null), ("title", .int 7)]

/-- The text of that query in the standard dialect. -/
def oddInsert : String :=
  "INSERT INTO \"a\"\"b\".* (\"x, y) VALUES (\", *, \"title\") VALUES ('it''s, (', NULL, '7');"

theorem insert_reads_oddCreate :
    Dialect.ansi ≠ .plain ∧
    (compile Dialect.ansi.generator postContext (oddCreate "Post")).outcome = .ok oddInsert ∧
    (compile Dialect.ansi.generator postContext (oddCreate "Page")).outcome = .ok oddInsert ∧
    (∃ r : Insertion, r.IsOf .ansi postContext (oddCreate "Post") ∧ oddInsert = r.text .ansi ∧
      ∀ r' : Insertion, r'.Reads .ansi oddInsert ↔ r' = r) ∧
    ∃ r : Insertion, r.IsOf .ansi postContext (oddCreate "Post") ∧
      r.IsOf .ansi postContext (oddCreate "Page") :=
  have hd : Dialect.ansi ≠ .plain := nofun
  have hpost : (compile Dialect.ansi.generator postContext (oddCreate "Post")).outcome =
      .ok oddInsert := rfl
  have hpage : (compile Dialect.ansi.generator postContext (oddCreate "Page")).outcome =
      .ok oddInsert := rfl
  ⟨hd, hpost, hpage, (insert_reads hd).1 postContext (oddCreate "Post") oddInsert rfl hpost,
    (insert_reads hd).2 postContext postContext (oddCreate "Post") (oddCreate "Page") oddInsert rfl
      rfl hpost hpage⟩

end Sql

end RelQuery
