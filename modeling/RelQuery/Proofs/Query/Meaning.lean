import Mathlib.Data.List.ReduceOption
import RelQuery.Proofs.Query.Inner
import RelQuery.Proofs.Sql.Condition

/-!
# The meaning of a condition document

A document that is read as a condition says something by itself.  Its *atoms* are
comparisons of fields and raw texts, and it combines them.

* An array or an object combines what its items or entries say.  At the top it is
  a conjunction, and under a connective it takes that connective.  An object in
  an array is a conjunction again.
* A field says the conjunction of its operators, or one equality.
* Scalars and blank text say nothing.  What combines nothing says nothing.

`Json.truth?` is that meaning: a truth value, or none where nothing is said, when
the atoms have truth values.  `Json.atoms` lists the atoms in the order in which
they are written.  Neither knows how conditions are made.

The reader wraps members in groups by three rules: one group for an object or an
array, none where nothing is said, and no group around a single member of an
array under a connective.  `Reading` says what each of these steps keeps, with one
law for each, and the readers are chains of these steps (`reading_of_condition`).
So a condition has the truth value of its document and the atoms of it, one by one
and in order (`ofJson_means`).
-/

namespace RelQuery

/-! ## Atoms and truth values of conditions -/

/-- What a condition combines: a comparison of a field with an operand, or raw
text. -/
inductive Atom (α : Type) where
  /-- A comparison. -/
  | test (field : String) (op : Operator) (operand : α)
  /-- Raw text. -/
  | raw (sql : String)

namespace Condition

mutual

/-- The atoms of a condition, from left to right. -/
def atoms : Condition → List (Atom Value)
  | .leaf field op value => [.test field op value]
  | .group _ members => allAtoms members
  | .raw sql => [.raw sql]

/-- The atoms of several conditions. -/
def allAtoms : List Condition → List (Atom Value)
  | [] => []
  | c :: cs => c.atoms ++ allAtoms cs

end

mutual

/-- The truth value of a condition when its atoms have truth values. -/
def eval (truth : Atom Value → Bool) : Condition → Bool
  | .leaf field op value => truth (.test field op value)
  | .group connective members => connective.combine (evalAll truth members)
  | .raw sql => truth (.raw sql)

/-- The truth values of several conditions. -/
def evalAll (truth : Atom Value → Bool) : List Condition → List Bool
  | [] => []
  | c :: cs => c.eval truth :: evalAll truth cs

end

@[simp] theorem allAtoms_nil : allAtoms [] = [] := rfl

@[simp] theorem allAtoms_cons (c : Condition) (cs : List Condition) :
    allAtoms (c :: cs) = c.atoms ++ allAtoms cs := rfl

@[simp] theorem atoms_group (connective : Connective) (members : List Condition) :
    (group connective members).atoms = allAtoms members := rfl

theorem allAtoms_append (cs ds : List Condition) :
    allAtoms (cs ++ ds) = allAtoms cs ++ allAtoms ds := by
  induction cs with
  | nil => rfl
  | cons c cs ih => simp [ih]

theorem evalAll_eq_map (truth : Atom Value → Bool) (cs : List Condition) :
    evalAll truth cs = cs.map (eval truth) := by
  induction cs with
  | nil => rfl
  | cons c cs ih => rw [evalAll, ih, List.map_cons]

theorem eval_group (truth : Atom Value → Bool) (connective : Connective)
    (members : List Condition) :
    (group connective members).eval truth = connective.combine (members.map (eval truth)) := by
  rw [eval, evalAll_eq_map]

/-! ## Full conditions -/

/-- Whether a condition says something at its root: a group has members, and raw
text is not blank. -/
def IsSolid : Condition → Prop
  | .leaf .. => True
  | .group _ members => members ≠ []
  | .raw sql => Text.isBlankText sql = false

/-- Whether all parts of a condition say something. -/
def IsFull (c : Condition) : Prop := ∀ part : Condition, part.IsPartOf c → part.IsSolid

theorem isFull_leaf (field : String) (op : Operator) (value : Value) :
    (leaf field op value).IsFull := by
  intro part h
  cases h
  trivial

theorem isFull_raw {sql : String} (h : Text.isBlankText sql = false) : (raw sql).IsFull := by
  intro part hpart
  cases hpart
  exact h

theorem isFull_group {connective : Connective} {members : List Condition} :
    (group connective members).IsFull ↔ members ≠ [] ∧ ∀ c ∈ members, c.IsFull := by
  constructor
  · intro h
    exact ⟨h _ .self, fun c hc part hpart => h part (.member hc hpart)⟩
  · rintro ⟨hne, hmembers⟩ part hpart
    cases hpart with
    | self => exact hne
    | member hc hpart => exact hmembers _ hc part hpart

mutual

/-- A full condition holds something to write. -/
theorem isBlank_of_isFull : ∀ {c : Condition}, c.IsFull → c.isBlank = false
  | .leaf .., _ => rfl
  | .raw _, h => h _ .self
  | .group _ members, h => by
    obtain ⟨hne, hmembers⟩ := isFull_group.mp h
    rw [isBlank]
    exact allBlank_of_isFull hne hmembers

theorem allBlank_of_isFull : ∀ {cs : List Condition}, cs ≠ [] → (∀ c ∈ cs, c.IsFull) →
    allBlank cs = false
  | [], hne, _ => absurd rfl hne
  | c :: cs, _, h => by
    rw [allBlank, isBlank_of_isFull (h c (.head _))]
    rfl

end

end Condition

/-- The truth values that an interpretation gives to atoms. -/
def Interpretation.atom (i : Interpretation) : Atom Value → Bool
  | .test field op value => i.test field op value
  | .raw sql => i.raw (Text.trim sql)

namespace Condition

mutual

/-- Nothing is left out of a full condition, so its truth value is that of all its
members. -/
theorem holds_eq_eval (i : Interpretation) : ∀ {c : Condition}, c.IsFull →
    c.holds i = c.eval i.atom
  | .leaf .., _ => rfl
  | .raw _, _ => rfl
  | .group connective members, h => by
    rw [holds, eval_group, truths_eq_map i (isFull_group.mp h).2]

theorem truths_eq_map (i : Interpretation) : ∀ {cs : List Condition}, (∀ c ∈ cs, c.IsFull) →
    truths i cs = cs.map (eval i.atom)
  | [], _ => rfl
  | c :: cs, h => by
    have hc := h c (.head _)
    rw [truths, isBlank_of_isFull hc, if_neg (by simp), holds_eq_eval i hc,
      truths_eq_map i fun d hd => h d (.tail _ hd), List.map_cons]

end

end Condition

/-! ## What documents say -/

/-- The truth value of those members under a connective that say something. -/
def Connective.combine? (c : Connective) (members : List (Option Bool)) : Option Bool :=
  match members.reduceOption with
  | [] => none
  | values => some (c.combine values)

namespace Json

/-- The comparisons of a field by the entries of an object of operators. -/
def operatorAtoms (field : String) (entries : List (String × Json)) : List (Atom Json) :=
  entries.filterMap fun e => (Operator.ofText? e.1).map fun op => .test field op e.2

/-- The comparisons of a field by what is given for it. -/
def fieldAtoms (field : String) : Json → List (Atom Json)
  | object entries =>
    if isQueryObject entries then [.test field .eq (object entries)]
    else operatorAtoms field entries
  | value => [.test field .eq value]

/-- The truth value of the comparisons of a field, if there are any. -/
def fieldTruth? (truth : Atom Json → Bool) (field : String) (value : Json) : Option Bool :=
  Connective.and.combine? ((value.fieldAtoms field).map fun a => some (truth a))

mutual

/-- The atoms of a document, in order. -/
def atoms : Json → List (Atom Json)
  | array items => itemAtoms items
  | object entries => entryAtoms entries
  | string s => if Text.isBlankText s then [] else [.raw s]
  | _ => []

/-- The atoms of the items of an array. -/
def itemAtoms : List Json → List (Atom Json)
  | [] => []
  | item :: items => item.atoms ++ itemAtoms items

/-- The atoms of the entries of an object. -/
def entryAtoms : List (String × Json) → List (Atom Json)
  | [] => []
  | (key, value) :: entries =>
    (if (Connective.ofKey? key).isSome then value.atoms else value.fieldAtoms key)
      ++ entryAtoms entries

end

mutual

/-- The truth value of a document whose members are under a connective, if it says
anything. -/
def truth? (truth : Atom Json → Bool) (connective : Connective) : Json → Option Bool
  | array items => connective.combine? (itemTruths truth items)
  | object entries => connective.combine? (entryTruths truth entries)
  | string s => if Text.isBlankText s then none else some (truth (.raw s))
  | _ => none

/-- What the items of an array say, each by itself. -/
def itemTruths (truth : Atom Json → Bool) : List Json → List (Option Bool)
  | [] => []
  | item :: items => item.truth? truth .and :: itemTruths truth items

/-- What the entries of an object say, each by itself. -/
def entryTruths (truth : Atom Json → Bool) : List (String × Json) → List (Option Bool)
  | [] => []
  | (key, value) :: entries =>
    (match Connective.ofKey? key with
      | some connective => value.truth? truth connective
      | none => value.fieldTruth? truth key) :: entryTruths truth entries

end

end Json

/-! ## Atoms that are read -/

namespace Atom

/-- Whether an atom of a document is read as an atom of a condition. -/
inductive Reads : Atom Json → Atom Value → Prop where
  /-- The operand is read. -/
  | test {field : String} {op : Operator} {d : Json} {value : Value}
      (h : Value.ofJson d = .ok value) : Reads (.test field op d) (.test field op value)
  /-- Raw text stays as it is. -/
  | raw {sql : String} : Reads (.raw sql) (.raw sql)

/-- The truth values of the atoms of a document by those of the atoms that they are
read as.  A comparison whose operand is no value counts as false. -/
def read (truth : Atom Value → Bool) : Atom Json → Bool
  | .test field op d =>
    match Value.ofJson d with
    | .ok value => truth (.test field op value)
    | .error _ => false
  | .raw sql => truth (.raw sql)

theorem Reads.read {a : Atom Json} {b : Atom Value} (h : Reads a b) (truth : Atom Value → Bool) :
    a.read truth = truth b := by
  cases h with
  | test h => simp [Atom.read, h]
  | raw => rfl

end Atom

/-! ## What reading keeps -/

/-- Whether conditions are a reading of members of documents, by what the members
say and by their atoms. -/
structure Reading (truths : (Atom Json → Bool) → List (Option Bool)) (atoms : List (Atom Json))
    (cs : List Condition) : Prop where
  /-- The conditions have the truth values of those members that say something. -/
  truths : ∀ truth, (truths (Atom.read truth)).reduceOption = cs.map (Condition.eval truth)
  /-- The atoms are read one by one. -/
  atoms : List.Forall₂ Atom.Reads atoms (Condition.allAtoms cs)
  /-- All parts of the conditions say something. -/
  full : ∀ c ∈ cs, c.IsFull

namespace Reading

variable {truths truths' : (Atom Json → Bool) → List (Option Bool)} {as as' : List (Atom Json)}
  {cs cs' : List Condition}

theorem nil : Reading (fun _ => []) [] [] := ⟨fun _ => rfl, .nil, by simp⟩

/-- A member that says nothing. -/
theorem silent : Reading (fun _ => [none]) [] [] := ⟨fun _ => rfl, .nil, by simp⟩

theorem append (h : Reading truths as cs) (h' : Reading truths' as' cs') :
    Reading (fun t => truths t ++ truths' t) (as ++ as') (cs ++ cs') := by
  constructor
  · intro t
    simp only [List.reduceOption_append, h.truths, h'.truths, List.map_append]
  · rw [Condition.allAtoms_append]
    exact List.rel_append h.atoms h'.atoms
  · intro c hc
    rcases List.mem_append.mp hc with hc | hc
    · exact h.full c hc
    · exact h'.full c hc

/-- A comparison whose operand is read. -/
theorem test (field : String) (op : Operator) {d : Json} {value : Value}
    (h : Value.ofJson d = .ok value) :
    Reading (fun t => [some (t (.test field op d))]) [.test field op d]
      [.leaf field op value] := by
  refine ⟨fun t => ?_, .cons (.test h) .nil, ?_⟩
  · simp [Atom.read, h, Condition.eval]
  · simpa using Condition.isFull_leaf field op value

theorem raw {sql : String} (h : Text.isBlankText sql = false) :
    Reading (fun t => [some (t (.raw sql))]) [.raw sql] [.raw sql] := by
  refine ⟨fun t => rfl, .cons .raw .nil, ?_⟩
  simpa using Condition.isFull_raw h

/-- Members that become a group, if there are any, become one member. -/
theorem groupOf? (connective : Connective) (h : Reading truths as cs) :
    Reading (fun t => [connective.combine? (truths t)]) as
      (Condition.groupOf? connective cs).toList := by
  cases cs with
  | nil =>
    refine ⟨fun t => ?_, h.atoms, by simp [Condition.groupOf?]⟩
    simp [Connective.combine?, h.truths, Condition.groupOf?]
  | cons c cs =>
    refine ⟨fun t => ?_, ?_, ?_⟩
    · simp [Connective.combine?, h.truths, Condition.groupOf?, Condition.eval_group]
    · simpa [Condition.groupOf?] using h.atoms
    · simpa [Condition.groupOf?, Condition.isFull_group] using h.full

/-- A single member stands for the conjunction of itself. -/
theorem branch (h : Reading truths as cs) :
    Reading (fun t => [Connective.and.combine? (truths t)]) as (Condition.branch cs) := by
  match cs, h with
  | [], h => exact h.groupOf? .and
  | [c], h =>
    refine ⟨fun t => ?_, h.atoms, h.full⟩
    simp [Connective.combine?, h.truths, Condition.branch, Connective.combine]
  | _ :: _ :: _, h => exact h.groupOf? .and

end Reading

/-! ## The readers -/

/-- The comparisons of a field by its operators. -/
theorem reading_of_tests {field : String} {entries : List (String × Json)} {cs : List Condition}
    (h : Condition.testsOf field entries = .ok cs) :
    Reading (fun t => (Json.operatorAtoms field entries).map fun a => some (t a))
      (Json.operatorAtoms field entries) cs := by
  induction entries generalizing cs with
  | nil =>
    cases h
    exact .nil
  | cons entry entries ih =>
    obtain ⟨key, d⟩ := entry
    rw [Condition.testsOf] at h
    split at h
    next => cases h
    next op hop =>
      obtain ⟨value, hvalue, h⟩ := bind_eq_ok_iff.mp h
      obtain ⟨tests, htests, h⟩ := bind_eq_ok_iff.mp h
      cases h
      have hcons : Json.operatorAtoms field ((key, d) :: entries) =
          .test field op d :: Json.operatorAtoms field entries := by
        simp [Json.operatorAtoms, hop]
      simp only [hcons, List.map_cons]
      exact (Reading.test field op hvalue).append (ih htests)

/-- What is given for a field is one comparison where it is no object of
operators. -/
theorem reading_of_equality {field : String} {d : Json} {value : Value}
    (hatoms : d.fieldAtoms field = [.test field .eq d]) (h : Value.ofJson d = .ok value) :
    Reading (fun t => [d.fieldTruth? t field]) (d.fieldAtoms field) [.leaf field .eq value] := by
  rw [hatoms]
  simp only [Json.fieldTruth?, hatoms]
  exact (Reading.test field .eq h).branch

theorem reading_of_field {field : String} {d : Json} {c : Option Condition}
    (h : Condition.ofField field d = .ok c) :
    Reading (fun t => [d.fieldTruth? t field]) (d.fieldAtoms field) c.toList := by
  cases d with
  | object entries =>
    rw [Condition.ofField] at h
    split at h
    next hquery =>
      obtain ⟨value, hvalue, rfl⟩ := map_eq_ok_iff.mp h
      exact reading_of_equality (by simp [Json.fieldAtoms, hquery]) hvalue
    next hquery =>
      obtain ⟨tests, htests, rfl⟩ := map_eq_ok_iff.mp h
      have hread := (reading_of_tests htests).groupOf? .and
      simpa only [Json.fieldTruth?, Json.fieldAtoms, if_neg hquery] using hread
  | _ =>
    rw [Condition.ofField_eq_of_not_object field _ (by simp), map_eq_ok_iff] at h
    obtain ⟨value, hvalue, rfl⟩ := h
    exact reading_of_equality rfl hvalue

mutual

/-- A document that is read as a condition. -/
theorem reading_of_condition : ∀ {d : Json} {c : Option Condition},
    Condition.ofJson d = .ok c → Reading (fun t => [d.truth? t .and]) d.atoms c.toList
  | .null, _, h => by
    cases h
    exact .silent
  | .bool _, _, h => by
    cases h
    exact .silent
  | .number _, _, h => by
    cases h
    exact .silent
  | .string s, _, h => by
    rw [Condition.ofJson] at h
    cases h
    simp only [Json.truth?, Json.atoms]
    cases hs : Text.isBlankText s with
    | true => exact .silent
    | false => exact .raw hs
  | .array _, _, h => by
    rw [Condition.ofJson, map_eq_ok_iff] at h
    obtain ⟨cs, hcs, rfl⟩ := h
    exact (reading_of_items hcs).groupOf? .and
  | .object _, _, h => by
    rw [Condition.ofJson, map_eq_ok_iff] at h
    obtain ⟨cs, hcs, rfl⟩ := h
    exact (reading_of_entries hcs).groupOf? .and

theorem reading_of_items : ∀ {items : List Json} {cs : List Condition},
    Condition.listOfItems items = .ok cs →
      Reading (fun t => Json.itemTruths t items) (Json.itemAtoms items) cs
  | [], _, h => by
    cases h
    exact .nil
  | _ :: _, _, h => by
    rw [Condition.listOfItems, bind_eq_ok_iff] at h
    obtain ⟨c, hc, h⟩ := h
    obtain ⟨cs, hcs, h⟩ := bind_eq_ok_iff.mp h
    cases h
    exact (reading_of_condition hc).append (reading_of_items hcs)

theorem reading_of_entries : ∀ {entries : List (String × Json)} {cs : List Condition},
    Condition.listOfEntries entries = .ok cs →
      Reading (fun t => Json.entryTruths t entries) (Json.entryAtoms entries) cs
  | [], _, h => by
    cases h
    exact .nil
  | (key, value) :: _, _, h => by
    rw [Condition.listOfEntries_cons, bind_eq_ok_iff] at h
    obtain ⟨c, hc, h⟩ := h
    obtain ⟨cs, hcs, h⟩ := bind_eq_ok_iff.mp h
    cases h
    rw [Condition.ofEntry] at hc
    simp only [Json.entryTruths, Json.entryAtoms]
    cases hkey : Connective.ofKey? key with
    | some connective =>
      simp only [hkey] at hc
      exact (reading_of_group hc).append (reading_of_entries hcs)
    | none =>
      simp only [hkey] at hc
      exact (reading_of_field hc).append (reading_of_entries hcs)

/-- What stands under a connective. -/
theorem reading_of_group {key : String} {connective : Connective} :
    ∀ {d : Json} {c : Option Condition}, Condition.ofGroup key connective d = .ok c →
      Reading (fun t => [d.truth? t connective]) d.atoms c.toList
  | .null, _, h => by simp [Condition.ofGroup] at h
  | .bool _, _, h => by simp [Condition.ofGroup] at h
  | .number _, _, h => by simp [Condition.ofGroup] at h
  | .string _, _, h => by simp [Condition.ofGroup] at h
  | .array _, _, h => by
    rw [Condition.ofGroup, map_eq_ok_iff] at h
    obtain ⟨cs, hcs, rfl⟩ := h
    exact (reading_of_members hcs).groupOf? connective
  | .object _, _, h => by
    rw [Condition.ofGroup, map_eq_ok_iff] at h
    obtain ⟨cs, hcs, rfl⟩ := h
    exact (reading_of_entries hcs).groupOf? connective

theorem reading_of_members {key : String} : ∀ {items : List Json} {cs : List Condition},
    Condition.membersOf key items = .ok cs →
      Reading (fun t => Json.itemTruths t items) (Json.itemAtoms items) cs
  | [], _, h => by
    cases h
    exact .nil
  | _ :: _, _, h => by
    rw [Condition.membersOf, bind_eq_ok_iff] at h
    obtain ⟨member, hmember, h⟩ := h
    obtain ⟨members, hmembers, h⟩ := bind_eq_ok_iff.mp h
    cases h
    exact (reading_of_member hmember).append (reading_of_members hmembers)

theorem reading_of_member {key : String} : ∀ {d : Json} {cs : List Condition},
    Condition.memberOf key d = .ok cs → Reading (fun t => [d.truth? t .and]) d.atoms cs
  | .null, _, h => by simp [Condition.memberOf] at h
  | .bool _, _, h => by simp [Condition.memberOf] at h
  | .number _, _, h => by simp [Condition.memberOf] at h
  | .array _, _, h => by simp [Condition.memberOf] at h
  | .string s, _, h => by
    rw [Condition.memberOf] at h
    split at h
    next => cases h
    next hs =>
      cases h
      simp only [Json.truth?, Json.atoms, if_neg hs]
      exact .raw (by simpa using hs)
  | .object _, _, h => by
    rw [Condition.memberOf, map_eq_ok_iff] at h
    obtain ⟨cs, hcs, rfl⟩ := h
    exact (reading_of_entries hcs).branch

end

/-- A condition has the truth value of the document that it is read from, whatever
truth values the comparisons and raw texts have, and there is a condition exactly
when the document says something.  The atoms of the condition are those of the
document, one by one and in order. -/
theorem ofJson_means {d : Json} {c : Option Condition} (h : Condition.ofJson d = .ok c) :
    (∀ truth, d.truth? (Atom.read truth) .and = c.map (Condition.eval truth)) ∧
    (∀ i : Interpretation, d.truth? (Atom.read i.atom) .and = c.map (Condition.holds i)) ∧
    List.Forall₂ Atom.Reads d.atoms (Condition.allAtoms c.toList) := by
  have hread := reading_of_condition h
  have htruth : ∀ truth, d.truth? (Atom.read truth) .and = c.map (Condition.eval truth) := by
    intro truth
    have hone := hread.truths truth
    cases hd : d.truth? (Atom.read truth) .and <;> cases c <;> simp_all
  refine ⟨htruth, fun i => ?_, hread.atoms⟩
  rw [htruth]
  cases c with
  | none => rfl
  | some c => simp [Condition.holds_eq_eval i (hread.full c (by simp))]

/-- A document with a connective in capitals over an array, a repeated field, an
empty list, and members that say nothing. -/
def accessDocument : Json :=
  .object
    [("state", .object [("<>", .null), (" Like ", .string "a%")]),
      ("OR", .array
        [.object [("role", .string "admin")],
          .object [("role", .string "editor"), ("tags", .array [])],
          .object [("banned", .object [])],
          .string " owner = me() "]),
      ("and", .object [("or", .array [])])]

/-- The condition of `accessDocument`. -/
def accessCondition : Condition :=
  .group .and
    [.group .and [.leaf "state" .ne .null, .leaf "state" .like (.string "a%")],
      .group .or
        [.leaf "role" .eq (.string "admin"),
          .group .and [.leaf "role" .eq (.string "editor"), .leaf "tags" .eq (.list [])],
          .raw " owner = me() "]]

theorem ofJson_means_accessDocument :
    Condition.ofJson accessDocument = .ok (some accessCondition) ∧
    (∀ truth, accessDocument.truth? (Atom.read truth) .and =
      some (accessCondition.eval truth)) ∧
    (∀ i : Interpretation, accessDocument.truth? (Atom.read i.atom) .and =
      some (accessCondition.holds i)) ∧
    List.Forall₂ Atom.Reads accessDocument.atoms (Condition.allAtoms [accessCondition]) :=
  have h : Condition.ofJson accessDocument = .ok (some accessCondition) := rfl
  ⟨h, ofJson_means h⟩

end RelQuery
