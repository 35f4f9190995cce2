import RelQuery.Json.Outline
import RelQuery.Query.Order

/-!
# Query documents

A query document is a JSON object with one entry for each part of a query, or
an array of the parts in their order.  This module reads it.

* A part that is left out has its default.  An entry that names no part is
  skipped, and a part that is named twice is a fault.
* A *condition* is an object of tests and groups, an array of conditions, or
  raw text.  Other scalars say nothing.
* A *value* is any JSON value but an object.  The object with the one entry
  `$query` is the query in it.

A text is decoded while it is read, so the fault that counts is the first one
in the text, whether it breaks the syntax or a rule.  `Query.ofOutline` is that
reading.  A query inside a condition is decoded after the whole condition has
been read, which is `Query.ofJson`.
-/

namespace RelQuery

/-! ## The parts of a query -/

/-- The parts of a query document. -/
inductive Query.Part where
  /-- What the statement does. -/
  | kind
  /-- The model. -/
  | model
  /-- The selected fields. -/
  | fields
  /-- The condition. -/
  | conditions
  /-- The joins. -/
  | joins
  /-- What the query is joined on. -/
  | constraint
  /-- How the query is joined. -/
  | joinKind
  /-- How many rows at most. -/
  | limit
  /-- How many rows to skip. -/
  | offset
  /-- The sort order. -/
  | order
  /-- The fields to write. -/
  | payload
  deriving DecidableEq, Repr

namespace Query.Part

/-- The parts in the order of a document that is an array. -/
def all : List Part :=
  [kind, model, fields, conditions, joins, constraint, joinKind, limit, offset, order, payload]

/-- The keys that name a part. -/
def names : Part → List String
  | kind => ["kind", "type"]
  | model => ["model"]
  | fields => ["fields"]
  | conditions => ["conditions"]
  | joins => ["joins"]
  | constraint => ["constraint"]
  | joinKind => ["join_kind"]
  | limit => ["limit"]
  | offset => ["offset"]
  | order => ["order"]
  | payload => ["payload", "data"]

/-- The part that a key names. -/
def ofKey? (key : String) : Option Part := all.find? fun p => p.names.contains key

end Query.Part

/-- A part of a query with its contents. -/
inductive Query.Content where
  /-- What the statement does. -/
  | kind (k : Kind)
  /-- The model. -/
  | model (m : Option Entity)
  /-- The selected fields. -/
  | fields (names : List String)
  /-- The condition. -/
  | conditions (c : Option Condition)
  /-- The joins. -/
  | joins (qs : List Query)
  /-- What the query is joined on. -/
  | constraint (c : Option String)
  /-- How the query is joined. -/
  | joinKind (k : Option JoinKind)
  /-- How many rows at most. -/
  | limit (n : Option UInt32)
  /-- How many rows to skip. -/
  | offset (n : Option UInt32)
  /-- The sort order. -/
  | order (terms : List OrderTerm)
  /-- The fields to write. -/
  | payload (p : Option (Entries Value))

/-- The query with one of its parts. -/
def Query.withContent (q : Query) : Query.Content → Query
  | .kind k => { q with kind := k }
  | .model m => { q with model := m }
  | .fields names => { q with fields := names }
  | .conditions c => { q with conditions := c }
  | .joins qs => { q with joins := qs }
  | .constraint c => { q with constraint := c }
  | .joinKind k => { q with joinKind := k }
  | .limit n => { q with limit := n }
  | .offset n => { q with offset := n }
  | .order terms => { q with order := terms }
  | .payload p => { q with payload := p }

/-! ## Scalar parts -/

/-- The result, or the fault of a text that cannot be read. -/
def readable {α : Type} : Option α → Except Fault α
  | some a => .ok a
  | none => .error .unreadable

/-- The result, or the rule that is broken. -/
def asRule {α : Type} : Except Error α → Except Fault α
  | .ok a => .ok a
  | .error e => .error (.rule e)

/-- The word of a closed vocabulary: a string, or an object with the word as its
one key and null as its value. -/
def Json.word? : Json → Option String
  | .string s => some s
  | .object [(key, .null)] => some key
  | _ => none

/-- Null as `none`, any other value by its reader. -/
def Json.optional? {α : Type} (value : Json) (read : Json → Option α) : Option (Option α) :=
  match value with
  | .null => some none
  | value => (read value).map some

/-- The text of a string. -/
def Json.string? : Json → Option String
  | .string s => some s
  | _ => none

/-- The texts of an array of strings. -/
def Json.strings? : Json → Option (List String)
  | .array items => items.mapM string?
  | _ => none

/-- A count that fits thirty-two bits. -/
def Json.count? : Json → Option UInt32
  | .number (.integer n _) => if 0 ≤ n ∧ n < 0x100000000 then some (UInt32.ofNat n.toNat) else none
  | _ => none

/-- The value of a key that stands at most once: `none` when it is repeated. -/
def Json.atMostOnce (key : String) (entries : List (String × Json)) : Option (Option Json) :=
  match entries.filter fun e => e.1 == key with
  | [] => some none
  | [(_, value)] => some (some value)
  | _ => none

/-- The text of a key that may be left out or null. -/
def Json.optionalText? (key : String) (entries : List (String × Json)) :
    Option (Option String) := do
  match ← atMostOnce key entries with
  | none => return none
  | some value => value.optional? string?

/-- A model: its name, or an object with its name and perhaps its table and key. -/
def Entity.ofJson? : Json → Option Entity
  | .string name => some (Entity.ofParts name none none)
  | .object entries => do
    let name ← (← Json.atMostOnce "name" entries).bind Json.string?
    let source ← Json.optionalText? "source" entries
    let key ← Json.optionalText? "key" entries
    return Entity.ofParts name source key
  | _ => none

/-- The contents of a part.  The three parts with queries inside come as
computations, of which at most one is run. -/
def Query.contentOf (part : Query.Part) (value : Except Fault Json)
    (conditions : Unit → Except Fault (Option Condition)) (joins : Unit → Except Fault (List Query))
    (payload : Unit → Except Fault (Option (Entries Value))) : Except Fault Query.Content :=
  match part with
  | .kind => do return .kind (← readable ((← value).word?.bind Kind.ofName?))
  | .model => do return .model (← readable ((← value).optional? Entity.ofJson?))
  | .fields => do return .fields (← readable (← value).strings?)
  | .conditions => (conditions ()).map .conditions
  | .joins => (joins ()).map .joins
  | .constraint => do return .constraint (← readable ((← value).optional? Json.string?))
  | .joinKind => do
    return .joinKind (← readable ((← value).optional? fun v => v.word?.bind JoinKind.ofName?))
  | .limit => do return .limit (← readable ((← value).optional? Json.count?))
  | .offset => do return .offset (← readable ((← value).optional? Json.count?))
  | .order => do return .order (← asRule (OrderTerm.listOfJson (← value)))
  | .payload => (payload ()).map .payload

/-! ## Conditions -/

/-- The key that marks an object as a query. -/
def queryKey : String := "$query"

/-- Whether an object is a query: its one key is the mark. -/
def isQueryObject : List (String × Json) → Bool
  | [(key, _)] => key == queryKey
  | _ => false

namespace Condition

/-- The members of a group, if there are any. -/
def groupOf? (connective : Connective) : List Condition → Option Condition
  | [] => none
  | members => some (.group connective members)

/-- The one member that several conditions make inside a group: a single
condition stands for itself, several are a conjunction, and none is no member. -/
def branch : List Condition → List Condition
  | [] => []
  | [c] => [c]
  | members => [.group .and members]

end Condition

/-! ## Values, conditions and queries -/

mutual

/-- The value of a JSON value. -/
def Value.ofJson : Json → Except Error Value
  | .null => .ok .null
  | .bool b => .ok (.bool b)
  | .number n => .ok (n.toInt64?.elim (.float n.toBinary64) .int)
  | .string s => .ok (.string s)
  | .array items => (Value.listOfItems items).map .list
  | .object entries => Value.ofEntries entries

/-- The values of an array. -/
def Value.listOfItems : List Json → Except Error (List Value)
  | [] => .ok []
  | item :: items => do
    let value ← Value.ofJson item
    let values ← Value.listOfItems items
    return value :: values

/-- The value of an object, which must be a query. -/
def Value.ofEntries : List (String × Json) → Except Error Value
  | [(key, value)] =>
    if key = queryKey then
      match Query.ofJson value with
      | .ok q => .ok (.query q)
      | .error fault => .error (.badSubquery fault)
    else .error .objectAsValue
  | _ => .error .objectAsValue

/-- The condition of a JSON value, if it says anything. -/
def Condition.ofJson : Json → Except Error (Option Condition)
  | .null => .ok none
  | .bool _ => .ok none
  | .number _ => .ok none
  | .string s => .ok (if Text.isBlankText s then none else some (.raw s))
  | .array items => (Condition.listOfItems items).map (Condition.groupOf? .and)
  | .object entries => (Condition.listOfEntries entries).map (Condition.groupOf? .and)

/-- The conditions of an array, without the items that say nothing. -/
def Condition.listOfItems : List Json → Except Error (List Condition)
  | [] => .ok []
  | item :: items => do
    let c ← Condition.ofJson item
    let cs ← Condition.listOfItems items
    return c.toList ++ cs

/-- The conditions of the entries of an object: a group where the key is a
connective, and the tests of a field elsewhere. -/
def Condition.listOfEntries : List (String × Json) → Except Error (List Condition)
  | [] => .ok []
  | (key, value) :: entries => do
    let c ← match Connective.ofKey? key with
      | some connective => Condition.ofGroup key connective value
      | none => Condition.ofField key value
    let cs ← Condition.listOfEntries entries
    return c.toList ++ cs

/-- The group under a key. -/
def Condition.ofGroup (key : String) (connective : Connective) :
    Json → Except Error (Option Condition)
  | .object entries => (Condition.listOfEntries entries).map (Condition.groupOf? connective)
  | .array items => (Condition.membersOf key items).map (Condition.groupOf? connective)
  | value => .error (.groupShape key value.compact)

/-- The members in the array of a group. -/
def Condition.membersOf (key : String) : List Json → Except Error (List Condition)
  | [] => .ok []
  | item :: items => do
    let member ← Condition.memberOf key item
    let members ← Condition.membersOf key items
    return member ++ members

/-- The member that an item of a group makes, if it says anything. -/
def Condition.memberOf (key : String) : Json → Except Error (List Condition)
  | .object entries => (Condition.listOfEntries entries).map Condition.branch
  | .string s =>
    if Text.isBlankText s then .error (.memberShape key (Json.quoted s)) else .ok [.raw s]
  | value => .error (.memberShape key value.compact)

/-- The tests of a field: one for each operator of an object, and equality with
any other value. -/
def Condition.ofField (field : String) : Json → Except Error (Option Condition)
  | .object entries =>
    if isQueryObject entries then (Value.ofEntries entries).map fun v => some (.leaf field .eq v)
    else (Condition.testsOf field entries).map (Condition.groupOf? .and)
  | .array items => (Value.listOfItems items).map fun vs => some (.leaf field .eq (.list vs))
  | .null => .ok (some (.leaf field .eq .null))
  | .bool b => .ok (some (.leaf field .eq (.bool b)))
  | .number n => .ok (some (.leaf field .eq (n.toInt64?.elim (.float n.toBinary64) .int)))
  | .string s => .ok (some (.leaf field .eq (.string s)))

/-- The tests of a field by the entries of an object of operators. -/
def Condition.testsOf (field : String) : List (String × Json) → Except Error (List Condition)
  | [] => .ok []
  | (key, value) :: entries =>
    match Operator.ofText? key with
    | none => .error (.unknownOperator key)
    | some op => do
      let value ← Value.ofJson value
      let tests ← Condition.testsOf field entries
      return .leaf field op value :: tests

/-- The query of a JSON value that has been read as a whole. -/
def Query.ofJson : Json → Except Fault Query
  | .object entries => Query.ofEntries [] {} entries
  | .array items => Query.ofItems Query.Part.all {} items
  | _ => .error .unreadable

/-- The query with the parts that the entries name, none of them seen before. -/
def Query.ofEntries (seen : List Query.Part) (q : Query) : List (String × Json) → Except Fault Query
  | [] => .ok q
  | (key, value) :: entries =>
    match Query.Part.ofKey? key with
    | none => Query.ofEntries seen q entries
    | some part =>
      if part ∈ seen then .error .unreadable
      else do
        let content ← Query.contentOf part (.ok value) (fun _ => asRule (Condition.ofJson value))
          (fun _ => Query.joinsOf value) (fun _ => Query.payloadOf value)
        Query.ofEntries (part :: seen) (q.withContent content) entries

/-- The query with the parts that are still due, in order. -/
def Query.ofItems (due : List Query.Part) (q : Query) : List Json → Except Fault Query
  | [] => .ok q
  | value :: items =>
    match due with
    | [] => .error .unreadable
    | part :: due => do
      let content ← Query.contentOf part (.ok value) (fun _ => asRule (Condition.ofJson value))
        (fun _ => Query.joinsOf value) (fun _ => Query.payloadOf value)
      Query.ofItems due (q.withContent content) items

/-- The queries of an array of joins. -/
def Query.joinsOf : Json → Except Fault (List Query)
  | .array items => Query.listOfItems items
  | _ => .error .unreadable

/-- The queries of the items of an array. -/
def Query.listOfItems : List Json → Except Fault (List Query)
  | [] => .ok []
  | item :: items => do
    let q ← Query.ofJson item
    let qs ← Query.listOfItems items
    return q :: qs

/-- The fields of a payload, which may be null. -/
def Query.payloadOf : Json → Except Fault (Option (Entries Value))
  | .null => .ok none
  | .object entries => (Query.fieldsOfEntries entries).map some
  | _ => .error .unreadable

/-- The fields of the entries of a payload. -/
def Query.fieldsOfEntries : List (String × Json) → Except Fault (Entries Value)
  | [] => .ok []
  | (key, value) :: entries => do
    let value ← asRule (Value.ofJson value)
    let fields ← Query.fieldsOfEntries entries
    return (key, value) :: fields

end

/-- A field with any value but an object is tested for equality with it. -/
theorem Condition.ofField_eq_of_not_object (field : String) (value : Json)
    (h : ∀ entries, value ≠ .object entries) :
    Condition.ofField field value = (Value.ofJson value).map fun v => some (.leaf field .eq v) := by
  cases value with
  | object entries => exact absurd rfl (h entries)
  | array items =>
    cases hv : Value.listOfItems items <;> simp [ofField, Value.ofJson, hv, Except.map]
  | _ => simp [ofField, Value.ofJson, Except.map]

/-! ## Reading a text -/

namespace Query

open Json (Outline)

/-- The value of an outline: any value for the sort order, and for the other
parts with the keys that are written. -/
def outlineValue (part : Part) (value : Outline) : Except Fault Json :=
  match part with
  | .order => readable value.settled?
  | _ => readable value.json?

/-- The condition of an outline. -/
def outlineCondition (value : Outline) : Except Fault (Option Condition) := do
  asRule (Condition.ofJson (← readable value.settled?))

/-- The fields of a payload one after another.  A field that is given again is
read and then replaces the one before. -/
def outlineFields : List (Option String × Outline) → Except Fault (Entries Value)
  | [] => .ok []
  | (key, value) :: entries => do
    let key ← readable key
    let value ← asRule (Value.ofJson (← readable value.settled?))
    let fields ← outlineFields entries
    return (key, value) :: fields

/-- The payload of an outline. -/
def outlinePayload : Outline → Except Fault (Option (Entries Value))
  | .null => .ok none
  | .object entries => (outlineFields entries).map fun fields => some (Entries.settle fields)
  | _ => .error .unreadable

mutual

/-- The query of an outline. -/
def ofOutline : Outline → Except Fault Query
  | .object entries => ofOutlineEntries [] {} entries
  | .array items => ofOutlineItems Part.all {} items
  | _ => .error .unreadable

/-- The query with the parts that the entries name, none of them seen before.
A value that names no part need only be closed. -/
def ofOutlineEntries (seen : List Part) (q : Query) :
    List (Option String × Outline) → Except Fault Query
  | [] => .ok q
  | (key, value) :: entries => do
    let key ← readable key
    match Part.ofKey? key with
    | none => if value.isClosed then ofOutlineEntries seen q entries else .error .unreadable
    | some part =>
      if part ∈ seen then .error .unreadable
      else
        let content ← contentOf part (outlineValue part value) (fun _ => outlineCondition value)
          (fun _ => outlineJoins value) (fun _ => outlinePayload value)
        ofOutlineEntries (part :: seen) (q.withContent content) entries

/-- The query with the parts that are still due, in order. -/
def ofOutlineItems (due : List Part) (q : Query) : List Outline → Except Fault Query
  | [] => .ok q
  | value :: items =>
    match due with
    | [] => .error .unreadable
    | part :: due => do
      let content ← contentOf part (outlineValue part value) (fun _ => outlineCondition value)
        (fun _ => outlineJoins value) (fun _ => outlinePayload value)
      ofOutlineItems due (q.withContent content) items

/-- The queries of an array of joins. -/
def outlineJoins : Outline → Except Fault (List Query)
  | .array items => listOfOutlines items
  | _ => .error .unreadable

/-- The queries of the items of an array. -/
def listOfOutlines : List Outline → Except Fault (List Query)
  | [] => .ok []
  | item :: items => do
    let q ← ofOutline item
    let qs ← listOfOutlines items
    return q :: qs

end

/-- The query of a text that holds one document and nothing after it. -/
def ofText (text : String) : Except Error Query :=
  let (value, alone) := Outline.ofText text
  match ofOutline value with
  | .error fault => .error (.document fault)
  | .ok q => if alone then .ok q else .error (.document .unreadable)

end Query

end RelQuery
