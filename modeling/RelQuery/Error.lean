import RelQuery.Text.Integer
import RelQuery.TypeTag
import RelQuery.Vocabulary

/-!
# Errors

Everything that can go wrong, as causes.  An error says what failed and with
which data, and `Error.message` alone words it.

* A `CastError` is a value that does not fit a type.
* A `Fault` is why a document is refused: its text cannot be read, or one of
  the rules of queries is broken.
* An `Error` is any failure of a request.  Its `category` groups the causes as
  callers tell them apart.

How an unreadable text is described depends on who reads it and for whom, so
the description is a parameter (`Wording`).
-/

namespace RelQuery

/-! ## Causes -/

/-- A value that does not fit a type. -/
structure CastError where
  /-- The type that was asked for. -/
  expected : TypeTag
  /-- The text of the value. -/
  value : String
  deriving DecidableEq, Repr

mutual

/-- Why a document is refused. -/
inductive Fault where
  /-- Its text cannot be read as a query. -/
  | unreadable
  /-- It breaks a rule of queries. -/
  | rule (error : Error)

/-- Why a request fails. -/
inductive Error where
  /-- A statement of this kind has no model. -/
  | noModel (kind : Kind)
  /-- A join has no model. -/
  | joinWithoutModel
  /-- A text that should be an operator is none. -/
  | unknownOperator (text : String)
  /-- An operator other than equality compares a field with a query. -/
  | operatorOnQuery (op : Operator) (field : String)
  /-- A range test has another number of operands than two. -/
  | malformedBetween (field : String) (count : Nat)
  /-- The value of a field does not fit its type. -/
  | cast (field : String) (cause : CastError)
  /-- An operator without a meaning for lists is given one. -/
  | operatorOnList (op : Operator) (field : String)
  /-- An object stands where a value is due. -/
  | objectAsValue
  /-- A group is neither an object nor an array of members. -/
  | groupShape (key json : String)
  /-- A member of a group is neither an object nor raw text. -/
  | memberShape (key json : String)
  /-- A sort order has no meaning. -/
  | orderShape (json : String)
  /-- A query inside a value is refused. -/
  | badSubquery (fault : Fault)
  /-- A document is refused. -/
  | document (fault : Fault)
  /-- A statement that writes has nothing to write. -/
  | emptyPayload (kind : Kind) (model : String)
  /-- Queries are nested beyond the limit. -/
  | depthExceeded (limit : Nat)
  /-- A schema file cannot be read as a schema. -/
  | schemaUnreadable
  /-- The source of schemas fails. -/
  | schema (text : String)
  /-- The database cannot be reached. -/
  | connection (text : String)
  /-- The database fails. -/
  | execution (text : String)
  /-- A read is asked for with a statement of another kind. -/
  | readExpected (kind : Kind)
  /-- A write is asked for with a read. -/
  | writeExpected
  /-- A name, in small letters, is not that of a dialect. -/
  | unknownDialect (name : String)
  /-- A configuration cannot be read. -/
  | configUnreadable
  /-- A file cannot be read. -/
  | io (text : String)

end

/-! ## Categories -/

/-- What kind of failure an error is, for a caller that does not look further. -/
inductive Error.Category where
  /-- No model to work on. -/
  | missingTarget
  /-- An operator that is unknown or out of place. -/
  | invalidOperator
  /-- A range without two ends. -/
  | malformedBetween
  /-- A value that does not fit. -/
  | cast
  /-- A document or condition without a meaning. -/
  | invalidCondition
  /-- Nothing to write. -/
  | emptyPayload
  /-- Nesting beyond the limit. -/
  | depthExceeded
  /-- A failing schema. -/
  | schema
  /-- A failing connection. -/
  | connection
  /-- A failing execution. -/
  | execution
  /-- A failing configuration. -/
  | config
  /-- A failing file. -/
  | io
  deriving DecidableEq, Repr

/-- The category of an error. -/
def Error.category : Error → Category
  | noModel _ | joinWithoutModel => .missingTarget
  | unknownOperator _ | operatorOnQuery .. => .invalidOperator
  | malformedBetween .. => .malformedBetween
  | cast .. => .cast
  | operatorOnList .. | objectAsValue | groupShape .. | memberShape .. => .invalidCondition
  | orderShape _ | badSubquery _ | document _ => .invalidCondition
  | emptyPayload .. => .emptyPayload
  | depthExceeded _ => .depthExceeded
  | schemaUnreadable | schema _ => .schema
  | connection _ => .connection
  | execution _ | readExpected _ | writeExpected => .execution
  | unknownDialect _ | configUnreadable => .config
  | io _ => .io

/-! ## Wording -/

/-- How texts that cannot be read are described. -/
structure Wording where
  /-- A query document or a schema. -/
  document : String := "the text is not a valid document"
  /-- A configuration. -/
  config : String := "the text is not a valid configuration"
  deriving DecidableEq, Repr

/-- The message of a cast error. -/
def CastError.message (e : CastError) : String :=
  "cannot cast " ++ e.value ++ " to " ++ e.expected.name

mutual

/-- The message of a fault. -/
def Fault.message (w : Wording) : Fault → String
  | .unreadable => w.document
  | .rule error => error.message w

/-- The message of an error. -/
def Error.message (w : Wording) : Error → String
  | .noModel kind => "Missing target: " ++ kind.name ++ " query has no model"
  | .joinWithoutModel => "Missing target: join has no model"
  | .unknownOperator text => "Invalid operator: '" ++ text ++ "'"
  | .operatorOnQuery op field =>
    "Invalid operator: '" ++ op.sql ++ " cannot compare '" ++ field ++ "' with a sub-query'"
  | .malformedBetween field count =>
    "Malformed between on '" ++ field ++ "': expected 2 operands, got " ++ Text.naturalText count
  | .cast field cause => "Cast error on '" ++ field ++ "': " ++ cause.message
  | .operatorOnList op field =>
    "Invalid condition: operator " ++ op.sql ++ " does not accept a list for '" ++ field ++ "'"
  | .objectAsValue =>
    "Invalid condition: a mapping is not a value unless it is \x7b\"$query\": ...\x7d"
  | .groupShape key json =>
    "Invalid condition: '" ++ key ++ "' expects a mapping or a list of mappings, got " ++ json
  | .memberShape key json =>
    "Invalid condition: '" ++ key ++ "' list entries must be mappings, got " ++ json
  | .orderShape json => "Invalid condition: unsupported order specification: " ++ json
  | .badSubquery fault => "Invalid condition: bad sub-query: " ++ fault.message w
  | .document fault => "Invalid condition: " ++ fault.message w
  | .emptyPayload kind model => "Empty payload for " ++ kind.name ++ " on " ++ model
  | .depthExceeded limit => "Query nesting exceeds depth limit of " ++ Text.naturalText limit
  | .schemaUnreadable => "Schema error: " ++ w.document
  | .schema text => "Schema error: " ++ text
  | .connection text => "Connection error: " ++ text
  | .execution text => "Execution error: " ++ text
  | .readExpected kind => "Execution error: read expects a read query, got " ++ kind.name
  | .writeExpected => "Execution error: write expects a create, update or delete query"
  | .unknownDialect name => "Configuration error: unknown dialect '" ++ name ++ "'"
  | .configUnreadable => "Configuration error: " ++ w.config
  | .io text => "IO error: " ++ text

end

/-! ## Checks -/

example : (Error.cast "age" ⟨.integer, "'abc'"⟩).message {} =
    "Cast error on 'age': cannot cast 'abc' to integer" := by
  decide +kernel

end RelQuery
