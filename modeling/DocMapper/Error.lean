import DocMapper.Schema.FieldType
import DocMapper.Value.Display
import DocMapper.Value.Path

namespace DocMapper

/-! # Errors

Every way in which an operation fails is a constructor here; the wording of its message is in one
place, `Error.message`. An error has a kind, which heads the message and tells whether the caller's
input alone was at fault.
-/

/-- The kinds of errors. -/
inductive ErrorKind where
  /-- A value does not have its declared type, or an operand is malformed. -/
  | validation
  /-- A key refers to a field that the model does not declare. -/
  | schema
  /-- An instance submitted for reconciliation lacks a value to match by. -/
  | reconciliation
  /-- The store refused an operation. -/
  | driver
  /-- The keyword vocabulary was misused. -/
  | query
  | serialization
  | deserialization
  | connection
  | configuration
  /-- An index to add exists, or one to drop does not. -/
  | index
  /-- A document that must exist was not found. -/
  | doesNotExist
  | internal
  deriving DecidableEq

namespace ErrorKind

/-- The head of a message. -/
def label : ErrorKind → String
  | validation => "Validation error: "
  | schema => "Schema error: "
  | reconciliation => "Reconciliation error: "
  | driver => "Driver error: "
  | query => "Query error: "
  | serialization => "Serialization error: "
  | deserialization => "Deserialization error: "
  | connection => "Connection error: "
  | configuration => "Configuration error: "
  | index => "Index error: "
  | doesNotExist => "Does not exist: "
  | internal => "Internal error: "

/-- The whole message of an error of this kind. -/
def message (kind : ErrorKind) (text : String) : String := kind.label ++ text

/-- The store raised the error. -/
def isDriver (kind : ErrorKind) : Bool := kind == driver

/-- The error was found in the caller's input before anything was read or written. -/
def isClient : ErrorKind → Bool
  | validation => true
  | schema => true
  | reconciliation => true
  | query => true
  | _ => false

end ErrorKind

/-- Why a name is not a collection name. -/
inductive CollectionNameFault where
  | empty
  | tooLong (name : String)
  | nullCharacter
  | reserved (name : String)
  | dollar (name : String)

/-- Why a name is not a field name. -/
inductive FieldNameFault where
  | empty
  | tooLong
  | nullCharacter
  | operator (name : String)
  | dotted (name : String)
  | separator (name : String)

/-- Malformed values and operands. -/
inductive Invalid where
  | collectionName (fault : CollectionNameFault)
  | fieldName (fault : FieldNameFault)
  | redeclaredId
  | declaredTwice (field collection : String)
  | typeMismatch (path : String) (expected : FieldType) (value : Value)
  | missingField (field : String)
  | dangerousOperator (key : String)
  | incrementNotInteger (key : String) (value : Value)
  | nothingToUpdate
  | membershipNotList (path : String) (value : Value)
  | rangeNotList (path : String) (value : Value)
  | rangeNotPair (path : String) (count : Nat)
  | patternNotString (path : String) (value : Value)
  | flagNotBool (path : String) (value : Value)
  | sortDirection (n : Int)
  | noQueryFields
  | noUpdatedFields
  | replacingWithoutFilter
  | aggregatingWithoutField
  | lookupCollision (output collection : String)
  | emptyUpdate
  | notUpdateOperator (key : String)
  | operandNotDocument (name : String)

/-- Misuses of the keyword vocabulary. -/
inductive BadKeyword where
  | emptySegment (key : String)
  | updateInFilter (key : String)
  | unknownOperator (suffix key : String)

/-- Instances that reconciliation has nothing to match by. -/
inductive Unmatchable where
  | noValue (index : Nat) (field : String)
  | noId (index : Nat)

/-- What the store refuses. -/
inductive StoreFault where
  | duplicateId (id : Value)
  | immutableId
  | pathBlocked (blocked : PathBlocked)
  | clausesNotArray (name : String)
  | clauseNotDocument (name : String)
  | topLevelOperator (name : String)
  | operator (name : String)
  | existsNotBool
  | needsArray (name : String)
  | patternNotString
  | invalidPattern (pattern : String)
  | notUpdateOperators
  | operandNotDocument (name : String)
  | incrementNotNumber (path : String)
  | updateOperator (name : String)
  | replacementOperator (key : String)
  | emptyIndexKeys
  | indexConflict (name : String)
  | primaryIndex
  | noIndex (name : String)
  | emptyStage
  | stage (name : String)
  | stageCount (name : String)
  | stageText (name key : String)
  | unwindPath
  | unwindPathDollar
  | groupWithoutId
  | groupWithoutAccumulator (field : String)
  | accumulator (name : String)

/-- Documents that cannot be read as instances. -/
inductive Undecodable where
  | missingField (field : String)
  | joinedNotDocument (output : String) (value : Value)

/-- Unusable settings. -/
inductive BadSetting where
  | noDatabaseVariable
  | notNumber (name text : String)
  | emptyUri
  | emptyDatabase
  | emptyPool
  | invalidUri

/-- Indexes that are there already, or not at all. -/
inductive IndexMismatch where
  | present (name : String)
  | noneOfField (field : String)

/-- Why an operation failed. -/
inductive Error where
  | validation (cause : Invalid)
  | undeclaredField (field model : String) (declared : List String)
  | reconciliation (cause : Unmatchable)
  | driver (cause : StoreFault)
  | query (cause : BadKeyword)
  | deserialization (cause : Undecodable)
  | configuration (cause : BadSetting)
  | index (cause : IndexMismatch)
  | doesNotExist (collection : String) (filter : Document)

/-- A text in single quotes. -/
def quoted (s : String) : String := "'" ++ s ++ "'"

/-- The head of the names of all environment variables. -/
def variableHead : String := "MONGODANTIC_"

namespace CollectionNameFault

/-- What a message says of the fault. -/
def text : CollectionNameFault → String
  | empty => "Collection name cannot be empty"
  | tooLong name => "Collection name exceeds maximum length of 120 characters: " ++ quoted name
  | nullCharacter => "Collection name cannot contain null bytes"
  | reserved name => "Collection name cannot start with 'system.' (reserved): " ++ quoted name
  | dollar name => "Collection name cannot contain '$' character: " ++ quoted name

end CollectionNameFault

namespace FieldNameFault

/-- What a message says of the fault. -/
def text : FieldNameFault → String
  | empty => "Field name cannot be empty"
  | tooLong => "Field name exceeds maximum length of 1024 characters"
  | nullCharacter => "Field name cannot contain null bytes"
  | operator name => "Field name cannot start with '$' (reserved for operators): " ++ quoted name
  | dotted name => "Field name cannot contain '.' (reserved for nested paths): " ++ quoted name
  | separator name =>
    "Field name cannot contain '__' (reserved for query operators): " ++ quoted name

end FieldNameFault

namespace Invalid

/-- What a message says of the cause. -/
def text : Invalid → String
  | collectionName fault => fault.text
  | fieldName fault => fault.text
  | redeclaredId => "'_id' is declared implicitly and cannot be redeclared"
  | declaredTwice field collection =>
    "field " ++ quoted field ++ " is declared twice on " ++ quoted collection
  | typeMismatch path expected value =>
    "field " ++ quoted path ++ " expected type " ++ quoted expected.name ++ ", got " ++
      quoted value.typeName
  | missingField field => "field " ++ quoted field ++ " is required"
  | dangerousOperator key =>
    "Dangerous operator " ++ quoted key ++ " is not allowed for security reasons"
  | incrementNotInteger key value =>
    quoted key ++ " must be an integer, got " ++ quoted value.typeName
  | nothingToUpdate => "no fields for updating: use '<field>__set' or '<field>__inc'"
  | membershipNotList path value =>
    quoted path ++ " membership values must be a list, got " ++ quoted value.typeName
  | rangeNotList path value =>
    quoted path ++ " range must be a list of 2 bounds, got " ++ quoted value.typeName
  | rangeNotPair path count =>
    quoted path ++ " range must be a list of 2 bounds, got " ++ toString count ++ " values"
  | patternNotString path value =>
    quoted path ++ " pattern must be a string, got " ++ quoted value.typeName
  | flagNotBool path value =>
    quoted path ++ " exists flag must be a bool, got " ++ quoted value.typeName
  | sortDirection n => "invalid sort value must be 1 or -1 not " ++ toString n
  | noQueryFields => "query_fields cannot be empty"
  | noUpdatedFields => "updated_fields cannot be empty"
  | replacingWithoutFilter => "replacing needs filter parameters"
  | aggregatingWithoutField => "aggregation needs at least one field"
  | lookupCollision output collection =>
    "lookup output " ++ quoted output ++ " collides with a field of " ++ quoted collection
  | emptyUpdate => "update must not be empty"
  | notUpdateOperator key =>
    "update key " ++ quoted key ++
      " is not an update operator, use ReplaceOne to replace documents"
  | operandNotDocument name => name ++ " needs a document"

end Invalid

namespace BadKeyword

/-- What a message says of the cause. -/
def text : BadKeyword → String
  | emptySegment key => "malformed keyword " ++ quoted key ++ ": empty segment around '__'"
  | updateInFilter key => quoted key ++ " is an update operator and cannot be used in a filter"
  | unknownOperator suffix key =>
    "unknown operator " ++ quoted suffix ++ " in keyword " ++ quoted key

end BadKeyword

namespace Unmatchable

/-- What a message says of the cause. -/
def text : Unmatchable → String
  | noValue index field =>
    "instance " ++ toString index ++ " has no value for query field " ++ quoted field
  | noId index => "instance " ++ toString index ++ " has no '_id' to update by"

end Unmatchable

namespace StoreFault

/-- What a message says of the cause. -/
def text : StoreFault → String
  | duplicateId id => "E11000 duplicate key error: _id " ++ id.display
  | immutableId => "the '_id' field is immutable"
  | pathBlocked blocked =>
    "cannot create field " ++ quoted blocked.remainingText ++ " in non-document " ++
      quoted blocked.blocker
  | clausesNotArray name => name ++ " must be an array"
  | clauseNotDocument name => name ++ " entries must be documents"
  | topLevelOperator name => "unsupported top-level operator " ++ quoted name
  | operator name => "unsupported operator " ++ quoted name
  | existsNotBool => "$exists needs a boolean"
  | needsArray name => name ++ " needs an array"
  | patternNotString => "$regex needs a string pattern"
  | invalidPattern pattern => "invalid regex " ++ quoted pattern
  | notUpdateOperators =>
    "update must use update operators; replacement documents are not supported"
  | operandNotDocument name => name ++ " needs a document"
  | incrementNotNumber path => "cannot apply $inc to non-numeric " ++ quoted path
  | updateOperator name => "unsupported update operator " ++ quoted name
  | replacementOperator key =>
    "replacement document must not contain update operator " ++ quoted key
  | emptyIndexKeys => "index keys must not be empty"
  | indexConflict name =>
    "an index named " ++ quoted name ++ " already exists with different options"
  | primaryIndex => "cannot drop _id index"
  | noIndex name => "index not found with name [" ++ name ++ "]"
  | emptyStage => "empty pipeline stage"
  | stage name => "unsupported pipeline stage " ++ quoted name
  | stageCount name => name ++ " needs a non-negative integer"
  | stageText name key => name ++ " needs a string " ++ quoted key
  | unwindPath => "$unwind needs a field path"
  | unwindPathDollar => "$unwind path must start with '$'"
  | groupWithoutId => "$group needs an _id expression"
  | groupWithoutAccumulator field => "$group field " ++ quoted field ++ " needs an accumulator"
  | accumulator name => "unsupported accumulator " ++ quoted name

end StoreFault

namespace Undecodable

/-- What a message says of the cause. -/
def text : Undecodable → String
  | missingField field => "missing field " ++ quoted field
  | joinedNotDocument output value =>
    "joined " ++ quoted output ++ " value is not a document: " ++ value.display

end Undecodable

namespace BadSetting

/-- What a message says of the cause. -/
def text : BadSetting → String
  | noDatabaseVariable => variableHead ++ "DB is not set"
  | notNumber name text =>
    variableHead ++ name ++ " must be a non-negative integer, got " ++ quoted text
  | emptyUri => "connection URI cannot be empty"
  | emptyDatabase => "database name cannot be empty"
  | emptyPool => "max_pool_size must be at least 1"
  | invalidUri => "invalid connection URI"

end BadSetting

namespace IndexMismatch

/-- What a message says of the cause. -/
def text : IndexMismatch → String
  | present name => name ++ " - already exists"
  | noneOfField field => "invalid index name - " ++ field

end IndexMismatch

namespace Error

/-- The kind of the error. -/
def kind : Error → ErrorKind
  | validation _ => .validation
  | undeclaredField _ _ _ => .schema
  | reconciliation _ => .reconciliation
  | driver _ => .driver
  | query _ => .query
  | deserialization _ => .deserialization
  | configuration _ => .configuration
  | index _ => .index
  | doesNotExist _ _ => .doesNotExist

/-- The message without its head. -/
def text : Error → String
  | validation cause => cause.text
  | undeclaredField field model declared =>
    "field " ++ quoted field ++ " is not declared on " ++ quoted model ++ ", must be one of [" ++
      String.intercalate ", " declared ++ "]"
  | reconciliation cause => cause.text
  | driver cause => cause.text
  | query cause => cause.text
  | deserialization cause => cause.text
  | configuration cause => cause.text
  | index cause => cause.text
  | doesNotExist collection filter => "no " ++ quoted collection ++ " matches " ++ filter.display

/-- The message of the error. -/
def message (e : Error) : String := e.kind.message e.text

/-- The store raised the error. -/
def isDriver (e : Error) : Bool := e.kind.isDriver

/-- The error was found in the caller's input before anything was read or written. -/
def isClient (e : Error) : Bool := e.kind.isClient

end Error

end DocMapper
