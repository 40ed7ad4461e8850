import DocMapper.Schema.Conformance

namespace DocMapper

/-! # Schemas

A model declares a collection and fields in order. A draft of a schema becomes a schema when all
its names are legal, its fields are distinct and its defaults have their declared types. The
identifier belongs to every schema without being declared.
-/

/-- The name of a collection: not empty, at most 120 bytes, without null characters and dollar
signs, and outside the reserved names. -/
structure CollectionName where
  text : String
  deriving DecidableEq

namespace CollectionName

/-- The most bytes that a collection name may have. -/
def maxLength : Nat := 120

/-- The head of the names that the store reserves. -/
def reservedHead : List Char := "system.".toList

/-- Checks the rules for collection names in order. -/
def ofString (name : String) : Except Error CollectionName :=
  let fail (fault : CollectionNameFault) : Except Error CollectionName :=
    .error (.validation (.collectionName fault))
  if name.isEmpty then fail .empty
  else if maxLength < name.utf8ByteSize then fail (.tooLong name)
  else if '\x00' ∈ name.toList then fail .nullCharacter
  else if reservedHead.isPrefixOf name.toList then fail (.reserved name)
  else if '$' ∈ name.toList then fail (.dollar name)
  else .ok ⟨name⟩

end CollectionName

/-- A declared field. -/
structure Field where
  name : String
  type : FieldType
  /-- The value of instances that omit the field. -/
  default? : Option Value := none
  /-- Filters may use the field; otherwise they leave it out of account. -/
  queryable : Bool := true

namespace Field

/-- The most bytes that a field name may have. -/
def maxNameLength : Nat := 1024

/-- Checks the rules for field names in order. -/
def checkName (name : String) : Except Error Unit :=
  let fail (fault : FieldNameFault) : Except Error Unit := .error (.validation (.fieldName fault))
  let chars := name.toList
  if name.isEmpty then fail .empty
  else if maxNameLength < name.utf8ByteSize then fail .tooLong
  else if '\x00' ∈ chars then fail .nullCharacter
  else if isOperatorKey name then fail (.operator name)
  else if '.' ∈ chars then fail (.dotted name)
  else if !(Text.cutPairs '_' chars).2.isEmpty then fail (.separator name)
  else .ok ()

/-- The field that every schema has. -/
def id : Field := { name := Document.idKey, type := .any }

/-- What stands for the field in an instance that omits it. -/
def absent? (f : Field) : Option Value :=
  match f.default? with
  | some value => some value
  | none => if f.type.isNullable then some .null else none

/-- The value of the field in an instance, checked. -/
def complete (f : Field) (d : Document) : Except Error (String × Value) :=
  match (Document.get? d f.name).or f.absent? with
  | none => .error (.validation (.missingField f.name))
  | some value => do
    f.type.check f.name value
    return (f.name, value)

end Field

/-- The declared fields of a collection. -/
structure Schema where
  collection : CollectionName
  fields : List Field

namespace Schema

/-- The name of the collection. -/
def name (s : Schema) : String := s.collection.text

/-- The names of the declared fields in order. -/
def fieldNames (s : Schema) : List String := s.fields.map (·.name)

/-- The field with a name; the identifier is one of them. -/
def field? (s : Schema) (name : String) : Option Field :=
  if name = Document.idKey then some .id else s.fields.find? (·.name = name)

/-- The error that a field is not declared. -/
def undeclared (s : Schema) (name : String) : Error := .undeclaredField name s.name s.fieldNames

/-- The field with a name, or an error. -/
def declared (s : Schema) (name : String) : Except Error Field :=
  match s.field? name with
  | some field => .ok field
  | none => .error (s.undeclared name)

/-- Checks that all names are declared. -/
def checkDeclared (s : Schema) (names : List String) : Except Error Unit :=
  names.forM fun name => do let _ ← s.declared name

/-- Checks an instance and brings it into normal form: the identifier first, if there is one, and
then every declared field in order, absent ones filled in. -/
def normalize (s : Schema) (d : Document) : Except Error Document := do
  s.checkDeclared (Document.keys d)
  let id := match Document.id? d with
    | some id => [(Document.idKey, id)]
    | none => []
  let fields ← s.fields.mapM (·.complete d)
  return id ++ fields

end Schema

/-- A schema as it is declared, not yet checked. -/
structure SchemaDraft where
  collection : String
  fields : List Field
  /-- The fields that filters leave out of account. -/
  excluded : List String := []

namespace SchemaDraft

/-- Adds a field to the ones declared before it. -/
def declare (collection : CollectionName) (fields : List Field) (field : Field) :
    Except Error (List Field) := do
  Field.checkName field.name
  if field.name = Document.idKey then .error (.validation .redeclaredId)
  else if fields.any (·.name = field.name) then
    .error (.validation (.declaredTwice field.name collection.text))
  else
    match field.default? with
    | some value => field.type.check field.name value
    | none => .ok ()
    return fields ++ [field]

/-- Excludes a field from filters. -/
def exclude (collection : CollectionName) (fields : List Field) (name : String) :
    Except Error (List Field) :=
  if fields.any (·.name = name) then
    .ok (fields.map fun f => if f.name = name then { f with queryable := false } else f)
  else
    .error (({ collection, fields } : Schema).undeclared name)

/-- Checks the draft: the collection first, then the fields in order, then the exclusions. -/
def build (draft : SchemaDraft) : Except Error Schema := do
  let collection ← CollectionName.ofString draft.collection
  let fields ← draft.fields.foldlM (declare collection) []
  let fields ← draft.excluded.foldlM (exclude collection) fields
  return { collection, fields }

end SchemaDraft

end DocMapper
