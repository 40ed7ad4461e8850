import DocMapper.ReadOptions
import DocMapper.Value.Display

namespace DocMapper

/-! # Indexes

Descriptions of indexes. The store keeps them but does not enforce them.
-/

/-- An index as the store reports it. -/
structure Index where
  name : String
  /-- The indexed fields with their directions. -/
  keys : Document
  unique : Bool := false
  sparse : Bool := false

namespace Index

/-- The name of the index on identifiers. -/
def primaryName : String := "_id_"

/-- The index on identifiers, which every collection has from the start. -/
def primary : Index := { name := primaryName, keys := ReadOptions.idSort }

/-- The same index. -/
def same (a b : Index) : Bool :=
  a.name == b.name && Document.beq a.keys b.keys && a.unique == b.unique && a.sparse == b.sparse

end Index

/-- An index to create. -/
structure IndexDraft where
  keys : Document := []
  unique : Bool := false
  sparse : Bool := false
  name? : Option String := none

namespace IndexDraft

/-- Adds a field to the keys. -/
def addKey (draft : IndexDraft) (field : String) (direction : SortDirection) : IndexDraft :=
  { draft with keys := Document.insert draft.keys field direction.toValue }

/-- An index on one field. -/
def single (field : String) (direction : SortDirection) : IndexDraft := addKey {} field direction

/-- The given name, or the fields with their directions joined by underscores. -/
def name (draft : IndexDraft) : String :=
  draft.name?.getD
    (String.intercalate "_" (draft.keys.map fun (field, direction) =>
      field ++ "_" ++ direction.display))

/-- The index that the store will report. -/
def toIndex (draft : IndexDraft) : Index :=
  { name := draft.name, keys := draft.keys, unique := draft.unique, sparse := draft.sparse }

end IndexDraft

end DocMapper
