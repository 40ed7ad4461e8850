import DocMapper.Store.Basic

namespace DocMapper

/-! # Databases

Collections by name, with one supply of identifiers for all of them. A collection comes into being
when it is first used.
-/

/-- Named collections. -/
structure Database where
  collections : List (String × Collection) := []
  ids : IdSource

namespace Database

/-- The collection with a name; one that was never used is empty. -/
def collection (db : Database) (name : String) : Collection :=
  (db.collections.lookup name).getD {}

/-- The documents of a collection. -/
def documents (db : Database) (name : String) : List Document := (db.collection name).documents

/-- The names of the collections used so far, in alphabetical order. -/
def collectionNames (db : Database) : List String :=
  (db.collections.map (·.1)).mergeSort fun a b => decide (a ≤ b)

/-- Puts a collection under a name. -/
def put (name : String) (c : Collection) : List (String × Collection) → List (String × Collection)
  | [] => [(name, c)]
  | (n, old) :: rest => if n = name then (n, c) :: rest else (n, old) :: put name c rest

/-- Brings a collection into being. -/
def touch (db : Database) (name : String) : Database :=
  { db with collections := put name (db.collection name) db.collections }

/-- Makes an operation on the collection with a name. -/
def run {α : Type} (db : Database) (name : String) (action : Action α) :
    Except Error α × Database :=
  let (answer, store) := action { toCollection := db.collection name, ids := db.ids }
  (answer, { collections := put name store.toCollection db.collections, ids := store.ids })

end Database

end DocMapper
