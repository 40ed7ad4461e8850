import DocMapper.Value.Basic

namespace DocMapper

/-! # Dotted paths

A path names a value inside nested documents: segments separated by dots. A path leads through
documents only, never into the items of a list.
-/

/-- The segments of a dotted path. There is at least one, and a segment may be empty. -/
structure Path where
  head : String
  rest : List String
  deriving DecidableEq

namespace Path

/-- Cuts a text at every dot. -/
def ofString (s : String) : Path :=
  let (first, others) := Text.cut '.' s.toList
  ⟨String.ofList first, others.map String.ofList⟩

/-- The segments in order. -/
def segments (p : Path) : List String := p.head :: p.rest

end Path

/-- Why a value cannot be written at a path: the remaining segments lead into something that is
not a document, under the key `blocker`. -/
structure PathBlocked where
  remaining : List String
  blocker : String
  deriving DecidableEq

namespace PathBlocked

/-- The remaining segments as a dotted path. -/
def remainingText (b : PathBlocked) : String := String.intercalate "." b.remaining

end PathBlocked

namespace Value

/-- Follows segments down nested documents. -/
def follow : Value → List String → Option Value
  | v, [] => some v
  | .document d, s :: rest => (Document.get? d s).bind (follow · rest)
  | _, _ :: _ => none

end Value

namespace Document

/-- The value at a path. -/
def at? (d : Document) (p : Path) : Option Value := (get? d p.head).bind (Value.follow · p.rest)

/-- The value at a dotted path. -/
def getPath? (d : Document) (path : String) : Option Value := at? d (Path.ofString path)

/-- Writes a value below `head` along `rest`, creating the documents on the way. -/
def setAt (d : Document) (head : String) (rest : List String) (value : Value) :
    Except PathBlocked Document :=
  match rest with
  | [] => .ok (insert d head value)
  | next :: after =>
    match get? d head with
    | none => (setAt [] next after value).map fun inner => insert d head (.document inner)
    | some (.document inner) =>
      (setAt inner next after value).map fun inner => insert d head (.document inner)
    | some _ => .error ⟨next :: after, head⟩

/-- Writes a value at a dotted path, creating the documents on the way. -/
def setPath (d : Document) (path : String) (value : Value) : Except PathBlocked Document :=
  let p := Path.ofString path
  setAt d p.head p.rest value

/-- Takes away the value below `head` along `rest`; a path that leads nowhere changes nothing. -/
def eraseAt (d : Document) (head : String) : (rest : List String) → Document
  | [] => erase d head
  | next :: after =>
    match get? d head with
    | some (.document inner) => insert d head (.document (eraseAt inner next after))
    | _ => d

/-- Takes away the value at a dotted path. -/
def erasePath (d : Document) (path : String) : Document :=
  let p := Path.ofString path
  eraseAt d p.head p.rest

end Document

end DocMapper
