import DocMapper.Error
import DocMapper.Value.Order

namespace DocMapper

/-! # Sorting, paging and projecting

The options of reading: the order of the results, which part of them is wanted, and which of their
fields.
-/

/-- The direction of a sort. -/
inductive SortDirection where
  | ascending
  | descending
  deriving DecidableEq

namespace SortDirection

/-- The number that stands for the direction in sort documents. -/
def sign : SortDirection → Int
  | ascending => 1
  | descending => -1

/-- The direction as a value. -/
def toValue (direction : SortDirection) : Value := .int32 (Int32.ofInt direction.sign)

/-- The direction that a number stands for. -/
def ofInt (n : Int) : Except Error SortDirection :=
  if n = 1 then .ok ascending
  else if n = -1 then .ok descending
  else .error (.validation (.sortDirection n))

end SortDirection

/-- The options of reading. -/
structure ReadOptions where
  sort? : Option Document := none
  skip? : Option Nat := none
  limit? : Option Int := none
  projection? : Option Document := none

namespace ReadOptions

/-- Sorts by several fields in one direction. -/
def sortBy (options : ReadOptions) (fields : List String) (direction : SortDirection) :
    ReadOptions :=
  let entries := fields.map fun field => (field, direction.toValue)
  { options with sort? := some (Document.ofEntries entries) }

/-- Wants the identifier and the given fields only. -/
def project (options : ReadOptions) (fields : List String) : ReadOptions :=
  let entries := (Document.idKey :: fields).map fun field => (field, .int32 1)
  { options with projection? := some (Document.ofEntries entries) }

/-- The sort document by which results are ordered unless another is given. -/
def idSort : Document := [(Document.idKey, .int32 1)]

/-- Sorts by the identifier unless a sort is given. -/
def ordered (options : ReadOptions) : ReadOptions :=
  { options with sort? := some (options.sort?.getD idSort) }

/-- Wants at most one result. -/
def single (options : ReadOptions) : ReadOptions := { options with limit? := some 1 }

end ReadOptions

namespace Document

/-- A flag or a direction below zero. -/
def isNegative (v : Value) : Bool := v.toDouble?.any fun x => !x.isNaN && x.scaled < 0

/-- The order of two documents by the fields of a sort document: the first field that tells them
apart decides. -/
def sortOrder (sort a b : Document) : Ordering :=
  match sort with
  | [] => .eq
  | (path, direction) :: rest =>
    let order := Value.order (getPath? a path) (getPath? b path)
    let directed := if isNegative direction then order.swap else order
    directed.then (sortOrder rest a b)

/-- Sorts documents; those that the sort does not tell apart keep their order. -/
def sortBy (sort : Document) (docs : List Document) : List Document :=
  docs.mergeSort fun a b => (sortOrder sort a b).isLE

/-- A flag of a projection that excludes. -/
def excludes (flag : Value) : Bool :=
  match flag with
  | .bool b => !b
  | _ => flag.toDouble?.any fun x => !x.isNaN && x.scaled == 0

/-- Copies the value at a path, if there is one. A path that leads through documents can be
written, so nothing is lost. -/
def copyPath (d out : Document) (path : String) : Document :=
  match getPath? d path with
  | some value => ((setPath out path value).toOption).getD out
  | none => out

/-- The included paths of a document. The identifier stays unless it is excluded. -/
def project (projection d : Document) : Document :=
  let keepsId := !(get? projection idKey).any excludes
  let start : Document :=
    match keepsId, id? d with
    | true, some id => [(idKey, id)]
    | _, _ => []
  projection.foldl (fun out (path, flag) =>
    if path = idKey ∨ excludes flag then out else copyPath d out path) start

/-- The part of a list that skip and limit ask for. The sign of a limit does not matter, and a
limit of zero is none. -/
def page (options : ReadOptions) (docs : List Document) : List Document :=
  let rest := docs.drop (options.skip?.getD 0)
  match options.limit? with
  | none => rest
  | some n => if n = 0 then rest else rest.take n.natAbs

end Document

end DocMapper
