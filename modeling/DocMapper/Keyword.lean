import DocMapper.Error

namespace DocMapper

/-! # Keywords

A keyword names a field, optionally a path inside it, and optionally an operator, joined by double
underscores: `age`, `age__gte`, `address__city__in`. The last segment is an operator when it is in
the vocabulary and a field stands before it; otherwise the keyword asks for equality.
-/

/-- Operators that filter. -/
inductive FilterOperator where
  /-- Equality, which has no suffix. -/
  | eq
  | inList
  | notIn
  /-- Between two bounds, both included. -/
  | range
  | regex
  | iregex
  | startsWith
  | endsWith
  | present
  | ne
  | gte
  | lte
  | gt
  | lt
  deriving DecidableEq

/-- Operators that write. -/
inductive UpdateOperator where
  | set
  | inc
  deriving DecidableEq

/-- What a keyword asks for. -/
inductive Operator where
  | filter (operator : FilterOperator)
  | update (operator : UpdateOperator)
  deriving DecidableEq

namespace Operator

/-- The vocabulary of suffixes. -/
def suffixes : List (String × Operator) := [
  ("set", .update .set), ("inc", .update .inc), ("in", .filter .inList), ("nin", .filter .notIn),
  ("range", .filter .range), ("regex", .filter .regex), ("iregex", .filter .iregex),
  ("startswith", .filter .startsWith), ("endswith", .filter .endsWith),
  ("exists", .filter .present), ("ne", .filter .ne), ("gte", .filter .gte), ("lte", .filter .lte),
  ("gt", .filter .gt), ("lt", .filter .lt)]

/-- The operator of a suffix. -/
def ofSuffix? (suffix : String) : Option Operator := suffixes.lookup suffix

/-- The suffix of an operator; equality has none. -/
def suffix? (operator : Operator) : Option String :=
  (suffixes.find? (·.2 = operator)).map (·.1)

/-- The operator writes. -/
def isUpdate : Operator → Bool
  | filter _ => false
  | update _ => true

/-- The key of the operator in filter and update documents, for operators that have one of their
own. -/
def key? : Operator → Option String
  | update .set => some "$set"
  | update .inc => some "$inc"
  | filter .inList => some "$in"
  | filter .notIn => some "$nin"
  | filter .ne => some "$ne"
  | filter .gte => some "$gte"
  | filter .lte => some "$lte"
  | filter .gt => some "$gt"
  | filter .lt => some "$lt"
  | filter .present => some "$exists"
  | filter .eq => some "$eq"
  | filter _ => none

end Operator

/-- A keyword taken apart. -/
structure Keyword where
  field : String
  /-- The segments between the field and the operator. -/
  inner : List String
  operator : Operator
  deriving DecidableEq

namespace Keyword

/-- The field and the segments after it. -/
def path (k : Keyword) : List String := k.field :: k.inner

/-- The keyword addresses something inside its field. -/
def isNested (k : Keyword) : Bool := !k.inner.isEmpty

/-- The path joined by dots. -/
def dotted (k : Keyword) : String := String.intercalate "." k.path

/-- The path joined by double underscores, as it is written. -/
def literal (k : Keyword) : String := String.intercalate "__" k.path

/-- The last segment of the path. -/
def lastSegment (k : Keyword) : String := k.inner.getLastD k.field

/-- Splits the last segment off as an operator, if it is one. -/
def ofSegments (first : String) (others : List String) : Keyword :=
  match others.getLast?.bind Operator.ofSuffix? with
  | some operator => { field := first, inner := others.dropLast, operator }
  | none => { field := first, inner := others, operator := .filter .eq }

/-- Takes a keyword apart. No segment may be empty. -/
def parse (key : String) : Except Error Keyword :=
  let (first, others) := Text.cutPairs '_' key.toList
  if (first :: others).any (·.isEmpty) then .error (.query (.emptySegment key))
  else .ok (ofSegments (String.ofList first) (others.map String.ofList))

end Keyword

end DocMapper
