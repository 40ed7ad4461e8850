import DocMapper.Lowering

namespace DocMapper

/-! # Combined queries

Keyword filters joined by conjunction and disjunction.
-/

/-- Keyword arguments, or a combination of queries. -/
inductive Query where
  | leaf (kwargs : Document)
  | and (parts : List Query)
  | or (parts : List Query)

namespace Query

/-- The parts of a conjunction; any other query is its own single part. -/
def conjuncts : Query → List Query
  | and parts => parts
  | q => [q]

/-- The parts of a disjunction; any other query is its own single part. -/
def disjuncts : Query → List Query
  | or parts => parts
  | q => [q]

/-- Both queries; conjunctions flow together. -/
def both (p q : Query) : Query := and (p.conjuncts ++ q.conjuncts)

/-- Either query; disjunctions flow together. -/
def either (p q : Query) : Query := or (p.disjuncts ++ q.disjuncts)

mutual

/-- The filter that selects what the query selects: the filters of the leaves, joined by `$and` and
`$or`. -/
def toFilter (l : Lowering) : Query → Except Error Document
  | leaf kwargs => l.filter kwargs
  | and parts => do return [("$and", .array (← toFilters l parts))]
  | or parts => do return [("$or", .array (← toFilters l parts))]

/-- The filters of several queries, as values. -/
def toFilters (l : Lowering) : List Query → Except Error (List Value)
  | [] => .ok []
  | q :: rest => do
    let filter ← toFilter l q
    return .document filter :: (← toFilters l rest)

end

end Query

end DocMapper
