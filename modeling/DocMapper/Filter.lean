import DocMapper.Error
import DocMapper.Pattern.Footprint
import DocMapper.Value.Order

namespace DocMapper

/-! # Matching documents against filters

A filter document selects documents. Its keys are paths with conditions, all of which must hold,
and the logical operators `$and` and `$or`. A malformed part of a filter is an error when the
matching reaches it, and only then.
-/

namespace Value

/-- A document whose first key is an operator is a list of operators, not a value to compare
with. -/
def isOperators : Value → Bool
  | .document ((key, _) :: _) => isOperatorKey key
  | _ => false

/-- Equality with an operand. A missing value equals null, and a list equals a single value that
it contains. -/
def equalsOperand (value : Option Value) (operand : Value) : Bool :=
  match value with
  | none => operand.isNull
  | some (.array items) =>
    match operand with
    | .array _ => Value.equals (.array items) operand
    | _ => items.any (·.equals operand)
  | some value => value.equals operand

/-- A value passes a test, or one of its items does when it is a list. -/
def anyPasses (test : Value → Bool) : Option Value → Bool
  | none => false
  | some (.array items) => items.any test
  | some value => test value

/-- The value, or an item of it, lies on the given sides of an operand. -/
def liesAt (sides : List Ordering) (operand : Value) (value : Option Value) : Bool :=
  anyPasses (fun v => (v.compare? operand).any (· ∈ sides)) value

/-- The value equals an item of the operand, which must be a list. -/
def isMember (operator : String) (operand : Value) (value : Option Value) : Except Error Bool :=
  match operand with
  | .array items => .ok (items.any (equalsOperand value))
  | _ => .error (.driver (.needsArray operator))

/-- The options that patterns know; others are left out of account. -/
def patternOptions (options : String) : List Char :=
  options.toList.filter fun c => c = 'i' ∨ c = 'm' ∨ c = 's' ∨ c = 'x'

/-- Reads the operand of a pattern search: a text with separate options, or a regular expression
with its own. -/
def readPattern (operand : Value) (options : String) : Except Error Pattern :=
  let read (pattern options : String) : Except Error Pattern :=
    let letters := patternOptions options
    let source :=
      if letters.isEmpty then pattern else "(?" ++ String.ofList letters ++ ")" ++ pattern
    match Pattern.parse? source with
    | some p => .ok p
    | none => .error (.driver (.invalidPattern pattern))
  match operand with
  | .string pattern => read pattern options
  | .regex pattern options => read pattern options
  | _ => .error (.driver .patternNotString)

/-- The options that stand beside a pattern. -/
def optionsOf (operators : Document) : String :=
  match Document.get? operators "$options" with
  | some (.string options) => options
  | _ => ""

/-- One operator holds of a value. The other operators beside it matter for the options of a
pattern. -/
def passes (operators : Document) (value : Option Value) (operator : String) (operand : Value) :
    Except Error Bool :=
  match operator with
  | "$eq" => .ok (equalsOperand value operand)
  | "$ne" => .ok (!equalsOperand value operand)
  | "$gt" => .ok (liesAt [.gt] operand value)
  | "$gte" => .ok (liesAt [.gt, .eq] operand value)
  | "$lt" => .ok (liesAt [.lt] operand value)
  | "$lte" => .ok (liesAt [.lt, .eq] operand value)
  | "$in" => isMember operator operand value
  | "$nin" => (isMember operator operand value).map (!·)
  | "$exists" =>
    match operand with
    | .bool wanted => .ok (value.isSome == wanted)
    | _ => .error (.driver .existsNotBool)
  | "$regex" => do
    let pattern ← readPattern operand (optionsOf operators)
    return anyPasses (fun v => match v with
      | .string s => pattern.foundIn s
      | _ => false) value
  | "$options" => .ok true
  | _ => .error (.driver (.operator operator))

/-- All operators of a list hold of a value; the first that fails decides. -/
def passesAll (operators : Document) (value : Option Value) : Document → Except Error Bool
  | [] => .ok true
  | (operator, operand) :: rest => do
    if ← passes operators value operator operand then passesAll operators value rest
    else return false

/-- A condition holds of the value at a path: a list of operators, or a value to be equal to. -/
def meets (value : Option Value) (condition : Value) : Except Error Bool :=
  match condition with
  | .document operators =>
    if condition.isOperators then passesAll operators value operators
    else .ok (equalsOperand value condition)
  | _ => .ok (equalsOperand value condition)

end Value

namespace Document

/-- The clauses of a logical operator are documents. -/
def checkClauses (operator : String) (clauses : List Value) : Except Error Unit :=
  clauses.forM fun clause =>
    match clause with
    | .document _ => .ok ()
    | _ => .error (.driver (.clauseNotDocument operator))

mutual

/-- Every key of a filter holds of the document; the first that fails decides. -/
def satisfies (d : Document) : (filter : List (String × Value)) → Except Error Bool
  | [] => .ok true
  | (key, condition) :: rest => do
    if ← holds d key condition then satisfies d rest else return false

/-- One key of a filter holds of the document. -/
def holds (d : Document) (key : String) : (condition : Value) → Except Error Bool
  | .array clauses => do
    if key = "$and" then
      checkClauses key clauses
      satisfiesAll d clauses
    else if key = "$or" then
      checkClauses key clauses
      satisfiesAny d clauses
    else if isOperatorKey key then .error (.driver (.topLevelOperator key))
    else Value.meets (getPath? d key) (.array clauses)
  | condition =>
    if key = "$and" ∨ key = "$or" then .error (.driver (.clausesNotArray key))
    else if isOperatorKey key then .error (.driver (.topLevelOperator key))
    else Value.meets (getPath? d key) condition

/-- Every clause selects the document; the first that does not decides. -/
def satisfiesAll (d : Document) : List Value → Except Error Bool
  | .document filter :: rest => do
    if ← satisfies d filter then satisfiesAll d rest else return false
  | _ => .ok true

/-- A clause selects the document; the first that does decides. -/
def satisfiesAny (d : Document) : List Value → Except Error Bool
  | .document filter :: rest => do
    if ← satisfies d filter then return true else satisfiesAny d rest
  | _ => .ok false

end

/-- The documents that a filter selects, in order. -/
def select (filter : Document) : List Document → Except Error (List Document)
  | [] => .ok []
  | d :: rest => do
    let selected ← satisfies d filter
    let others ← select filter rest
    return if selected then d :: others else others

end Document

end DocMapper
