import DocMapper.Filter

namespace DocMapper

/-! # Changing documents

Updates by operators, whole replacements, and the documents that an upsert creates. The identifier
of a stored document never changes its value.
-/

namespace Document

/-- An update document has operators only, and at least one. -/
def requireOperators (update : Document) : Except Error Unit :=
  if !update.isEmpty && (keys update).all isOperatorKey then .ok ()
  else .error (.driver .notUpdateOperators)

/-- Writes a value at a dotted path of a stored document. -/
def write (d : Document) (path : String) (value : Value) : Except Error Document :=
  match setPath d path value with
  | .ok d => .ok d
  | .error blocked => .error (.driver (.pathBlocked blocked))

/-- A value under the identifier's key differs from the document's identifier. -/
def changesId (d : Document) (value : Value) : Bool := (id? d).any fun id => !id.equals value

/-- The value after an increment; a missing value or null counts for nothing. -/
def increment (d : Document) (path : String) (amount : Value) : Except Error Value :=
  match getPath? d path with
  | none => .ok amount
  | some .null => .ok amount
  | some current =>
    match current.add? amount with
    | some sum => .ok sum
    | none => .error (.driver (.incrementNotNumber path))

/-- Applies an operator at one path. -/
def applyAt (operator : String) (d : Document) (entry : String × Value) :
    Except Error Document := do
  let (path, operand) := entry
  if path = idKey && changesId d operand then .error (.driver .immutableId)
  else
    match operator with
    | "$set" => write d path operand
    | "$inc" => write d path (← increment d path operand)
    | _ => .error (.driver (.updateOperator operator))

/-- Applies an operator at all its paths in order. -/
def applyOperator (d : Document) (entry : String × Value) : Except Error Document :=
  match entry.2 with
  | .document fields => fields.foldlM (applyAt entry.1) d
  | _ => .error (.driver (.operandNotDocument entry.1))

/-- Applies an update, operator by operator. -/
def updated (d update : Document) : Except Error Document := update.foldlM applyOperator d

/-- The parts of a filter that fix a value by equality, as a document (`equality_seed`). -/
def fixedBy (filter : Document) : Except Error Document :=
  filter.foldlM (fun seed (key, condition) =>
    if isOperatorKey key then .ok seed
    else
      match condition with
      | .document operators =>
        if condition.isOperators then
          match get? operators "$eq" with
          | some value => write seed key value
          | none => .ok seed
        else write seed key condition
      | _ => write seed key condition) []

/-- The document that an update creates when it selects none: what the filter fixes, updated. -/
def upserted (filter update : Document) : Except Error Document := do
  updated (← fixedBy filter) update

/-- A replacement has no operators among its keys. -/
def refuseOperators (replacement : Document) : Except Error Unit :=
  match (keys replacement).find? isOperatorKey with
  | some key => .error (.driver (.replacementOperator key))
  | none => .ok ()

/-- The entry of the identifier, if there is one. -/
def idEntry (d : Document) : Document :=
  match id? d with
  | some id => [(idKey, id)]
  | none => []

/-- Replaces everything but the identifier, which stays first. -/
def replace (d replacement : Document) : Except Error Document :=
  if (id? replacement).any (changesId d ·) then .error (.driver .immutableId)
  else .ok (idEntry d ++ erase replacement idKey)

/-- The document that a replacement creates when it selects none: an identifier that the filter
fixes is taken over, and nothing else of the filter. -/
def upsertedReplacement (filter replacement : Document) : Except Error Document :=
  match id? replacement with
  | some _ => .ok replacement
  | none => do
    let seed ← fixedBy filter
    return idEntry seed ++ replacement

end Document

end DocMapper
