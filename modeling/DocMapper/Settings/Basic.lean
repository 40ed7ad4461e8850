import DocMapper.Settings.Json
import DocMapper.Lowering

namespace DocMapper

/-! # Settings

What a connection needs to know, from environment variables or from a JSON text. Everything but
the database has a default.
-/

/-- The settings of a connection. -/
structure Settings where
  uri : String := "mongodb://localhost:27017"
  database : String := ""
  maxPoolSize : Nat := 100
  serverSelectionTimeoutMs : Nat := 50000
  connectTimeoutMs : Nat := 50000
  appName? : Option String := some "mongodantic"
  policy : SuffixPolicy := .reject

namespace Settings

/-- The largest pool size. -/
def maxPool : Nat := UInt32.size - 1

/-- The longest timeout. -/
def maxTimeout : Nat := UInt64.size - 1

/-- Reads decimal digits, with a plus sign before them or none. -/
def natural? (cs : List Char) : Option Nat :=
  let digits := match cs with
    | '+' :: rest => rest
    | _ => cs
  if !digits.isEmpty && digits.all (·.isDigit) then
    some (digits.foldl (fun n c => 10 * n + (c.toNat - '0'.toNat)) 0)
  else none

/-- Characters without the blanks at both ends. -/
def trimmed (cs : List Char) : List Char :=
  ((cs.dropWhile CharKind.isBlank).reverse.dropWhile CharKind.isBlank).reverse

/-- Reads a number between blanks, up to a limit. -/
def number (name : String) (limit : Nat) (text : String) : Except Error Nat :=
  match natural? (trimmed text.toList) with
  | some n => if n ≤ limit then .ok n else .error (.configuration (.notNumber name text))
  | none => .error (.configuration (.notNumber name text))

/-- Reads a variable that holds a number, if it is set. -/
def numberVariable (lookup : String → Option String) (name : String) (limit default : Nat) :
    Except Error Nat :=
  match lookup (variableHead ++ name) with
  | some text => number name limit text
  | none => .ok default

/-- Reads the settings from variables. `lookup` gives the value of a variable that is set. -/
def ofVariables (lookup : String → Option String) : Except Error Settings := do
  let start : Settings := {}
  let setting? (name : String) : Option String := lookup (variableHead ++ name)
  let database ← match setting? "DB" with
    | some database => .ok database
    | none => .error (.configuration .noDatabaseVariable)
  let maxPoolSize ← numberVariable lookup "MAX_POOL_SIZE" maxPool start.maxPoolSize
  let serverSelectionTimeoutMs ← numberVariable lookup "SERVER_SELECTION_TIMEOUT_MS"
    maxTimeout start.serverSelectionTimeoutMs
  let connectTimeoutMs ← numberVariable lookup "CONNECT_TIMEOUT_MS"
    maxTimeout start.connectTimeoutMs
  return { start with
    uri := (setting? "URI").getD start.uri
    database, maxPoolSize, serverSelectionTimeoutMs, connectTimeoutMs
    appName? := (setting? "APP_NAME").or start.appName? }

end Settings

/-! ## Settings in JSON

Settings are an object with a member for each setting, or a list of the settings in order. Members
with other names have no meaning; a setting may not occur twice.
-/

namespace Json

/-- A text. -/
def text? : Json → Option String
  | string s => s
  | _ => none

/-- A whole number up to a limit. -/
def natural? (limit : Nat) : Json → Option Nat
  | number (.natural n) => if n ≤ limit then some n else none
  | _ => none

/-- A text, or null for none. -/
def optionalText? : Json → Option (Option String)
  | null => some none
  | v => v.text?.map some

/-- The policy with a name. -/
def policyNamed? : String → Option SuffixPolicy
  | "reject" => some .reject
  | "literal" => some .literal
  | _ => none

/-- A policy: its name, or an object with its name as the only key and null under it. -/
def policy? : Json → Option SuffixPolicy
  | object [(key, null)] => key.bind policyNamed?
  | v => v.text?.bind policyNamed?

/-- The value of every setting that is given. A list gives them in the order of `names`. -/
def settings? (names : List String) : Json → Option (List (String × Json))
  | array items => if items.length ≤ names.length then some (names.zip items) else none
  | object members => do
    let entries ← members.mapM fun (key, value) => key.map (·, value)
    let given := entries.filter fun (key, _) => key ∈ names
    if (given.map (·.1)).Nodup then return given else none
  | _ => none

/-- Reads one setting of a list; a setting that is not given keeps its default. -/
def setting? {α : Type} (given : List (String × Json)) (name : String) (read : Json → Option α)
    (default : α) : Option α :=
  match given.lookup name with
  | some value => read value
  | none => some default

/-- What unknown operators mean: an object with the policy as its only setting. -/
def suffixPolicy? (v : Json) : Option SuffixPolicy := do
  let given ← v.settings? ["unknown_suffix"]
  setting? given "unknown_suffix" policy? .reject

end Json

namespace Settings

/-- Reads the settings from a JSON text. -/
def ofJson? (text : String) : Option Settings := do
  let start : Settings := {}
  let given ← (← Json.parse? text).settings? ["uri", "database", "max_pool_size",
    "server_selection_timeout_ms", "connect_timeout_ms", "app_name", "translator"]
  return {
    uri := ← Json.setting? given "uri" Json.text? start.uri
    database := ← Json.setting? given "database" Json.text? start.database
    maxPoolSize := ← Json.setting? given "max_pool_size" (Json.natural? maxPool) start.maxPoolSize
    serverSelectionTimeoutMs := ← Json.setting? given "server_selection_timeout_ms"
      (Json.natural? maxTimeout) start.serverSelectionTimeoutMs
    connectTimeoutMs := ← Json.setting? given "connect_timeout_ms" (Json.natural? maxTimeout)
      start.connectTimeoutMs
    appName? := ← Json.setting? given "app_name" Json.optionalText? start.appName?
    policy := ← Json.setting? given "translator" Json.suffixPolicy? start.policy }

end Settings

end DocMapper
