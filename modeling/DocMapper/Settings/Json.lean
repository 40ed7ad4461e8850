import DocMapper.Text

namespace DocMapper

/-! # JSON

A reader of JSON texts. Texts inside may hold unpaired surrogates, which are no characters: such a
text is well formed, but has no value.
-/

/-- A number as far as settings can tell numbers apart: a whole number that is written as one, or
any other. -/
inductive JsonNumber where
  | natural (n : Nat)
  | other

/-- A JSON value. -/
inductive Json where
  | null
  | bool (b : Bool)
  | number (n : JsonNumber)
  | string (s : Option String)
  | array (items : List Json)
  | object (members : List (Option String × Json))

namespace Json

/-- White space between tokens. -/
def isSpace (c : Char) : Bool := c = ' ' || c = '\t' || c = '\n' || c = '\r'

/-- The text after the white space at its start. -/
def skipSpace (cs : List Char) : List Char := cs.dropWhile isSpace

/-- A unit of a text: a character, or half of one. -/
inductive TextUnit where
  | char (c : Char)
  | high (bits : Nat)
  | low (bits : Nat)

/-- The unit with a code of four hexadecimal digits. -/
def TextUnit.ofCode (code : Nat) : TextUnit :=
  if 0xd800 ≤ code ∧ code < 0xdc00 then high (code - 0xd800)
  else if 0xdc00 ≤ code ∧ code < 0xe000 then low (code - 0xdc00)
  else char (Char.ofNat code)

/-- Joins halves to characters. A half without its counterpart makes the text worthless. -/
def joinUnits : List TextUnit → Option (List Char)
  | [] => some []
  | .char c :: rest => (joinUnits rest).map (c :: ·)
  | .high a :: .low b :: rest =>
    (joinUnits rest).map (Char.ofNat (0x10000 + a * 0x400 + b) :: ·)
  | _ => none

/-- The character that an escape of one letter stands for. -/
def simpleEscape? : Char → Option Char
  | '"' => some '"'
  | '\\' => some '\\'
  | '/' => some '/'
  | 'b' => some '\x08'
  | 'f' => some '\x0c'
  | 'n' => some '\n'
  | 'r' => some '\r'
  | 't' => some '\t'
  | _ => none

/-- Reads the units of a text after its opening quote. -/
def readUnits : List Char → Option (List TextUnit × List Char)
  | [] => none
  | '"' :: rest => some ([], rest)
  | '\\' :: 'u' :: a :: b :: c :: d :: rest => do
    let code ← Text.ofHexDigits? [a, b, c, d]
    let (units, rest) ← readUnits rest
    return (.ofCode code :: units, rest)
  | '\\' :: e :: rest => do
    let c ← simpleEscape? e
    let (units, rest) ← readUnits rest
    return (.char c :: units, rest)
  | c :: rest =>
    if c.toNat < 0x20 ∨ c = '\\' then none
    else do
      let (units, rest) ← readUnits rest
      return (.char c :: units, rest)

/-- Reads a text after its opening quote. -/
def readString (cs : List Char) : Option (Option String × List Char) := do
  let (units, rest) ← readUnits cs
  return ((joinUnits units).map String.ofList, rest)

/-- Reads the digits of a whole number, which has no needless zero in front. -/
def readWhole (cs : List Char) : Option (Nat × List Char) :=
  let digits := cs.takeWhile (·.isDigit)
  let rest := cs.drop digits.length
  match digits with
  | [] => none
  | ['0'] => some (0, rest)
  | '0' :: _ => none
  | _ => some (digits.foldl (fun n c => 10 * n + (c.toNat - '0'.toNat)) 0, rest)

/-- Passes over a fraction. The flag says whether there was one. -/
def skipFraction : List Char → Option (Bool × List Char)
  | '.' :: rest =>
    let after := rest.dropWhile (·.isDigit)
    if after.length = rest.length then none else some (true, after)
  | cs => some (false, cs)

/-- Passes over an exponent. The flag says whether there was one. -/
def skipExponent (cs : List Char) : Option (Bool × List Char) :=
  match cs with
  | c :: rest =>
    if c = 'e' ∨ c = 'E' then
      let digits := match rest with
        | '+' :: digits => digits
        | '-' :: digits => digits
        | _ => rest
      let after := digits.dropWhile (·.isDigit)
      if after.length = digits.length then none else some (true, after)
    else some (false, cs)
  | [] => some (false, cs)

/-- Reads a number after its sign. -/
def readNumber (negative : Bool) (cs : List Char) : Option (Json × List Char) := do
  let (n, rest) ← readWhole cs
  let (fraction, rest) ← skipFraction rest
  let (exponent, rest) ← skipExponent rest
  return (.number (if negative || fraction || exponent then .other else .natural n), rest)

/-- Reads a word after which the value is known. -/
def readWord (word : String) (value : Json) (cs : List Char) : Option (Json × List Char) :=
  if word.toList.isPrefixOf cs then some (value, cs.drop word.length) else none

mutual

/-- Reads a value. Every step reads a character, so `fuel` bounds the steps if it is larger than
the number of characters. -/
def readValue : (fuel : Nat) → List Char → Option (Json × List Char)
  | 0, _ => none
  | fuel + 1, cs =>
    match skipSpace cs with
    | '"' :: rest => (readString rest).map fun (s, rest) => (.string s, rest)
    | '[' :: rest =>
      match skipSpace rest with
      | ']' :: rest => some (.array [], rest)
      | rest => (readItems fuel rest).map fun (items, rest) => (.array items, rest)
    | '\x7b' :: rest =>
      match skipSpace rest with
      | '\x7d' :: rest => some (.object [], rest)
      | rest => (readMembers fuel rest).map fun (members, rest) => (.object members, rest)
    | '-' :: rest => readNumber true rest
    | 't' :: rest => readWord "rue" (.bool true) rest
    | 'f' :: rest => readWord "alse" (.bool false) rest
    | 'n' :: rest => readWord "ull" .null rest
    | rest => readNumber false rest

/-- Reads the items of a list up to its closing bracket. -/
def readItems : (fuel : Nat) → List Char → Option (List Json × List Char)
  | 0, _ => none
  | fuel + 1, cs => do
    let (item, rest) ← readValue fuel cs
    match skipSpace rest with
    | ',' :: rest =>
      let (items, rest) ← readItems fuel rest
      return (item :: items, rest)
    | ']' :: rest => return ([item], rest)
    | _ => none

/-- Reads the members of an object up to its closing brace. -/
def readMembers : (fuel : Nat) → List Char → Option (List (Option String × Json) × List Char)
  | 0, _ => none
  | fuel + 1, cs => do
    match skipSpace cs with
    | '"' :: rest =>
      let (key, rest) ← readString rest
      match skipSpace rest with
      | ':' :: rest =>
        let (value, rest) ← readValue fuel rest
        match skipSpace rest with
        | ',' :: rest =>
          let (members, rest) ← readMembers fuel rest
          return ((key, value) :: members, rest)
        | '\x7d' :: rest => return ([(key, value)], rest)
        | _ => none
      | _ => none
    | _ => none

end

/-- Reads a text that is one JSON value. -/
def parse? (text : String) : Option Json := do
  let cs := text.toList
  let (value, rest) ← readValue (2 * cs.length + 1) cs
  if (skipSpace rest).isEmpty then return value else none

end Json

end DocMapper
