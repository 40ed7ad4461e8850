import DocMapper.Pattern.Escape

namespace DocMapper

/-! # Reading bracket expressions

Sets of characters in brackets: members, ranges, named classes, brackets inside brackets, and the
operations on sets. Together with a set goes its depth, the number of brackets, unions and
operations that enclose one another in it. The syntax is the documented one of the library that
searches for patterns in the store.
-/

namespace Pattern

/-- The characters of a class that is named between colons. -/
def namedSet? (name : String) : Option CharSet :=
  match name with
  | "alnum" => some (.union .asciiDigit .asciiLetter)
  | "alpha" => some .asciiLetter
  | "ascii" => some (.range '\x00' '\x7f')
  | "blank" => some (.union (.single '\t') (.single ' '))
  | "cntrl" => some (.union (.range '\x00' '\x1f') (.single '\x7f'))
  | "digit" => some .asciiDigit
  | "graph" => some (.range '!' '~')
  | "lower" => some .asciiLower
  | "print" => some (.range ' ' '~')
  | "punct" => some (.diff (.range '!' '~') (.union .asciiDigit .asciiLetter))
  | "space" => some .asciiBlank
  | "upper" => some .asciiUpper
  | "word" => some .asciiWord
  | "xdigit" => some (.union .asciiDigit (.union (.range 'A' 'F') (.range 'a' 'f')))
  | _ => none

/-- Reads the name of a class after its opening bracket, if there is one. -/
def readNamedSet (cs : List Char) : Option (Bool × CharSet × List Char) := do
  match cs with
  | ':' :: inner =>
    let (negated, inner) := match inner with
      | '^' :: inner => (true, inner)
      | _ => (false, inner)
    let name := inner.takeWhile (· ≠ ':')
    match inner.drop name.length with
    | ':' :: ']' :: rest => return (negated, ← namedSet? (String.ofList name), rest)
    | _ => none
  | _ => none

/-- The ways of joining two sets inside brackets. -/
inductive SetOperation where
  | inter
  | diff
  | symmDiff

namespace SetOperation

/-- The set that the operation makes of two. -/
def apply : SetOperation → CharSet → CharSet → CharSet
  | inter => .inter
  | diff => .diff
  | symmDiff => .symmDiff

end SetOperation

/-- A bracket expression that is being read. -/
structure Bracket where
  negated : Bool
  /-- The union of the members read so far. -/
  members : CharSet := .empty
  /-- How many members there are. -/
  count : Nat := 0
  /-- The depth of the deepest member. -/
  depth : Nat := 0
  /-- A set with its depth and an operation that waits for the members as its right side. -/
  pending : Option (CharSet × Nat × SetOperation) := none

namespace Bracket

/-- Adds a member. -/
def add (b : Bracket) (s : CharSet) (depth : Nat := 0) : Bracket :=
  { b with members := .union b.members s, count := b.count + 1, depth := max b.depth depth }

/-- The value of the operations read so far, and its depth. They all bind alike, from the left. -/
def value (flags : Flags) (b : Bracket) : CharSet × Nat :=
  let depth := if b.count ≤ 1 then b.depth else b.depth + 1
  match b.pending with
  | none => (b.members, depth)
  | some (left, leftDepth, operation) =>
    (operation.apply (flags.apply left) (flags.apply b.members), max leftDepth depth + 1)

/-- Goes on to the right side of an operation. -/
def operate (flags : Flags) (b : Bracket) (operation : SetOperation) : Bracket :=
  let (left, depth) := b.value flags
  { negated := b.negated, pending := some (left, depth, operation) }

/-- The set that the brackets stand for, and its depth. -/
def close (flags : Flags) (b : Bracket) : Option (CharSet × Nat) := do
  let (s, depth) := b.value flags
  return (← flags.negate? b.negated (flags.apply s), depth + 1)

end Bracket

/-- Reads hyphens at the start of a bracket expression, where they stand for themselves. -/
def readHyphens (flags : Flags) (b : Bracket) (cs : List Char) : Bracket × List Char :=
  match cs with
  | '-' :: rest => readHyphens flags (b.add (.single '-')) (skip flags rest)
  | _ => (b, cs)
termination_by cs.length
decreasing_by
  have := length_skip_le flags rest; grind

/-- Reads the start of a bracket expression after its opening bracket: a caret that negates, and
hyphens or a closing bracket that stand for themselves there. -/
def openBracket (flags : Flags) (cs : List Char) : Bracket × List Char :=
  let cs := skip flags cs
  let (negated, cs) := match cs with
    | '^' :: rest => (true, skip flags rest)
    | _ => (false, cs)
  let (b, rest) := readHyphens flags { negated } cs
  match b.count, rest with
  | 0, ']' :: rest => (b.add (.single ']'), skip flags rest)
  | _, _ => (b, rest)

/-- Reads one character or set inside brackets. -/
def readMember (flags : Flags) : List Char → Option (Escape × List Char)
  | [] => none
  | '\\' :: rest => readEscape flags rest
  | c :: rest => some (.char c, rest)

/-- A character that may stand in brackets under these settings. -/
def member? (flags : Flags) (c : Char) : Option Char :=
  if flags.asciiSets && 128 ≤ c.toNat then none else some c

/-- The first character that is neither a blank nor the start of a comment, nor a blank inside
one. -/
def glance (inComment : Bool) : List Char → Option Char
  | [] => none
  | c :: rest =>
    if CharKind.isBlank c then glance inComment rest
    else if c = '#' && !inComment then glance true rest
    else some c

/-- The character by which a hyphen before it is told to be part of a range or not. -/
def afterHyphen (flags : Flags) (cs : List Char) : Option Char :=
  if flags.verbose then glance false cs <|> cs.head? else cs.head?

/-- Reads a member or a range of characters inside brackets. A hyphen before the closing bracket
or before another hyphen makes no range. -/
def readRange (flags : Flags) (cs : List Char) : Option (CharSet × List Char) := do
  let (first, rest) ← readMember flags cs
  let rest := skip flags rest
  let alone : Option (CharSet × List Char) :=
    match first with
    | .char c => (member? flags c).map fun c => (.single c, rest)
    | .set s => some (s, rest)
    | .assertion _ => none
  match rest with
  | [] => none
  | '-' :: after =>
    if afterHyphen flags after = some ']' ∨ afterHyphen flags after = some '-' then alone
    else
      let (last, rest) ← readMember flags (skip flags after)
      match first, last with
      | .char a, .char b =>
        let a ← member? flags a
        let b ← member? flags b
        if a ≤ b then some (.range a b, rest) else none
      | _, _ => none
  | _ => alone

/-- Reads bracket expressions up to the end of the outermost, whose depth is a part of the result.
The innermost open one is `current`, and `outer` holds the others from the inside out. -/
def readBrackets (flags : Flags) : (fuel : Nat) → (current : Bracket) → (outer : List Bracket) →
    List Char → Option (CharSet × Nat × List Char)
  | 0, _, _, _ => none
  | fuel + 1, current, outer, cs =>
    match skip flags cs with
    | [] => none
    | '[' :: rest =>
      match readNamedSet rest with
      | some (negated, s, rest) =>
        match flags.negate? negated (flags.apply s) with
        | some s => readBrackets flags fuel (current.add s) outer rest
        | none => none
      | none =>
        let (inner, rest) := openBracket flags rest
        readBrackets flags fuel inner (current :: outer) rest
    | ']' :: rest =>
      match current.close flags, outer with
      | none, _ => none
      | some (s, depth), [] => some (s, depth, rest)
      | some (s, depth), b :: outer => readBrackets flags fuel (b.add s depth) outer rest
    | '&' :: '&' :: rest => readBrackets flags fuel (current.operate flags .inter) outer rest
    | '-' :: '-' :: rest => readBrackets flags fuel (current.operate flags .diff) outer rest
    | '~' :: '~' :: rest => readBrackets flags fuel (current.operate flags .symmDiff) outer rest
    | cs =>
      match readRange flags cs with
      | some (s, rest) => readBrackets flags fuel (current.add s) outer rest
      | none => none

/-- Reads a bracket expression after its opening bracket, and gives its depth as well. Every step
reads a character, so their number bounds the steps. -/
def readSet (flags : Flags) (cs : List Char) : Option (CharSet × Nat × List Char) :=
  let (b, rest) := openBracket flags cs
  readBrackets flags (cs.length + 1) b [] rest

end Pattern

end DocMapper
