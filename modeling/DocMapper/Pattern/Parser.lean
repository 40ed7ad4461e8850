import DocMapper.Pattern.Bracket

namespace DocMapper

/-! # Reading patterns

The written form of patterns: alternatives separated by bars, groups in parentheses, repetition
marks after the part they repeat, brackets for sets of characters, and settings in groups that
start with a question mark. A text that breaks the rules has no pattern, nor has one in which too
many parts enclose one another. The rules and the depth allowed are the documented ones of the
library that searches for patterns in the store.
-/

namespace Pattern

/-- How many parts of a pattern may enclose one another. -/
def depthLimit : Nat := 250

/-- A pattern, and how many of its parts enclose one another. -/
structure Nested where
  pattern : Pattern
  depth : Nat := 0

/-- A part of the branch that is being read. A setting is no pattern, so nothing repeats it. -/
inductive Piece where
  | part (p : Nested)
  | setting

namespace Piece

/-- How many parts of the piece enclose one another. -/
def depth : Piece → Nat
  | part p => p.depth
  | setting => 0

end Piece

/-- A group that is being read. -/
structure Group where
  /-- The settings outside the group. -/
  restored : Flags
  /-- What the group matches is kept. -/
  kept : Bool := true
  /-- The finished alternatives, last first. -/
  branches : List Nested := []
  /-- The pieces of the open alternative, last first. -/
  pieces : List Piece := []

namespace Group

/-- Adds a part to the group. -/
def push (g : Group) (p : Pattern) (depth : Nat := 0) : Group :=
  { g with pieces := .part ⟨p, depth⟩ :: g.pieces }

/-- The open alternative as a pattern. -/
def branch (g : Group) : Nested where
  pattern := g.pieces.foldl (fun after piece =>
    match piece with
    | .part p => seq p.pattern after
    | .setting => after) empty
  depth :=
    let deepest := g.pieces.foldl (fun d piece => max d piece.depth) 0
    if g.pieces.length ≤ 1 then deepest else deepest + 1

/-- Goes on to the next alternative. -/
def nextBranch (g : Group) : Group :=
  { g with branches := g.branch :: g.branches, pieces := [] }

/-- The alternatives of the group as a pattern. -/
def content (g : Group) : Nested where
  pattern := g.branches.foldl (fun after p => alt p.pattern after) g.branch.pattern
  depth :=
    let deepest := g.branches.foldl (fun d p => max d p.depth) g.branch.depth
    if g.branches.isEmpty then deepest else deepest + 1

/-- Repeats the last piece. -/
def repeatLast (g : Group) (least : Nat) (most : Option Nat) : Option Group :=
  match g.pieces with
  | .part p :: pieces =>
    if most.any (· < least) then none
    else some { g with pieces := .part ⟨times p.pattern least most, p.depth + 1⟩ :: pieces }
  | _ => none

end Group

/-! ## Repetition marks -/

/-- Passes over the mark that makes a repetition prefer fewer texts: which texts fit does not
depend on it. -/
def skipLazy : List Char → List Char
  | '?' :: rest => rest
  | cs => cs

/-- Reads the digits of a decimal number. What stands for nothing between them is left out. -/
def readDigits (flags : Flags) (cs : List Char) : List Char × List Char :=
  match cs with
  | [] => ([], [])
  | c :: rest =>
    if c.isDigit then
      let (digits, rest) := readDigits flags (skip flags rest)
      (c :: digits, rest)
    else ([], c :: rest)
termination_by cs.length
decreasing_by
  have := length_skip_le flags rest; grind

/-- Reads a decimal number between blanks. -/
def readCount (flags : Flags) (cs : List Char) : Option Nat × List Char :=
  let (digits, rest) := readDigits flags (cs.dropWhile CharKind.isBlank)
  let value := digits.foldl (fun n c => 10 * n + (c.toNat - '0'.toNat)) 0
  (if digits.isEmpty then none else some value, rest.dropWhile CharKind.isBlank)

/-- The largest number that a repetition may count to. -/
def countLimit : Nat := UInt32.size - 1

/-- Reads the numbers of a repetition after its opening brace. -/
def readCounts (flags : Flags) (cs : List Char) : Option (Nat × Option Nat × List Char) := do
  let (least, rest) := readCount flags (skip flags cs)
  let least ← least
  if countLimit < least then none
  else
    match rest with
    | '}' :: rest => return (least, some least, rest)
    | ',' :: rest =>
      match skip flags rest with
      | '}' :: rest => return (least, none, rest)
      | rest =>
        let (most, rest) := readCount flags rest
        let most ← most
        if countLimit < most then none
        else
          match rest with
          | '}' :: rest => return (least, some most, rest)
          | _ => none
    | _ => none

/-! ## Settings and names -/

/-- Sets one setting by its letter. The setting of which part of a text is preferred has no effect
here. -/
def Flags.set? (flags : Flags) (letter : Char) (on : Bool) : Option Flags :=
  match letter with
  | 'i' => some { flags with ignoreCase := on }
  | 'm' => some { flags with multiLine := on }
  | 's' => some { flags with dotAll := on }
  | 'x' => some { flags with verbose := on }
  | 'R' => some { flags with anyLineEnds := on }
  | 'U' => some flags
  | 'u' => some { flags with asciiSets := !on }
  | _ => none

/-- Reads the letters of settings up to the colon or parenthesis after them. Every letter occurs
once; those after the hyphen are turned off. The result ends with the unread text, which starts
with the colon or parenthesis. -/
def readSettings (flags : Flags) (seen : List Char) :
    List Char → Option (Flags × List Char × List Char)
  | [] => none
  | c :: rest =>
    if c = ':' ∨ c = ')' then
      if seen.head? = some '-' then none else some (flags, seen, c :: rest)
    else if c ∈ seen then none
    else if c = '-' then readSettings flags (c :: seen) rest
    else
      match flags.set? c ('-' ∉ seen) with
      | some flags => readSettings flags (c :: seen) rest
      | none => none

/-- Reads the name of a group up to the closing angle bracket. -/
def readGroupName (cs : List Char) : Option (String × List Char) :=
  let isLater (c : Char) : Bool :=
    c ∈ ['_', '.', '[', ']'] || CharKind.isLetter c || CharKind.isNumber c
  match cs with
  | c :: rest =>
    let name := rest.takeWhile isLater
    match rest.drop name.length with
    | '>' :: rest =>
      if c = '_' || CharKind.isLetter c then some (String.ofList (c :: name), rest) else none
    | _ => none
  | [] => none

/-! ## The whole pattern -/

/-- The state of reading: the settings in force, the group being read, the groups around it from
the inside out, and the names that groups have. -/
structure Cursor where
  flags : Flags := {}
  group : Group := { restored := {} }
  outer : List Group := []
  names : List String := []

namespace Cursor

/-- Adds a part to the group that is being read. -/
def push (c : Cursor) (p : Pattern) (depth : Nat := 0) : Cursor :=
  { c with group := c.group.push p depth }

/-- Starts a group that is read under the given settings. -/
def enter (c : Cursor) (flags : Flags) (kept : Bool) : Cursor :=
  { c with flags, group := { restored := c.flags, kept }, outer := c.group :: c.outer }

/-- Starts a group after its opening parenthesis, or changes the settings of the rest of the group
around. -/
def openGroup (c : Cursor) (cs : List Char) : Option (Cursor × List Char) :=
  let named (rest : List Char) : Option (Cursor × List Char) :=
    match readGroupName rest with
    | some (name, rest) =>
      if name ∈ c.names then none
      else some ({ c with names := name :: c.names }.enter c.flags true, rest)
    | none => none
  match skip c.flags cs with
  | '?' :: 'P' :: '<' :: rest => named rest
  | '?' :: '<' :: '=' :: _ => none
  | '?' :: '<' :: '!' :: _ => none
  | '?' :: '<' :: rest => named rest
  | '?' :: rest =>
    match readSettings c.flags [] rest with
    | some (flags, _, ':' :: rest) => some (c.enter flags false, rest)
    | some (flags, seen, ')' :: rest) =>
      if seen.isEmpty then none
      else
        let group := { c.group with pieces := .setting :: c.group.pieces }
        some ({ c with flags, group }, rest)
    | _ => none
  | rest => some (c.enter c.flags true, rest)

/-- Ends the group at its closing parenthesis. -/
def closeGroup (c : Cursor) : Option Cursor :=
  match c.outer with
  | [] => none
  | g :: outer =>
    let content := c.group.content
    let group := g.push (.group c.group.kept content.pattern) (content.depth + 1)
    some { c with flags := c.group.restored, group, outer }

/-- Adds one character of a set. -/
def pushSet (c : Cursor) (s : CharSet) (depth : Nat := 0) : Cursor := c.push (.one s) depth

/-- Adds a character that stands for itself. -/
def pushChar (c : Cursor) (char : Char) : Cursor := c.pushSet (c.flags.apply (.single char))

/-- The characters that a dot stands for. -/
def dot (flags : Flags) : Option CharSet :=
  if flags.asciiSets then none
  else if flags.dotAll then some .all
  else if flags.anyLineEnds then some (.complement (.union (.single '\n') (.single '\r')))
  else some (.complement (.single '\n'))

/-- What a caret asks for. -/
def caret (flags : Flags) : Assertion :=
  if !flags.multiLine then .textStart else if flags.anyLineEnds then .anyLineStart else .lineStart

/-- What a dollar sign asks for. -/
def dollar (flags : Flags) : Assertion :=
  if !flags.multiLine then .textEnd else if flags.anyLineEnds then .anyLineEnd else .lineEnd

/-- Repeats the last piece. -/
def repeatLast (c : Cursor) (least : Nat) (most : Option Nat) : Option Cursor :=
  (c.group.repeatLast least most).map fun group => { c with group }

/-- Reads the next part of a pattern. -/
def step (c : Cursor) : List Char → Option (Cursor × List Char)
  | [] => none
  | '(' :: rest => c.openGroup rest
  | ')' :: rest => c.closeGroup.map (·, rest)
  | '|' :: rest => some ({ c with group := c.group.nextBranch }, rest)
  | '[' :: rest => (readSet c.flags rest).map fun (s, depth, rest) => (c.pushSet s depth, rest)
  | '?' :: rest => (c.repeatLast 0 (some 1)).map (·, skipLazy rest)
  | '*' :: rest => (c.repeatLast 0 none).map (·, skipLazy rest)
  | '+' :: rest => (c.repeatLast 1 none).map (·, skipLazy rest)
  | '{' :: rest =>
    match readCounts c.flags rest with
    | some (least, most, rest) => (c.repeatLast least most).map (·, skipLazy (skip c.flags rest))
    | none => none
  | '\\' :: rest =>
    match readEscape c.flags rest with
    | some (.char char, rest) => some (c.pushChar char, rest)
    | some (.set s, rest) => some (c.pushSet s, rest)
    | some (.assertion a, rest) => some (c.push (.assert a), rest)
    | none => none
  | '.' :: rest => (dot c.flags).map fun s => (c.pushSet s, rest)
  | '^' :: rest => some (c.push (.assert (caret c.flags)), rest)
  | '$' :: rest => some (c.push (.assert (dollar c.flags)), rest)
  | char :: rest => some (c.pushChar char, rest)

/-- Reads a whole pattern. Every step reads a character, so their number bounds the steps. -/
def run : (fuel : Nat) → Cursor → List Char → Option Nested
  | 0, _, _ => none
  | fuel + 1, c, cs =>
    match skip c.flags cs with
    | [] => if c.outer.isEmpty then some c.group.content else none
    | cs =>
      match c.step cs with
      | some (c, rest) => run fuel c rest
      | none => none

end Cursor

/-- The pattern that a text writes. -/
def ofText? (text : String) : Option Pattern := do
  let p ← Cursor.run (text.toList.length + 1) {} text.toList
  if p.depth ≤ depthLimit then some p.pattern else none

/-- The characters that have a meaning in written patterns. -/
def specialChars : List Char := "\\.+*?()|[]\x7b\x7d^$#&-~".toList

/-- Writes a pattern that fits the given text alone: a backslash goes before every character that
has a meaning. -/
def escape (text : List Char) : List Char :=
  text.flatMap fun c => if c ∈ specialChars then ['\\', c] else [c]

end Pattern

end DocMapper
