import DocMapper.Pattern.Basic
import DocMapper.Unicode.Property

namespace DocMapper

/-! # Reading escapes

The settings under which a pattern is read, what stands for nothing under them, and the parts of a
pattern that start with a backslash. The syntax is the documented one of the library that searches
for patterns in the store.
-/

namespace Pattern

/-- The settings under which a part of a pattern is read. -/
structure Flags where
  ignoreCase : Bool := false
  multiLine : Bool := false
  dotAll : Bool := false
  /-- Blanks and comments in the pattern stand for nothing. -/
  verbose : Bool := false
  /-- Lines end with carriage return and line feed, or with one of them. -/
  anyLineEnds : Bool := false
  /-- Sets of characters hold characters of ASCII alone, so they have no complement. -/
  asciiSets : Bool := false
  deriving DecidableEq

namespace Flags

/-- A set under these settings. -/
def apply (flags : Flags) (s : CharSet) : CharSet :=
  if !flags.ignoreCase then s else if flags.asciiSets then .anyAsciiCase s else .anyCase s

/-- A set or its complement, where there is one. -/
def negate? (flags : Flags) (negated : Bool) (s : CharSet) : Option CharSet :=
  if !negated then some s else if flags.asciiSets then none else some (.complement s)

/-- The decimal digits under these settings. -/
def digit (flags : Flags) : CharSet := if flags.asciiSets then .asciiDigit else .digit

/-- The white space under these settings. -/
def blank (flags : Flags) : CharSet := if flags.asciiSets then .asciiBlank else .blank

/-- The characters of words under these settings. -/
def word (flags : Flags) : CharSet := if flags.asciiSets then .asciiWord else .word

/-- The assertion of a place relative to words under these settings. -/
def atWord (flags : Flags) (place : WordPlace) : Assertion :=
  if flags.asciiSets then .atAsciiWord place else .atWord place

end Flags

/-! ## What stands for nothing -/

/-- Passes over a comment, up to the end of its line. -/
def skipComment : List Char → List Char
  | [] => []
  | '\n' :: rest => rest
  | _ :: rest => skipComment rest

/-- Skipping a comment makes the text no longer. -/
theorem length_skipComment_le (cs : List Char) : (skipComment cs).length ≤ cs.length := by
  fun_induction skipComment cs <;> grind

/-- Passes over blanks and comments. -/
def skipBlanks (cs : List Char) : List Char :=
  match cs with
  | [] => []
  | c :: rest =>
    if CharKind.isBlank c then skipBlanks rest
    else if c = '#' then skipBlanks (skipComment rest)
    else c :: rest
termination_by cs.length
decreasing_by
  · simp
  · have := length_skipComment_le rest; grind

/-- Skipping blanks makes the text no longer. -/
theorem length_skipBlanks_le (cs : List Char) : (skipBlanks cs).length ≤ cs.length := by
  fun_induction skipBlanks cs with
  | case1 => simp
  | case2 c rest _ ih => simp only [List.length_cons]; omega
  | case3 rest _ ih =>
    have := length_skipComment_le rest
    simp only [List.length_cons]; omega
  | case4 => simp

/-- Passes over what stands for nothing under these settings. -/
def skip (flags : Flags) (cs : List Char) : List Char :=
  if flags.verbose then skipBlanks cs else cs

/-- Skipping makes the text no longer. -/
theorem length_skip_le (flags : Flags) (cs : List Char) : (skip flags cs).length ≤ cs.length := by
  unfold skip
  split
  · exact length_skipBlanks_le cs
  · simp

/-- Reads up to a closing brace. What stands for nothing between the characters is left out. -/
def readBraced (flags : Flags) (cs : List Char) : Option (List Char × List Char) :=
  match cs with
  | [] => none
  | '}' :: rest => some ([], rest)
  | c :: rest =>
    (readBraced flags (skip flags rest)).map fun (content, rest) => (c :: content, rest)
termination_by cs.length
decreasing_by
  have := length_skip_le flags rest; grind

/-! ## Characters by their code -/

/-- The character with the given code, if it has one. -/
def charOfCode? (code : Nat) : Option Char :=
  if code.isValidChar then some (Char.ofNat code) else none

/-- Reads exactly `count` hexadecimal digits of a number that starts with `code`. -/
def readHex (flags : Flags) (code : Nat) : (count : Nat) → List Char → Option (Nat × List Char)
  | 0, cs => some (code, cs)
  | _, [] => none
  | count + 1, c :: rest => do
    let digit ← Text.hexValue? c
    readHex flags (16 * code + digit) count (skip flags rest)

/-- Reads the code of a character: in braces, or as many digits as the letter before asks for. Two
digits are a byte, which must be one of ASCII where sets are. -/
def readCode (flags : Flags) (count : Nat) (cs : List Char) : Option (Char × List Char) := do
  match skip flags cs with
  | '{' :: rest =>
    let (digits, rest) ← readBraced flags (skip flags rest)
    if digits.isEmpty then none
    else
      let code ← Text.ofHexDigits? digits
      return (← charOfCode? code, rest)
  | cs =>
    let (code, rest) ← readHex flags 0 count cs
    if flags.asciiSets && count = 2 && 128 ≤ code then none
    else return (← charOfCode? code, rest)

/-! ## Properties -/

/-- Cuts a text at the first occurrence of a mark. -/
def cutAt? (mark : List Char) : List Char → Option (List Char × List Char)
  | [] => none
  | c :: rest =>
    if mark.isPrefixOf (c :: rest) then some ([], (c :: rest).drop mark.length)
    else (cutAt? mark rest).map fun (before, after) => (c :: before, after)

/-- The code points that a text in braces names: a property, or a property and a value. Between
them stands a colon, an equals sign or, for all other values, an exclamation mark and an equals
sign; the result says if it was the last. -/
def namedCodes? (name : List Char) : Option (CodeSet × Bool) :=
  match cutAt? ['!', '='] name with
  | some (property, value) => (Property.codesOf? property value).map (·, true)
  | none =>
    match cutAt? [':'] name <|> cutAt? ['='] name with
    | some (property, value) => (Property.codesOf? property value).map (·, false)
    | none => (Property.codes? name).map (·, false)

/-- Reads the name of a property, one letter or a text in braces. -/
def readProperty (flags : Flags) (negated : Bool) (cs : List Char) :
    Option (CharSet × List Char) := do
  let (name, rest) ← match skip flags cs with
    | [] => none
    | '{' :: rest => readBraced flags (skip flags rest)
    | c :: rest => if c = '\\' then none else some ([c], skip flags rest)
  let (s, others) ← namedCodes? name
  if flags.asciiSets then none
  else return (← flags.negate? (negated != others) (flags.apply (.codes s)), rest)

/-! ## Escapes -/

/-- What an escape stands for. -/
inductive Escape where
  | char (c : Char)
  | set (s : CharSet)
  | assertion (a : Assertion)

/-- The place relative to words that a name in braces stands for. -/
def placeNamed? (name : List Char) : Option WordPlace :=
  match String.ofList name with
  | "start" => some .start
  | "end" => some .finish
  | "start-half" => some .startHalf
  | "end-half" => some .finishHalf
  | _ => none

/-- Reads the name in braces that makes a word boundary one-sided. Braces that do not start with
a letter or a hyphen are left to be read as a repetition. -/
def readBoundary (flags : Flags) (cs : List Char) : Option (WordPlace × List Char) :=
  match cs with
  | '{' :: rest =>
    match skip flags rest with
    | [] => none
    | c :: inner =>
      if c.isAlpha || c = '-' then do
        let (name, rest) ← readBraced flags (c :: inner)
        return (← placeNamed? name, rest)
      else some (.boundary, cs)
  | _ => some (.boundary, cs)

/-- A character that a backslash makes literal: any mark of ASCII but the angle brackets. -/
def isMark (c : Char) : Bool :=
  c.toNat < 128 && !c.isAlphanum && c != '<' && c != '>'

/-- Reads what follows a backslash. -/
def readEscape (flags : Flags) : List Char → Option (Escape × List Char)
  | [] => none
  | c :: rest =>
    let char (result : Option (Char × List Char)) : Option (Escape × List Char) :=
      result.map fun (c, rest) => (.char c, rest)
    let set (result : Option CharSet) : Option (Escape × List Char) :=
      result.map fun s => (.set s, rest)
    let place (p : WordPlace) : Escape := .assertion (flags.atWord p)
    if isMark c then some (.char c, rest)
    else
      match c with
      | 'x' => char (readCode flags 2 rest)
      | 'u' => char (readCode flags 4 rest)
      | 'U' => char (readCode flags 8 rest)
      | 'p' => (readProperty flags false rest).map fun (s, rest) => (.set s, rest)
      | 'P' => (readProperty flags true rest).map fun (s, rest) => (.set s, rest)
      | 'd' => set (flags.negate? false flags.digit)
      | 'D' => set (flags.negate? true flags.digit)
      | 's' => set (flags.negate? false flags.blank)
      | 'S' => set (flags.negate? true flags.blank)
      | 'w' => set (flags.negate? false flags.word)
      | 'W' => set (flags.negate? true flags.word)
      | 'a' => some (.char '\x07', rest)
      | 'f' => some (.char '\x0c', rest)
      | 't' => some (.char '\t', rest)
      | 'n' => some (.char '\n', rest)
      | 'r' => some (.char '\r', rest)
      | 'v' => some (.char '\x0b', rest)
      | 'A' => some (.assertion .textStart, rest)
      | 'z' => some (.assertion .textEnd, rest)
      | 'b' => (readBoundary flags rest).map fun (p, rest) => (place p, rest)
      | 'B' => some (place .noBoundary, rest)
      | '<' => some (place .start, rest)
      | '>' => some (place .finish, rest)
      | _ => none

end Pattern

end DocMapper
