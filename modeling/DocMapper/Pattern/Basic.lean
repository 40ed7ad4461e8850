import DocMapper.Pattern.CharSet
import Std.Data.HashSet

namespace DocMapper

/-! # Patterns

A pattern describes texts, and is searched for: it is found in a text when some part of the text
fits it. The search keeps the set of patterns that remain to be fitted after each character, so
it reads the text once and never goes back.

The store leaves patterns to a library of its own. What is defined here and in the modules on
reading and on size follows that library's documentation: which texts are patterns, where a pattern
is found, and how large it may be. The way of searching is not the library's, only its outcome.
-/

/-- A place relative to the words around it. -/
inductive WordPlace where
  /-- The start or the end of a word. -/
  | boundary
  /-- Neither the start nor the end of a word. -/
  | noBoundary
  | start
  | finish
  /-- No word character before. -/
  | startHalf
  /-- No word character after. -/
  | finishHalf
  deriving DecidableEq, Hashable

namespace WordPlace

/-- The place lies between a character of a word, or another one, and the same again. -/
def holds (place : WordPlace) (before after : Bool) : Bool :=
  match place with
  | boundary => before != after
  | noBoundary => before == after
  | start => !before && after
  | finish => before && !after
  | startHalf => !before
  | finishHalf => !after

end WordPlace

/-- A condition on the place between two characters. -/
inductive Assertion where
  | textStart
  | textEnd
  /-- After a line feed, or at the start. -/
  | lineStart
  /-- Before a line feed, or at the end. -/
  | lineEnd
  /-- After a line end of either convention, or at the start; never inside one. -/
  | anyLineStart
  /-- Before a line end of either convention, or at the end; never inside one. -/
  | anyLineEnd
  /-- A place relative to words of all scripts. -/
  | atWord (place : WordPlace)
  /-- A place relative to words of ASCII. -/
  | atAsciiWord (place : WordPlace)
  deriving DecidableEq, Hashable

namespace Assertion

/-- The condition holds between the characters `before` and `after`, if there are any. -/
def holds (a : Assertion) (before after : Option Char) : Bool :=
  match a with
  | textStart => before.isNone
  | textEnd => after.isNone
  | lineStart => before.all (· == '\n')
  | lineEnd => after.all (· == '\n')
  | anyLineStart =>
    match before with
    | none => true
    | some '\n' => true
    | some '\r' => after != some '\n'
    | some _ => false
  | anyLineEnd =>
    match after with
    | none => true
    | some '\r' => true
    | some '\n' => before != some '\r'
    | some _ => false
  | atWord place => place.holds (before.any CharKind.isWord) (after.any CharKind.isWord)
  | atAsciiWord place =>
    place.holds (before.any CharKind.isAsciiWord) (after.any CharKind.isAsciiWord)

end Assertion

/-- A description of texts. -/
inductive Pattern where
  /-- The empty text. -/
  | empty
  /-- One character of a set. -/
  | one (s : CharSet)
  /-- The empty text, at a place of a certain kind. -/
  | assert (a : Assertion)
  /-- A text of the first followed by one of the second. -/
  | seq (a b : Pattern)
  /-- A text of either. -/
  | alt (a b : Pattern)
  /-- At least `least` texts and at most `most`, if there is a bound, one after the other. -/
  | times (a : Pattern) (least : Nat) (most : Option Nat)
  /-- A text of a pattern in parentheses, which may be kept for later. -/
  | group (kept : Bool) (a : Pattern)
  deriving DecidableEq, Hashable

namespace Pattern

/-- The empty text fits between the characters `before` and `after`. -/
def fitsEmpty (before after : Option Char) : Pattern → Bool
  | empty => true
  | one _ => false
  | assert a => a.holds before after
  | seq a b => a.fitsEmpty before after && b.fitsEmpty before after
  | alt a b => a.fitsEmpty before after || b.fitsEmpty before after
  | times a least _ => least = 0 || a.fitsEmpty before after
  | group _ a => a.fitsEmpty before after

/-- One pattern followed by another, when the first may be used up. -/
def andThen (a b : Pattern) : Pattern :=
  match a with
  | empty => b
  | _ => seq a b

/-- What remains to be fitted once the character `c`, which follows `before`, is read: one of the
resulting patterns. A repetition may fit the empty text before it reads the character, and then
none of its texts is still owed. -/
def rest (before : Option Char) (c : Char) : Pattern → List Pattern
  | empty => []
  | one s => if s.contains c then [empty] else []
  | assert _ => []
  | seq a b =>
    let left := (a.rest before c).map (·.andThen b)
    if a.fitsEmpty before (some c) then left ++ b.rest before c else left
  | alt a b => a.rest before c ++ b.rest before c
  | times a least most =>
    if most = some 0 then []
    else
      let owed := if a.fitsEmpty before (some c) then 0 else least - 1
      (a.rest before c).map (·.andThen (times a owed (most.map (· - 1))))
  | group _ a => a.rest before c

/-- The patterns of a list, each once. -/
def distinct (ps : List Pattern) : List Pattern := (Std.HashSet.ofList ps).toList

/-- Searches for `p` in a text that follows the character `before`, while the patterns `started`
remain of parts that started earlier. -/
def foundFrom (p : Pattern) (started : List Pattern) (before : Option Char) : List Char → Bool
  | [] => (p :: started).any (·.fitsEmpty before none)
  | c :: text =>
    let live := p :: started
    live.any (·.fitsEmpty before (some c)) ||
      foundFrom p (distinct (live.flatMap (·.rest before c))) (some c) text

/-- Some part of the text fits the pattern. -/
def foundIn (p : Pattern) (text : String) : Bool := foundFrom p [] none text.toList

/-! ## Simplification -/

/-- A repetition. Of two repetitions that each allow no text, one or any number, one suffices. -/
def repeated (p : Pattern) (least : Nat) (most : Option Nat) : Pattern :=
  let isPlain (least : Nat) (most : Option Nat) : Bool :=
    least ≤ 1 && (most = none || most = some 1)
  match p with
  | times a least' most' =>
    if isPlain least most && isPlain least' most' then
      times a (least * least') (if most = none ∨ most' = none then none else some 1)
    else times p least most
  | _ => times p least most

/-- The pattern without its parentheses and without parts that do nothing. The same texts fit. -/
def simplified : Pattern → Pattern
  | seq a b =>
    match b.simplified with
    | empty => a.simplified
    | b => a.simplified.andThen b
  | alt a b => alt a.simplified b.simplified
  | times a least most => a.simplified.repeated least most
  | group _ a => a.simplified
  | p => p

end Pattern

end DocMapper
