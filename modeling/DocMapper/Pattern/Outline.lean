import DocMapper.Pattern.Parser
import DocMapper.Unicode.Utf8

namespace DocMapper

/-! # Outlines of patterns

A pattern in the simplified form in which its size is measured: sequences and alternatives are
flat, characters that follow one another are one text, alternatives that are single characters
are one set, and what all alternatives start with is taken out of them. The library that searches
for patterns in the store simplifies them in this way before it builds its machines.
-/

/-- A simplified pattern. -/
inductive Outline where
  /-- The empty text. -/
  | empty
  /-- One text. -/
  | literal (text : List Char)
  /-- One character of a set, which does not have exactly one. -/
  | set (codes : CodeSet)
  | assert (a : Assertion)
  | times (a : Outline) (least : Nat) (most : Option Nat)
  /-- A group whose text is kept. -/
  | kept (a : Outline)
  | concat (items : List Outline)
  | choice (items : List Outline)

namespace Outline

/-! ## Facts -/

/-- What is known of the texts that fit an outline. -/
structure Facts where
  /-- The number of bytes of the shortest text, if there is one. -/
  shortest : Option Nat := some 0
  /-- The number of bytes of the longest text, if there is one. -/
  longest : Option Nat := some 0
  /-- They stand at the start of the text that is searched. -/
  fromStart : Bool := false
  /-- They stand at the end of the text that is searched. -/
  toEnd : Bool := false

namespace Facts

/-- A fact holds of a part up to the first that may take up room. -/
def leading (fact : Facts → Bool) : List Facts → Bool
  | [] => false
  | f :: rest => fact f || (f.longest = some 0 && leading fact rest)

/-- The sum of numbers that are all known. -/
def sum? (ns : List (Option Nat)) : Option Nat :=
  ns.foldl (fun total n => do return (← total) + (← n)) (some 0)

/-- The best of numbers that are all known. -/
def best? (better : Nat → Nat → Nat) : List (Option Nat) → Option Nat
  | [] => none
  | n :: rest => rest.foldl (fun best n => do return better (← best) (← n)) n

/-- The facts about parts that follow one another. -/
def concat (parts : List Facts) : Facts where
  shortest := sum? (parts.map (·.shortest))
  longest := sum? (parts.map (·.longest))
  fromStart := leading (·.fromStart) parts
  toEnd := leading (·.toEnd) parts.reverse

/-- The facts about alternatives. -/
def choice (parts : List Facts) : Facts where
  shortest := best? min (parts.map (·.shortest))
  longest := best? max (parts.map (·.longest))
  fromStart := parts.all (·.fromStart)
  toEnd := parts.all (·.toEnd)

/-- The facts about a repetition. -/
def times (f : Facts) (least : Nat) (most : Option Nat) : Facts where
  shortest := f.shortest.map (least * ·)
  longest := do return (← most) * (← f.longest)
  fromStart := 0 < least && f.fromStart
  toEnd := 0 < least && f.toEnd

end Facts

mutual

/-- The facts about an outline. -/
def facts : Outline → Facts
  | empty => {}
  | literal text =>
    let bytes := (text.map fun c => Utf8.width c.toNat).sum
    { shortest := some bytes, longest := some bytes }
  | set codes =>
    { shortest := codes.ranges.head?.map fun r => Utf8.width r.first
      longest := codes.ranges.getLast?.map fun r => Utf8.width r.last }
  | assert a => { fromStart := a = .textStart, toEnd := a = .textEnd }
  | times a least most => a.facts.times least most
  | kept a => a.facts
  | concat items => .concat (factsOf items)
  | choice items => .choice (factsOf items)

/-- The facts about several outlines. -/
def factsOf : List Outline → List Facts
  | [] => []
  | a :: rest => a.facts :: factsOf rest

end

/-! ## Equality -/

mutual

/-- The outlines are the same, and keep no group. -/
def same : Outline → Outline → Bool
  | empty, empty => true
  | literal s, literal t => s = t
  | set s, set t => s = t
  | assert a, assert b => a = b
  | times a least most, times b least' most' => least = least' && most = most' && a.same b
  | concat items, concat items' => allSame items items'
  | choice items, choice items' => allSame items items'
  | _, _ => false

/-- The outlines of two lists are the same, in order. -/
def allSame : List Outline → List Outline → Bool
  | [], [] => true
  | a :: rest, b :: rest' => a.same b && allSame rest rest'
  | _, _ => false

end

/-! ## Simplification -/

/-- The parts that follow one another in an outline. -/
def items : Outline → List Outline
  | empty => []
  | concat items => items
  | a => [a]

/-- Parts that follow one another as one outline. -/
def ofItems : List Outline → Outline
  | [] => empty
  | [a] => a
  | items => concat items

/-- Puts a part before others. Two texts become one. -/
def prepend (a : Outline) (items : List Outline) : List Outline :=
  match a, items with
  | literal s, literal t :: rest => literal (s ++ t) :: rest
  | _, _ => a :: items

/-- One outline after the other. -/
def followedBy (a b : Outline) : Outline := ofItems (a.items.foldr prepend b.items)

/-- One character of a set. -/
def ofCodes (codes : CodeSet) : Outline :=
  match codes.ranges with
  | [r] => if r.first = r.last then literal [Char.ofNat r.first] else set codes
  | _ => set codes

/-- A repetition. What fits the empty text alone is repeated at most once. -/
def repeated (a : Outline) (least : Nat) (most : Option Nat) : Outline :=
  let (least, most) :=
    if a.facts.longest = some 0 then (min least 1, some (min (most.getD 1) 1)) else (least, most)
  if most = some 0 then empty
  else if least = 1 ∧ most = some 1 then a
  else times a least most

/-- The set of which an alternative is one character. -/
def codes? : Outline → Option CodeSet
  | set codes => some codes
  | _ => none

/-- The character that an alternative is. -/
def char? : Outline → Option Char
  | literal [c] => some c
  | _ => none

/-- Alternatives that are all single characters, or all sets, as one set. -/
def mergedSet? (branches : List Outline) : Option CodeSet :=
  let single (c : Char) : CodeRange := ⟨c.toNat, c.toNat⟩
  match branches.mapM char? with
  | some chars => some (.ofRanges (chars.map single))
  | none => (branches.mapM codes?).map .unions

/-- How many parts two lists start with alike. -/
def commonLength : List Outline → List Outline → Nat
  | a :: rest, b :: rest' => if a.same b then commonLength rest rest' + 1 else 0
  | _, _ => 0

/-- The parts of a sequence. -/
def sequence? : Outline → Option (List Outline)
  | concat items => some items
  | _ => none

/-- The parts that all sequences start with, and what follows them in each. -/
def commonStart? (branches : List Outline) : Option (List Outline × List Outline) :=
  match branches.mapM sequence? with
  | some (first :: others) =>
    let common := others.foldl (fun n items => min n (commonLength first items)) first.length
    if common = 0 then none
    else some (first.take common, (first :: others).map fun items => ofItems (items.drop common))
  | _ => none

/-- Alternatives as one outline. Every step goes into an alternative, so their depth bounds the
steps. -/
def ofBranches : (fuel : Nat) → List Outline → Outline
  | 0, branches => choice branches
  | fuel + 1, branches =>
    let flat := branches.flatMap fun a =>
      match a with
      | choice items => items
      | a => [a]
    match flat with
    | [a] => a
    | flat =>
      match mergedSet? flat with
      | some codes => ofCodes codes
      | none =>
        match commonStart? flat with
        | some (start, ends) => (ofItems start).followedBy (ofBranches fuel ends)
        | none => choice flat

/-- Alternatives as one outline. -/
def ofAlternatives (branches : List Outline) : Outline :=
  match branches with
  | [a] => a
  | branches => ofBranches (Pattern.depthLimit + 1) branches

/-- The outlines of the alternatives of a pattern. -/
def alternatives : Pattern → List Outline
  | .empty => [empty]
  | .one s => [ofCodes s.toCodes]
  | .assert a => [assert a]
  | .seq a b => [(ofAlternatives (alternatives a)).followedBy (ofAlternatives (alternatives b))]
  | .alt a b => ofAlternatives (alternatives a) :: alternatives b
  | .times a least most => [(ofAlternatives (alternatives a)).repeated least most]
  | .group false a => [ofAlternatives (alternatives a)]
  | .group true a => [kept (ofAlternatives (alternatives a))]

/-- The outline of a pattern. -/
def ofPattern (p : Pattern) : Outline := ofAlternatives (alternatives p)

end Outline

end DocMapper
