import DocMapper.Pattern.Outline
import Std.Data.HashMap

namespace DocMapper

/-! # The size of patterns

A pattern is searched for by a machine that reads bytes, forwards to find where a text ends and
backwards to find where it starts. Both machines are limited in size, so a pattern that asks for a
larger one is refused. Here the states of the machines are counted, and not built.

The machines are those of the library that searches for patterns in the store, which is not part of
what is modelled. Its limit on size is documented, and so is the way in which patterns become states
that are shared where they agree. The bytes that a state takes and the places in the tables of
shared states are constants of that library.
-/

/-- The size of a machine that is being built. -/
structure Footprint where
  /-- How many states there are. They are numbered in the order in which they are made. -/
  states : Nat := 0
  /-- How many bytes the states take. -/
  bytes : Nat := 0

namespace Footprint

/-- The most bytes that the states of a machine may take. -/
def limit : Nat := 10 * 1024 * 1024

/-- The machine is larger than allowed. -/
def isOver (f : Footprint) : Bool := limit < f.bytes

/-! ## States -/

/-- Adds a state. -/
def state (f : Footprint) : Footprint := { states := f.states + 1, bytes := f.bytes + 32 }

/-- Adds a state with a transition for each of several ranges of bytes. -/
def branching (f : Footprint) (ranges : Nat) : Footprint :=
  { f.state with bytes := f.state.bytes + 8 * ranges }

/-- Adds alternatives to a state that forks. -/
def forks (f : Footprint) (count : Nat) : Footprint := { f with bytes := f.bytes + 4 * count }

/-! ## Parts -/

/-- The size after a part was added, and whether the part ends in a state that forks, so that what
follows is one more alternative of it. -/
structure Part where
  footprint : Footprint
  endsInFork : Bool := false

namespace Part

/-- Ties the end of the part to the state that follows it. -/
def tie (p : Part) : Footprint := p.footprint.forks (if p.endsInFork then 1 else 0)

/-- Adds a part `count` times after another one. -/
def more (add : Footprint → Part) : (count : Nat) → Part → Part
  | 0, p => p
  | count + 1, p => if p.footprint.isOver then p else more add count (add p.tie)

/-- Adds a part `count` times after another one, each time with a way around it and all that
follows. -/
def optional (add : Footprint → Part) : (count : Nat) → Part → Part
  | 0, p => { footprint := p.tie }
  | count + 1, p =>
    if p.footprint.isOver then p else optional add count (add (p.tie.state.forks 2))

/-- Adds a part exactly `count` times. -/
def exactly (add : Footprint → Part) (count : Nat) (f : Footprint) : Part :=
  match count with
  | 0 => { footprint := f.state }
  | count + 1 => more add count (add f)

/-- Adds a part at least `least` times. If it may fit the empty text, two more states keep the
machine from going round in place. -/
def atLeast (add : Footprint → Part) (mayBeEmpty : Bool) (least : Nat) (f : Footprint) : Part :=
  match least with
  | 0 =>
    if mayBeEmpty then { footprint := (add f).tie.state.state.state.forks 4 }
    else { footprint := (add f.state).tie.forks 1, endsInFork := true }
  | 1 => { footprint := (add f).tie.state.forks 1, endsInFork := true }
  | least + 1 =>
    { footprint := (add (exactly add least f).tie).tie.state.forks 1, endsInFork := true }

/-- Adds a part at least `least` times and at most `most`, if there is a bound. -/
def times (add : Footprint → Part) (mayBeEmpty : Bool) (least : Nat) (most : Option Nat)
    (f : Footprint) : Part :=
  match most with
  | none => atLeast add mayBeEmpty least f
  | some most =>
    if least = 0 ∧ most = 1 then { footprint := (add f.state).tie.state.forks 2 }
    else if least = most then exactly add least f
    else
      let start := exactly add least f
      optional add (most - least) { start with footprint := start.footprint.state }

end Part

/-! ## Sets of characters -/

/-- Numbers as a key of 64 bits. -/
def hash (ns : List Nat) : UInt64 :=
  ns.foldl (fun h n => (h ^^^ n.toUInt64) * 1099511628211) 14695981039346656037

/-- States that may be shared, in a table of few places: a newer one takes the place of an older
one with the same remainder of its key. -/
structure Shared where
  footprint : Footprint
  places : Std.HashMap UInt64 (List Nat × Nat) := {}

namespace Shared

/-- The number of the state with the given key, if the table has it at the key's place. -/
def find? (s : Shared) (place : UInt64) (key : List Nat) : Option Nat :=
  match s.places[place]? with
  | some (found, number) => if found = key then some number else none
  | none => none

/-- The number of the state with the given key, which is added if the table does not have it. -/
def find (s : Shared) (size : UInt64) (key : List Nat) (add : Footprint → Footprint) :
    Nat × Shared :=
  let place := hash key % size
  match s.find? place key with
  | some number => (number, s)
  | none =>
    let number := s.footprint.states
    (number, ⟨add s.footprint, s.places.insert place (key, number)⟩)

/-- Adds a state from which the given sequences lead to the state `target`. Sequences that start
alike share the states after their start, and states that lead to the same ones are shared. -/
def node (target : Nat) : (depth : Nat) → List (List ByteRange) → Shared → Nat × Shared
  | 0, _, s => (target, s)
  | depth + 1, sequences, s =>
    let groups := sequences.splitBy fun a b => a.head? = b.head?
    let (key, s) := groups.foldl (fun (key, s) group =>
      let (next, s) :=
        match group.head? with
        | some [_] => (target, s)
        | _ => node target depth (group.map List.tail) s
      match group.head? with
      | some (r :: _) => (key ++ [r.first, r.last, next], s)
      | _ => (key, s)) (([] : List Nat), s)
    s.find 10000 key (·.branching (key.length / 3))

/-- Adds states that read the given sequences, each from its end, up to the state `target`. -/
def chain (target : Nat) (sequence : List ByteRange) (s : Shared) : Shared :=
  (sequence.foldl (fun (next, s) r => s.find 1000 [next, r.first, r.last] (·.state))
    (target, s)).2

end Shared

/-- Adds states that read one of the given sequences. -/
def addSequences (backwards : Bool) (sequences : List (List ByteRange)) (f : Footprint) :
    Footprint :=
  if backwards then
    let target := f.states + 1
    (sequences.foldl (fun s sequence =>
      let s := Shared.chain target sequence s
      { s with footprint := s.footprint.forks 1 })
      ({ footprint := f.state.state } : Shared)).footprint
  else (Shared.node f.states 4 sequences { footprint := f.state }).2.footprint

/-! ## Alternatives that are texts -/

/-- Cuts a list of texts at each empty one. Empty ones at the start count as one. -/
def cutAtEmpty (texts : List (List Nat)) : List (List (List Nat)) :=
  let start := texts.takeWhile (·.isEmpty)
  let rest := texts.drop start.length
  let pieces := rest.splitBy fun a _ => !a.isEmpty
  let last : List (List (List Nat)) :=
    if rest.isEmpty || rest.getLast?.any (·.isEmpty) then [[]] else []
  (if start.isEmpty then [] else [[]]) ++ pieces.map (·.filter (!·.isEmpty)) ++ last

/-- Adds a tree of the texts: texts share the states for what they start with alike, unless a text
that ends there stands between them. Every level of the tree reads a byte. -/
def addTree : (levels : Nat) → List (List Nat) → Footprint → Footprint
  | 0, _, f => f
  | levels + 1, texts, f =>
    let chunks := cutAtEmpty texts
    let f := chunks.foldl (fun f chunk =>
      let firsts := (chunk.filterMap List.head?).eraseDups
      let f := firsts.foldl (fun f byte =>
        let tails := (chunk.filter (·.head? = some byte)).map List.tail
        if tails.all (·.isEmpty) then f else addTree levels tails f) f
      match firsts.length with
      | 0 => f
      | 1 => f.state.forks 1
      | n => (f.branching n).forks 1) f
    f.state.forks (chunks.length - 1)

/-- Adds alternatives that are texts. -/
def addTexts (texts : List (List Nat)) (f : Footprint) : Footprint :=
  addTree ((texts.map List.length).foldl max 0 + 1) texts f.state

/-- The bytes of an alternative that is a text. -/
def text? : Outline → Option (List Nat)
  | .literal text => some (text.flatMap fun c => Utf8.bytes c.toNat)
  | _ => none

/-! ## The whole machine -/

/-- Adding a part. What does not depend on the machine is worked out once, however often the part
is added. -/
structure Builder where
  add : Footprint → Part

/-- Adds one character of a set. -/
def setBuilder (backwards : Bool) (codes : CodeSet) : Builder :=
  if codes.ranges.all fun r => r.last < 0x80 then
    let ranges := codes.ranges.length
    ⟨fun f => { footprint := f.state.branching ranges }⟩
  else
    let sequences := Utf8.sequencesOf codes
    ⟨fun f => { footprint := addSequences backwards sequences f }⟩

/-- Adds parts that follow one another. -/
def sequence : List Builder → Footprint → Part
  | [], f => { footprint := f.state }
  | b :: rest, f => rest.foldl (fun p b => b.add p.tie) (b.add f)

/-- Adds parts that are alternatives. The states where they part and meet are made once the second
of them is there; `missing` alternatives come up to it. -/
def choice (missing : Nat) : List Builder → Footprint → Footprint
  | [], f => f
  | b :: rest, f =>
    let f := (b.add f).tie.forks 1
    choice (missing - 1) rest (if missing = 1 then f.state.state else f)

mutual

/-- Adds what reads an outline. -/
def builder (backwards : Bool) : Outline → Builder
  | .empty => ⟨fun f => { footprint := f.state }⟩
  | .literal text =>
    let bytes := (text.map fun c => Utf8.width c.toNat).sum
    ⟨fun f => { footprint := { states := f.states + bytes, bytes := f.bytes + 32 * bytes } }⟩
  | .set codes => setBuilder backwards codes
  | .assert _ => ⟨fun f => { footprint := f.state }⟩
  | .times a least most =>
    let inner := builder backwards a
    let mayBeEmpty := a.facts.shortest.all (· = 0)
    ⟨Part.times inner.add mayBeEmpty least most⟩
  | .kept a =>
    let inner := builder backwards a
    if backwards then inner else ⟨fun f => { footprint := (inner.add f.state).tie.state }⟩
  | .concat items =>
    let parts := builders backwards items
    ⟨sequence (if backwards then parts.reverse else parts)⟩
  | .choice items =>
    match items.mapM text? with
    | some texts =>
      let texts := if backwards then texts.map List.reverse else texts
      ⟨fun f => { footprint := addTexts texts f }⟩
    | none =>
      let parts := builders backwards items
      ⟨fun f => { footprint := choice 2 parts f }⟩

/-- Adds what reads each of several outlines. -/
def builders (backwards : Bool) : List Outline → List Builder
  | [] => []
  | a :: rest => builder backwards a :: builders backwards rest

end

/-- Adds the state before an outline. Unless the outline stands at a fixed place, a loop that reads
any byte comes with it. -/
def start (fixed : Bool) : Footprint :=
  if fixed then ({} : Footprint).state else ((({} : Footprint).state.state).branching 1).forks 2

/-- The machine that finds where a text of the outline ends. -/
def forwards (a : Outline) : Footprint :=
  ((builder false a).add (start a.facts.fromStart).state).tie.state.state

/-- The machine that finds where a text of the outline starts. -/
def backwards (a : Outline) : Footprint :=
  ((builder true a).add (start a.facts.toEnd)).tie.state

end Footprint

namespace Pattern

/-- The machines for the pattern are not too large. -/
def isSmall (p : Pattern) : Bool :=
  let a := Outline.ofPattern p
  !(Footprint.forwards a).isOver && !(Footprint.backwards a).isOver

/-- The pattern that a text writes, unless it is too large, in its simple form. -/
def parse? (text : String) : Option Pattern := do
  let p ← ofText? text
  if p.isSmall then some p.simplified else none

end Pattern

end DocMapper
