import DocMapper.Pattern.Basic

namespace DocMapper

/-! # Searching for patterns

A search reads its text once and keeps what remains of all parts that started somewhere. That comes
to the same as trying every place of the text in turn: the pattern is found when it fits at the
start of the text, or of what is left of it after some characters. At one place, a sequence of
characters and assertions fits as it is written.
-/

namespace Pattern

variable {p q : Pattern} {before : Option Char} {text : List Char}

/-! ## Fitting at one place -/

/-- The pattern fits some start of a text that follows the character `before`. -/
def fitsStart (q : Pattern) (before : Option Char) : List Char → Bool
  | [] => q.fitsEmpty before none
  | c :: text =>
    q.fitsEmpty before (some c) || (q.rest before c).any fun r => fitsStart r (some c) text

/-- The pattern fits a start of the text, or of what is left of it after some characters. -/
def fitsSomewhere (p : Pattern) (before : Option Char) : List Char → Bool
  | [] => p.fitsStart before []
  | c :: text => p.fitsStart before (c :: text) || fitsSomewhere p (some c) text

theorem any_distinct (ps : List Pattern) (test : Pattern → Bool) :
    (distinct ps).any test = ps.any test := by
  rw [Bool.eq_iff_iff, List.any_eq_true, List.any_eq_true]
  have hmem : ∀ r, r ∈ distinct ps ↔ r ∈ ps := by
    intro r
    rw [distinct, Std.HashSet.mem_toList, Std.HashSet.mem_ofList, List.contains_iff_mem]
  simp only [hmem]

/-- A search finds what has started before, or what fits at a place still to come. -/
theorem foundFrom_eq (p : Pattern) (started : List Pattern) (before : Option Char)
    (text : List Char) :
    foundFrom p started before text =
      (started.any (fun q => q.fitsStart before text) || p.fitsSomewhere before text) := by
  -- the induction is on the text, for every set of readings that are under way
  induction text generalizing started before with
  | nil =>
    rw [foundFrom, List.any_cons, Bool.or_comm]
    rfl
  | cons c text ih =>
    -- a reading under way fits here, or goes on behind the character
    have hlive : ∀ live : List Pattern,
        (live.any (fun q => q.fitsEmpty before (some c)) ||
          (live.flatMap (·.rest before c)).any fun q => q.fitsStart (some c) text) =
        live.any fun q => q.fitsStart before (c :: text) := by
      intro live
      induction live with
      | nil => rfl
      | cons q live ihlive =>
        rw [List.any_cons, List.any_cons, List.flatMap_cons, List.any_append, ← ihlive, fitsStart]
        ac_rfl
    rw [foundFrom, ih, any_distinct, ← Bool.or_assoc, hlive, List.any_cons, fitsSomewhere,
      ← Bool.or_assoc]
    rw [Bool.or_comm (p.fitsStart before (c :: text))]

theorem foundIn_eq (p : Pattern) (text : String) :
    p.foundIn text = p.fitsSomewhere none text.toList := by
  rw [foundIn, foundFrom_eq]
  rfl

/-! ## Sequences of characters and assertions -/

@[simp] theorem fitsStart_empty (before : Option Char) (text : List Char) :
    fitsStart empty before text = true := by
  cases text <;> rfl

theorem fitsStart_assert (a : Assertion) (before : Option Char) (text : List Char) :
    fitsStart (assert a) before text = a.holds before text.head? := by
  cases text with
  | nil => rfl
  | cons c text =>
    rw [fitsStart, fitsEmpty, rest, List.any_nil, Bool.or_false]
    rfl

theorem fitsStart_seq_assert (a : Assertion) (q : Pattern) (before : Option Char)
    (text : List Char) :
    fitsStart (seq (assert a) q) before text =
      (a.holds before text.head? && q.fitsStart before text) := by
  cases text with
  | nil => rfl
  | cons c text =>
    rw [fitsStart, fitsStart, fitsEmpty, fitsEmpty, rest, rest, List.map_nil, List.nil_append,
      fitsEmpty, List.head?_cons]
    cases a.holds before (some c) with
    | true => rw [Bool.true_and, Bool.true_and, if_pos rfl]
    | false => rfl

theorem fitsStart_one_cons (s : CharSet) (before : Option Char) (c : Char) (text : List Char) :
    fitsStart (one s) before (c :: text) = s.contains c := by
  rw [fitsStart, fitsEmpty, rest, Bool.false_or]
  cases s.contains c with
  | true => simp
  | false => rfl

theorem fitsStart_seq_one_cons (s : CharSet) (q : Pattern) (before : Option Char) (c : Char)
    (text : List Char) :
    fitsStart (seq (one s) q) before (c :: text) =
      (s.contains c && q.fitsStart (some c) text) := by
  rw [fitsStart, fitsEmpty, fitsEmpty, rest, rest, fitsEmpty, Bool.false_and, Bool.false_or,
    if_neg Bool.false_ne_true]
  cases s.contains c with
  | true => simp [andThen]
  | false => rfl

end Pattern

end DocMapper
