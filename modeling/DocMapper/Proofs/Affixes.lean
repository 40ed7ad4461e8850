import DocMapper.Proofs.Searches
import DocMapper.Proofs.SingleKeys

namespace DocMapper

/-! # Texts that begin or end with a text

The keywords for beginnings and ends of texts write their operand as a pattern, in which a backslash
goes before every character that has a meaning. Reading undoes the writing: what is read is the
sequence of the characters of the operand, so every operand stands for itself.
-/

namespace Pattern

variable {before : Option Char} {c : Char} {text tail p : List Char}

/-! ## Sequences of single characters -/

/-- A character that stands for itself. -/
def literal (c : Char) : Pattern := one (.single c)

/-- Parts in sequence, as they are read. -/
def sequence (parts : List Pattern) : Pattern := parts.foldr seq empty

theorem contains_single (c c' : Char) : (CharSet.single c).contains c' = (c' == c) := by
  rw [CharSet.single, CharSet.contains, Bool.eq_iff_iff, Bool.and_eq_true, decide_eq_true_iff,
    decide_eq_true_iff, beq_iff_eq]
  constructor
  · rintro ⟨hle, hge⟩
    exact Char.le_antisymm hge hle
  · rintro rfl
    exact ⟨Char.le_refl _, Char.le_refl _⟩

theorem simplified_sequence_nil : (sequence []).simplified = empty := rfl

/-- The simple form of a sequence leaves out the empty pattern at the end, which fits everywhere. -/
theorem fitsStart_sequence_cons {a : Pattern} (hsimple : a.simplified = a) (hne : a ≠ empty)
    (halone : ∀ before text, a.fitsStart before text = (seq a empty).fitsStart before text)
    (parts : List Pattern) (before : Option Char) (text : List Char) :
    (sequence (a :: parts)).simplified.fitsStart before text =
      (seq a (sequence parts).simplified).fitsStart before text := by
  have hsequence : sequence (a :: parts) = seq a (sequence parts) := rfl
  rw [hsequence, simplified, hsimple]
  split
  · rename_i hempty
    rw [hempty, halone]
  · cases a with
    | empty => exact absurd rfl hne
    | _ => rfl

theorem fitsStart_assert_sequence (a : Assertion) (parts : List Pattern) (before : Option Char)
    (text : List Char) :
    (sequence (assert a :: parts)).simplified.fitsStart before text =
      (a.holds before text.head? && (sequence parts).simplified.fitsStart before text) := by
  rw [fitsStart_sequence_cons rfl (by simp) ?_, fitsStart_seq_assert]
  intro before text
  rw [fitsStart_assert, fitsStart_seq_assert, fitsStart_empty, Bool.and_true]

theorem fitsStart_literal_sequence (c : Char) (parts : List Pattern) (before : Option Char)
    (text : List Char) :
    (sequence (literal c :: parts)).simplified.fitsStart before text =
      match text with
      | [] => false
      | c' :: text => c' == c && (sequence parts).simplified.fitsStart (some c') text := by
  rw [fitsStart_sequence_cons rfl (by simp [literal]) ?_]
  · cases text with
    | nil => rfl
    | cons c' text => rw [literal, fitsStart_seq_one_cons, contains_single]
  · intro before text
    cases text with
    | nil => rfl
    | cons c' text =>
      rw [literal, fitsStart_one_cons, fitsStart_seq_one_cons, fitsStart_empty, Bool.and_true]

/-- Characters in sequence fit the start of a text that begins with them. -/
theorem fitsStart_literals (p : List Char) (before : Option Char) (text : List Char) :
    (sequence (p.map literal)).simplified.fitsStart before text = p.isPrefixOf text := by
  induction p generalizing before text with
  | nil =>
    rw [List.map_nil, simplified_sequence_nil, fitsStart_empty]
    rfl
  | cons c p ih =>
    rw [List.map_cons, fitsStart_literal_sequence]
    cases text with
    | nil => rfl
    | cons c' text =>
      dsimp only
      rw [ih, List.isPrefixOf_cons_cons, BEq.comm]

/-- Characters in sequence and then the end of the text fit the text of these characters alone. -/
theorem fitsStart_literals_textEnd (p : List Char) (before : Option Char) (text : List Char) :
    (sequence (p.map literal ++ [assert .textEnd])).simplified.fitsStart before text =
      (text == p) := by
  induction p generalizing before text with
  | nil =>
    rw [List.map_nil, List.nil_append, fitsStart_assert_sequence, simplified_sequence_nil,
      fitsStart_empty, Bool.and_true]
    cases text with
    | nil => rfl
    | cons c' text => rfl
  | cons c p ih =>
    rw [List.map_cons, List.cons_append, fitsStart_literal_sequence]
    cases text with
    | nil => rfl
    | cons c' text =>
      dsimp only
      rw [ih, List.cons_beq_cons]

/-- Characters after the start of the text are found in the texts that begin with them. -/
theorem foundIn_textStart_literals (p : List Char) (text : String) :
    (sequence (assert .textStart :: p.map literal)).simplified.foundIn text =
      p.isPrefixOf text.toList := by
  -- after a character the start of the text has passed, so the assertion fits nowhere later
  have hlater : ∀ (text : List Char) (c : Char),
      (sequence (assert .textStart :: p.map literal)).simplified.fitsSomewhere (some c) text =
        false := by
    intro text
    induction text with
    | nil =>
      intro c
      rw [fitsSomewhere, fitsStart_assert_sequence]
      rfl
    | cons c' text ih =>
      intro c
      rw [fitsSomewhere, ih, fitsStart_assert_sequence]
      rfl
  rw [foundIn_eq]
  cases text.toList with
  | nil =>
    rw [fitsSomewhere, fitsStart_assert_sequence, fitsStart_literals]
    rfl
  | cons c text =>
    rw [fitsSomewhere, hlater, fitsStart_assert_sequence, fitsStart_literals, Bool.or_false]
    rfl

/-- Characters before the end of the text are found in the texts that end with them. -/
theorem foundIn_literals_textEnd (p : List Char) (text : String) :
    (sequence (p.map literal ++ [assert .textEnd])).simplified.foundIn text = true ↔
      p <:+ text.toList := by
  have hsomewhere : ∀ (text : List Char) (before : Option Char),
      (sequence (p.map literal ++ [assert .textEnd])).simplified.fitsSomewhere before text =
        true ↔ p <:+ text := by
    intro text
    induction text with
    | nil =>
      intro before
      rw [fitsSomewhere, fitsStart_literals_textEnd, beq_iff_eq, List.suffix_nil, eq_comm]
    | cons c text ih =>
      intro before
      rw [fitsSomewhere, fitsStart_literals_textEnd, Bool.or_eq_true, beq_iff_eq, ih,
        List.suffix_cons_iff, eq_comm]
  rw [foundIn_eq]
  exact hsomewhere text.toList none

/-! ## Reading what was escaped -/

namespace Cursor

/-- The state of reading at the top of a pattern under the plain settings, after the given parts. -/
def after (parts : List Pattern) : Cursor where
  group := { restored := {}, pieces := (parts.map fun p => .part ⟨p, 0⟩).reverse }

theorem push_after (parts : List Pattern) (p : Pattern) :
    (after parts).push p = after (parts ++ [p]) := by
  simp [after, push, Group.push]

theorem pushChar_after (parts : List Pattern) (c : Char) :
    (after parts).pushChar c = after (parts ++ [literal c]) :=
  push_after parts (literal c)

theorem isMark_of_mem_specialChars : ∀ c ∈ specialChars, isMark c = true :=
  List.all_eq_true.mp (by decide)

theorem step_of_special (parts : List Pattern) (hc : c ∈ specialChars) (rest : List Char) :
    (after parts).step ('\\' :: c :: rest) = some (after (parts ++ [literal c]), rest) := by
  have hescape : readEscape (after parts).flags (c :: rest) = some (.char c, rest) := by
    unfold readEscape
    exact if_pos (isMark_of_mem_specialChars c hc)
  rw [step, hescape]
  dsimp only
  rw [pushChar_after]

/-- A character without a meaning stands for itself. -/
theorem step_of_not_special (parts : List Pattern) (hc : c ∉ specialChars) (rest : List Char) :
    (after parts).step (c :: rest) = some (after (parts ++ [literal c]), rest) := by
  unfold step
  split
  -- in all cases but the last one the character has a meaning
  case h_14 =>
    rename_i c' rest' _ _ _ _ _ _ _ _ _ _ _ _ heq
    cases heq
    rw [pushChar_after]
  all_goals
    rename_i heq
    cases heq <;> exact absurd (by decide) hc

/-- One step of reading, as long as something is left. -/
theorem run_after_cons (fuel : Nat) (parts : List Pattern) (c : Char) (rest : List Char) :
    run (fuel + 1) (after parts) (c :: rest) =
      ((after parts).step (c :: rest)).bind fun (next, rest) => run fuel next rest := by
  have hskip : skip (after parts).flags (c :: rest) = c :: rest := rfl
  rw [run, hskip]
  dsimp only
  cases (after parts).step (c :: rest) <;> rfl

/-- Reading what was escaped reads the characters one by one, whatever follows them. -/
theorem run_escape (fuel : Nat) (parts : List Pattern) (text rest : List Char) :
    run (fuel + text.length) (after parts) (escape text ++ rest) =
      run fuel (after (parts ++ text.map literal)) rest := by
  induction text generalizing parts with
  | nil => simp [escape]
  | cons c text ih =>
    have hescape : escape (c :: text) =
        (if c ∈ specialChars then ['\\', c] else [c]) ++ escape text := rfl
    have hparts : parts ++ (c :: text).map literal =
        (parts ++ [literal c]) ++ text.map literal := by simp
    rw [hescape, hparts, ← ih, List.length_cons, ← Nat.add_assoc]
    -- a step reads a character together with its backslash, if the escape gave it one
    by_cases hc : c ∈ specialChars
    · rw [if_pos hc]
      show run _ _ ('\\' :: c :: (escape text ++ rest)) = _
      rw [run_after_cons, step_of_special parts hc]
      rfl
    · rw [if_neg hc]
      show run _ _ (c :: (escape text ++ rest)) = _
      rw [run_after_cons, step_of_not_special parts hc]
      rfl

theorem foldl_pieces (parts : List Pattern) (q : Pattern) :
    ((parts.map fun p => Piece.part ⟨p, 0⟩).reverse).foldl (fun after piece =>
      match piece with
      | .part p => seq p.pattern after
      | .setting => after) q = parts.foldr seq q := by
  rw [List.foldl_reverse, List.foldr_map]

theorem foldl_depth (parts : List Pattern) (d : Nat) :
    (after parts).group.pieces.foldl (fun d piece => max d piece.depth) d = d := by
  show ((parts.map fun p => Piece.part ⟨p, 0⟩).reverse).foldl
    (fun d piece => max d piece.depth) d = d
  rw [List.foldl_reverse, List.foldr_map]
  induction parts with
  | nil => rfl
  | cons p rest ih =>
    rw [List.foldr_cons, ih]
    exact Nat.max_zero d

/-- When nothing is left, the parts have been read in sequence. -/
theorem run_after_nil (fuel : Nat) (parts : List Pattern) :
    ∃ content, run (fuel + 1) (after parts) [] = some content ∧
      content.pattern = sequence parts ∧ content.depth ≤ depthLimit := by
  refine ⟨(after parts).group.content, rfl, foldl_pieces parts empty, ?_⟩
  have hdepth : (after parts).group.content.depth =
      if (after parts).group.pieces.length ≤ 1 then
        (after parts).group.pieces.foldl (fun d piece => max d piece.depth) 0
      else (after parts).group.pieces.foldl (fun d piece => max d piece.depth) 0 + 1 := rfl
  rw [hdepth, foldl_depth]
  split
  · exact Nat.zero_le _
  · decide

end Cursor

theorem length_le_length_escape (text : List Char) : text.length ≤ (escape text).length := by
  induction text with
  | nil => exact Nat.le_refl _
  | cons c text ih =>
    have hescape : escape (c :: text) =
        (if c ∈ specialChars then ['\\', c] else [c]) ++ escape text := rfl
    rw [hescape, List.length_append, List.length_cons]
    split <;> simp only [List.length_cons, List.length_nil] <;> omega

/-- The pattern for beginnings is the start of the text and then the characters. -/
theorem ofText?_startsWith (p : String) :
    ofText? (Subject.patternText .startsWith p) =
      some (sequence (assert .textStart :: p.toList.map literal)) := by
  have hwritten : (Subject.patternText .startsWith p).toList = '^' :: escape p.toList :=
    String.toList_ofList
  -- an escape only adds letters, so the fuel is enough
  obtain ⟨spare, hspare⟩ := Nat.exists_eq_add_of_le (length_le_length_escape p.toList)
  have hfuel : (Subject.patternText .startsWith p).toList.length + 1 =
      (spare + 1 + p.toList.length) + 1 := by
    rw [hwritten, List.length_cons, hspare]
    omega
  have hstart : (Cursor.after []).step ('^' :: escape p.toList) =
      some (Cursor.after [assert .textStart], escape p.toList) := rfl
  rcases Cursor.run_after_nil spare (assert .textStart :: p.toList.map literal) with
    ⟨content, hcontent, hpattern, hdepth⟩
  have hrun : Cursor.run ((Subject.patternText .startsWith p).toList.length + 1) {}
      (Subject.patternText .startsWith p).toList = some content := by
    rw [hfuel, hwritten]
    show Cursor.run _ (Cursor.after []) _ = _
    rw [Cursor.run_after_cons, hstart, Option.bind_some, ← List.append_nil (escape p.toList)]
    dsimp only
    rw [Cursor.run_escape]
    exact hcontent
  rw [ofText?, hrun]
  show (if content.depth ≤ depthLimit then some content.pattern else none) = _
  rw [if_pos hdepth, hpattern]

/-- The pattern for ends is the characters and then the end of the text. -/
theorem ofText?_endsWith (p : String) :
    ofText? (Subject.patternText .endsWith p) =
      some (sequence (p.toList.map literal ++ [assert .textEnd])) := by
  have hwritten : (Subject.patternText .endsWith p).toList = escape p.toList ++ ['$'] :=
    String.toList_ofList
  -- the fuel is enough here too, with a step for the mark at the end
  obtain ⟨spare, hspare⟩ := Nat.exists_eq_add_of_le (length_le_length_escape p.toList)
  have hfuel : (Subject.patternText .endsWith p).toList.length + 1 =
      (spare + 1 + 1) + p.toList.length := by
    rw [hwritten, List.length_append, List.length_singleton, hspare]
    omega
  have hend : (Cursor.after (p.toList.map literal)).step ['$'] =
      some (Cursor.after (p.toList.map literal ++ [assert .textEnd]), []) :=
    congrArg (fun cursor => some (cursor, [])) (Cursor.push_after _ _)
  rcases Cursor.run_after_nil spare (p.toList.map literal ++ [assert .textEnd]) with
    ⟨content, hcontent, hpattern, hdepth⟩
  have hrun : Cursor.run ((Subject.patternText .endsWith p).toList.length + 1) {}
      (Subject.patternText .endsWith p).toList = some content := by
    rw [hfuel, hwritten]
    show Cursor.run _ (Cursor.after []) _ = _
    rw [Cursor.run_escape, List.nil_append, Cursor.run_after_cons, hend, Option.bind_some]
    exact hcontent
  rw [ofText?, hrun]
  show (if content.depth ≤ depthLimit then some content.pattern else none) = _
  rw [if_pos hdepth, hpattern]

/-- A written pattern is within the limits that searching sets to the size of patterns. -/
def WithinLimit (written : String) : Prop := ∀ p, ofText? written = some p → p.isSmall = true

/-- What is within the limits is read to the simple form of its pattern. -/
theorem parse?_of_withinLimit {written : String} (hlimit : WithinLimit written) {q : Pattern}
    (h : ofText? written = some q) : parse? written = some q.simplified := by
  rw [parse?, h]
  show (if q.isSmall then some q.simplified else none) = _
  rw [if_pos (hlimit q h)]

/-! ## The limit to the size of operands -/

/-- The number of bytes of a text in UTF-8. -/
def byteCount (text : List Char) : Nat :=
  (text.map fun c => Utf8.width c.toNat).foldr (· + ·) 0

theorem ofPattern_literal (c : Char) : Outline.ofPattern (literal c) = .literal [c] := by
  show Outline.ofCodes ⟨[⟨c.toNat, c.toNat⟩]⟩ = _
  rw [Outline.ofCodes]
  dsimp only
  rw [if_pos rfl, Char.ofNat_toNat]

/-- Characters in sequence become one text. -/
theorem ofPattern_literals (c : Char) (p : List Char) :
    Outline.ofPattern (sequence ((c :: p).map literal)) = .literal (c :: p) := by
  induction p generalizing c with
  | nil =>
    show (Outline.ofPattern (literal c)).followedBy .empty = _
    rw [ofPattern_literal]
    rfl
  | cons c' p ih =>
    show (Outline.ofPattern (literal c)).followedBy
      (Outline.ofPattern (sequence ((c' :: p).map literal))) = _
    rw [ofPattern_literal, ih]
    rfl

theorem ofPattern_literals_textEnd (c : Char) (p : List Char) :
    Outline.ofPattern (sequence ((c :: p).map literal ++ [assert .textEnd])) =
      .concat [.literal (c :: p), .assert .textEnd] := by
  induction p generalizing c with
  | nil =>
    show (Outline.ofPattern (literal c)).followedBy (.assert .textEnd) = _
    rw [ofPattern_literal]
    rfl
  | cons c' p ih =>
    show (Outline.ofPattern (literal c)).followedBy
      (Outline.ofPattern (sequence ((c' :: p).map literal ++ [assert .textEnd]))) = _
    rw [ofPattern_literal, ih]
    rfl

theorem ofPattern_textStart_literals (c : Char) (p : List Char) :
    Outline.ofPattern (sequence (assert .textStart :: (c :: p).map literal)) =
      .concat [.assert .textStart, .literal (c :: p)] := by
  show (Outline.assert .textStart).followedBy
    (Outline.ofPattern (sequence ((c :: p).map literal))) = _
  rw [ofPattern_literals]
  rfl

/-- What is a fact of no part is no leading fact. -/
theorem leading_eq_false {fact : Outline.Facts → Bool} {parts : List Outline.Facts}
    (h : ∀ f ∈ parts, fact f = false) : Outline.Facts.leading fact parts = false := by
  induction parts with
  | nil => rfl
  | cons f rest ih =>
    have hrest : Outline.Facts.leading fact rest = false := by
      apply ih
      intro g hg
      exact h g (List.mem_cons_of_mem _ hg)
    rw [Outline.Facts.leading, h f List.mem_cons_self, hrest, Bool.and_false, Bool.or_false]

/-- Characters after the start of the text are within the limit up to this number of bytes. -/
theorem isSmall_textStart_literals (p : List Char) :
    (sequence (assert .textStart :: p.map literal)).isSmall = true ↔ byteCount p ≤ 327674 := by
  cases p with
  | nil => exact iff_of_true (by decide +kernel) (Nat.zero_le _)
  | cons c p =>
    -- nothing ties the pattern to the end, so reading backwards may begin anywhere
    have htoEnd : (Outline.concat [.assert .textStart, .literal (c :: p)]).facts.toEnd = false := by
      apply leading_eq_false
      intro f hf
      rcases List.mem_pair.mp hf with rfl | rfl
      · rfl
      · rfl
    have hforwards : (Footprint.forwards (.concat [.assert .textStart, .literal (c :: p)])).bytes =
        96 + 32 * byteCount (c :: p) + 64 := rfl
    have hbackwards :
        (Footprint.backwards (.concat [.assert .textStart, .literal (c :: p)])).bytes =
          112 + 32 * byteCount (c :: p) + 64 := by
      rw [Footprint.backwards, htoEnd]
      rfl
    -- a byte of the text takes a state of 32 bytes in each machine; the rest is fixed
    rw [isSmall, ofPattern_textStart_literals]
    simp only [Footprint.isOver, hforwards, hbackwards, Footprint.limit, Bool.and_eq_true,
      Bool.not_eq_true', decide_eq_false_iff_not]
    omega

/-- Characters before the end of the text are within the limit up to this number of bytes. -/
theorem isSmall_literals_textEnd (p : List Char) :
    (sequence (p.map literal ++ [assert .textEnd])).isSmall = true ↔ byteCount p ≤ 327672 := by
  cases p with
  | nil => exact iff_of_true (by decide +kernel) (Nat.zero_le _)
  | cons c p =>
    -- nothing ties the pattern to the start, so reading forwards may begin anywhere
    have hfromStart :
        (Outline.concat [.literal (c :: p), .assert .textEnd]).facts.fromStart = false := by
      apply leading_eq_false
      intro f hf
      rcases List.mem_pair.mp hf with rfl | rfl
      · rfl
      · rfl
    have hforwards : (Footprint.forwards (.concat [.literal (c :: p), .assert .textEnd])).bytes =
        144 + 32 * byteCount (c :: p) + 96 := by
      rw [Footprint.forwards, hfromStart]
      rfl
    have hbackwards : (Footprint.backwards (.concat [.literal (c :: p), .assert .textEnd])).bytes =
        64 + 32 * byteCount (c :: p) + 32 := rfl
    rw [isSmall, ofPattern_literals_textEnd]
    simp only [Footprint.isOver, hforwards, hbackwards, Footprint.limit, Bool.and_eq_true,
      Bool.not_eq_true', decide_eq_false_iff_not]
    omega

theorem withinLimit_startsWith_iff {p : String} :
    WithinLimit (Subject.patternText .startsWith p) ↔ byteCount p.toList ≤ 327674 := by
  rw [WithinLimit, ofText?_startsWith, ← isSmall_textStart_literals]
  simp only [Option.some.injEq, forall_eq']

theorem withinLimit_endsWith_iff {p : String} :
    WithinLimit (Subject.patternText .endsWith p) ↔ byteCount p.toList ≤ 327672 := by
  rw [WithinLimit, ofText?_endsWith, ← isSmall_literals_textEnd]
  simp only [Option.some.injEq, forall_eq']

end Pattern

/-! ## The keywords for beginnings and ends -/

namespace Value

/-- A text that passes a test, or a list with such an item. -/
def HasText (test : String → Prop) (v : Value) : Prop :=
  (∃ text, v = .string text ∧ test text) ∨
    ∃ items text, v = .array items ∧ .string text ∈ items ∧ test text

/-- A test of texts, as a search applies it to values. -/
def passesText (test : String → Bool) : Value → Bool
  | .string s => test s
  | _ => false

theorem passesText_iff {test : String → Bool} {v : Value} :
    passesText test v = true ↔ ∃ text, v = .string text ∧ test text = true := by
  cases v with
  | string s => simp [passesText]
  | _ => simp [passesText]

theorem anyPasses_text_iff {test : String → Bool} {value : Option Value} :
    anyPasses (passesText test) value = true ↔
      ∃ v, value = some v ∧ v.HasText fun text => test text = true := by
  cases value with
  | none => simp [anyPasses]
  | some v =>
    cases v with
    | array items =>
      rw [anyPasses, List.any_eq_true]
      constructor
      · rintro ⟨item, hitem, hpasses⟩
        rcases passesText_iff.mp hpasses with ⟨text, rfl, htext⟩
        exact ⟨_, rfl, Or.inr ⟨items, text, rfl, hitem, htext⟩⟩
      · rintro ⟨v, hv, ⟨text, rfl, -⟩ | ⟨items', text, rfl, hitem, htext⟩⟩
        · cases hv
        · cases hv
          exact ⟨_, hitem, passesText_iff.mpr ⟨text, rfl, htext⟩⟩
    | string s => simp [anyPasses, passesText, HasText]
    | _ => simp [anyPasses, passesText, HasText]

/-- A search for a pattern finds it in a text, or in an item that is a text. -/
theorem passes_pattern {written : String} {q : Pattern} (h : Pattern.parse? written = some q)
    (value : Option Value) :
    passes [("$regex", .string written)] value "$regex" (.string written) =
      .ok (anyPasses (passesText q.foundIn) value) := by
  have hread : readPattern (.string written) (optionsOf [("$regex", .string written)]) = .ok q := by
    have hoptions : optionsOf [("$regex", .string written)] = "" := rfl
    rw [hoptions]
    unfold readPattern
    -- how the pattern is read does not matter here, and is not to be looked into
    generalize Pattern.parse? = parse at h ⊢
    simp [patternOptions, h]
  show (readPattern (.string written) (optionsOf [("$regex", .string written)]) >>= fun pattern =>
    pure (anyPasses (passesText pattern.foundIn) value)) = _
  rw [hread]
  rfl

end Value

namespace Lowering

variable {l : Lowering} {schema : Schema} {field : Field} {d : Document} {p : String}

/-- The keywords for beginnings and ends are literal: with any document they are accepted, and they
select it exactly when its value at the field is a text that begins or ends with the operand, or a
list with such an item. -/
structure FindsAffixes (l : Lowering) (f : Field) (p : String) (d : Document) : Prop where
  startsWith : ∃ b, l.Answers [(f.suffixed "startswith", .string p)] d b ∧
    (b = true ↔ ∃ v, Document.get? d f.name = some v ∧
      v.HasText fun text => p.toList <+: text.toList)
  endsWith : ∃ b, l.Answers [(f.suffixed "endswith", .string p)] d b ∧
    (b = true ↔ ∃ v, Document.get? d f.name = some v ∧
      v.HasText fun text => p.toList <:+ text.toList)

/-- Where the suffixes reach the field, the keywords are literal. -/
theorem findsAffixes_of_reached (hl : l.schema? = some schema) (hs : schema.WellFormed)
    (hfield : schema.field? field.name = some field) (hqueryable : field.queryable = true)
    (hlast : field.name.toList.getLast? ≠ some '_')
    (hstart : Pattern.WithinLimit (Subject.patternText .startsWith p))
    (hend : Pattern.WithinLimit (Subject.patternText .endsWith p)) (d : Document) :
    l.FindsAffixes field p d := by
  have hlegal := hs.legal_of_field? hfield
  have hvalue : Document.getPath? d field.name = Document.get? d field.name :=
    Document.getPath?_of_legalName hlegal d
  have happlies := applies_of_suffix hl hs hfield hlast
  -- both suffixes become a pattern, which is found exactly where the text is that affix
  constructor
  · have hreached := happlies "startswith" (.filter .startsWith) rfl (.string p)
    have hparse := Pattern.parse?_of_withinLimit hstart (Pattern.ofText?_startsWith p)
    refine ⟨_, (hreached.answers_operator hqueryable hlegal.plain rfl (fun w => w) rfl).mpr
      ⟨_, rfl, Value.passes_pattern hparse _⟩, ?_⟩
    rw [Value.anyPasses_text_iff, hvalue]
    simp only [Pattern.foundIn_textStart_literals, List.isPrefixOf_iff_prefix]
  · have hreached := happlies "endswith" (.filter .endsWith) rfl (.string p)
    have hparse := Pattern.parse?_of_withinLimit hend (Pattern.ofText?_endsWith p)
    refine ⟨_, (hreached.answers_operator hqueryable hlegal.plain rfl (fun w => w) rfl).mpr
      ⟨_, rfl, Value.passes_pattern hparse _⟩, ?_⟩
    rw [Value.anyPasses_text_iff, hvalue]
    simp only [Pattern.foundIn_literals_textEnd]

/-- A suffix that leads into another field is not literal: it misses a text that begins with the
operand, or selects a document without a value. -/
theorem not_findsAffixes_of_diverts (hl : l.schema? = some schema) (hs : schema.WellFormed)
    (hlegal : LegalName field.name) (hdiverts : schema.Diverts field.name) :
    ∃ d, ¬ l.FindsAffixes field p d := by
  rcases hdiverts with ⟨stem, other, hstem, hother, hmapping⟩
  have hlegal' : LegalName (stem ++ "_") := hstem ▸ hlegal
  have hmiss : ∀ w, w = Value.string p ∨ w = (Value.string p).readId →
      Value.meets none w = .ok false := by
    rintro w (rfl | rfl)
    · rfl
    · rw [Value.readId]
      split
      · rfl
      · rfl
  have hanswers : ∀ d, stem ∉ Document.keys d →
      l.Answers [(field.suffixed "startswith", .string p)] d (!other.queryable) := by
    intro d hd
    rw [Field.suffixed, hstem]
    exact answers_of_diverted hl hs hlegal' hother hmapping (.filter .startsWith) rfl
      rfl hmiss hd
  cases hqueryable : other.queryable with
  | true =>
    -- the operand itself begins with the operand
    refine ⟨[(field.name, .string p)], fun hfinds => ?_⟩
    rcases hfinds.startsWith with ⟨b, hb, hiff⟩
    have hne : stem ∉ Document.keys [(field.name, Value.string p)] := by
      intro hmem
      have hsame : stem = stem ++ "_" := (List.mem_singleton.mp hmem).trans hstem
      simpa using congrArg String.length hsame
    have hmissed := hb.unique (hanswers _ hne)
    rw [hqueryable] at hmissed
    have hfound := hiff.mpr ⟨.string p, Document.get?_cons_self _ _ _,
      Or.inl ⟨p, rfl, List.prefix_refl _⟩⟩
    rw [hmissed] at hfound
    cases hfound
  | false =>
    -- filters leave the other field out of account, so everything is selected
    refine ⟨[], fun hfinds => ?_⟩
    rcases hfinds.startsWith with ⟨b, hb, hiff⟩
    have hselected := hb.unique (hanswers [] List.not_mem_nil)
    rw [hqueryable] at hselected
    rcases hiff.mp hselected with ⟨v, hv, -⟩
    cases hv

/-- The keywords for beginnings and ends of texts are literal on every document, for every operand
within the limit to the size of patterns, exactly when the name of the field does not end in an
underscore. -/
theorem affixes_are_literal_iff {draft : SchemaDraft} (hbuild : draft.build = .ok schema)
    (policy : SuffixPolicy) (hfield : schema.field? field.name = some field)
    (hqueryable : field.queryable = true)
    (hstart : Pattern.WithinLimit (Subject.patternText .startsWith p))
    (hend : Pattern.WithinLimit (Subject.patternText .endsWith p)) :
    (∀ d, FindsAffixes { schema? := some schema, policy } field p d) ↔
      field.name.toList.getLast? ≠ some '_' := by
  have hs := SchemaDraft.build_wellFormed hbuild
  have hlegal := hs.legal_of_field? hfield
  constructor
  · intro hfinds hlast
    -- the keyword has a filter, so it leads into another field
    rcases hfinds [] with ⟨⟨b, ⟨filter, hfilter, -⟩, -⟩, -⟩
    rcases bind_eq_ok.mp hfilter with ⟨made, hmade, -⟩
    rcases exists_step_of_foldlM hmade _ List.mem_cons_self with ⟨c, c', hstep⟩
    have hdiverts := diverts_of_addFilter rfl hs hlegal hlast (.filter .startsWith) rfl hstep
    have hmissed : ∃ d, ¬ FindsAffixes { schema? := some schema, policy } field p d :=
      not_findsAffixes_of_diverts rfl hs hlegal hdiverts
    rcases hmissed with ⟨d, hd⟩
    exact hd (hfinds d)
  · intro hlast d
    exact findsAffixes_of_reached rfl hs hfield hqueryable hlast hstart hend d

/-- An operand of characters with a meaning is literal at a list of texts. At a number behind a
mapping of almost the same name, no operand is. -/
theorem affixes_are_literal_iff_of_marks :
    Pattern.WithinLimit (Subject.patternText .startsWith "a.*\né(") ∧
    Pattern.WithinLimit (Subject.patternText .endsWith "a.*\né(") ∧
    (∀ d, FindsAffixes
      { schema? := some ⟨⟨"t"⟩, [{ name := "tags", type := .array .string }]⟩ }
      { name := "tags", type := .array .string } "a.*\né(" d) ∧
    ¬ ∀ d, FindsAffixes { schema? := some underscored } { name := "a_", type := .int }
      "a.*\né(" d := by
  have hstart : Pattern.WithinLimit (Subject.patternText .startsWith "a.*\né(") :=
    Pattern.withinLimit_startsWith_iff.mpr (by decide)
  have hend : Pattern.WithinLimit (Subject.patternText .endsWith "a.*\né(") :=
    Pattern.withinLimit_endsWith_iff.mpr (by decide)
  have hbuild : SchemaDraft.build
      { collection := "t", fields := [{ name := "tags", type := .array .string }] } =
      .ok ⟨⟨"t"⟩, [{ name := "tags", type := .array .string }]⟩ :=
    SchemaDraft.build_one_field rfl rfl (by decide) rfl
  have htags := @affixes_are_literal_iff ⟨⟨"t"⟩, [{ name := "tags", type := .array .string }]⟩
    { name := "tags", type := .array .string } _ _ hbuild .reject rfl rfl hstart hend
  have hdiverted := @affixes_are_literal_iff underscored { name := "a_", type := .int } _ _
    build_underscored .reject rfl rfl hstart hend
  exact ⟨hstart, hend, htags.mpr (by decide), fun hfinds => hdiverted.mp hfinds rfl⟩

/-- A text that begins with the operand is not found where the keyword leads into a mapping. -/
theorem affix_misses_underscored_field :
    let schema : Schema :=
      ⟨⟨"t"⟩, [{ name := "a", type := .mapping }, { name := "a_", type := .string }]⟩
    let d : Document := [("_id", .int32 1), ("a", .document []), ("a_", .string "xy")]
    SchemaDraft.build
      { collection := "t"
        fields := [{ name := "a", type := .mapping }, { name := "a_", type := .string }] } =
      .ok schema ∧
    schema.field? "a_" = some { name := "a_", type := .string } ∧
    Document.get? d "a_" = some (.string "xy") ∧ "x".toList <+: "xy".toList ∧
    Answers { schema? := some schema } [("a_" ++ "__" ++ "startswith", .string "x")] d false := by
  intro schema d
  have hmissed : Document.satisfies d [("a._startswith", .string "x")] = .ok false := by
    rw [Document.satisfies_singleton rfl]
    rfl
  exact ⟨rfl, rfl, rfl, by decide, ⟨[("a._startswith", .string "x")], rfl, hmissed⟩⟩

end Lowering

end DocMapper
