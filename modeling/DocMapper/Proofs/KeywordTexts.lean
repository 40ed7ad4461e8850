import Mathlib.Data.List.Infix
import DocMapper.Proofs.Suffixes

namespace DocMapper

/-! # Keywords as texts

A keyword is cut at its pairs of underscores, each pair taken as far to the left as it can be. This
describes one list of segments for every text, and the text is the segments joined by pairs again.
What is taken off as the operator can be put back, because a suffix belongs to one operator only. So
a keyword is written in one way.
-/

/-! ## Cutting a text at pairs -/

namespace Text

variable {c x : Char} {s rest : List Char} {pieces : List (List Char)}

/-- The pieces of a text between pairs of a separator. A pair ends its piece as soon as it can: up
to the first letter of the pair there is no other one. -/
inductive CutsAtPairs (c : Char) : List Char → List (List Char) → Prop
  | last {s : List Char} (h : ¬ [c, c] <:+: s) : CutsAtPairs c s [s]
  | pair {s rest : List Char} {pieces : List (List Char)} (h : ¬ [c, c] <:+: s ++ [c])
      (hrest : CutsAtPairs c rest pieces) : CutsAtPairs c (s ++ c :: c :: rest) (s :: pieces)

/-- A text is not cut exactly when it has no pair. -/
theorem cutPairs_snd_eq_nil_iff : (cutPairs c s).2 = [] ↔ ¬ [c, c] <:+: s := by
  constructor
  · rintro h ⟨before, after, rfl⟩
    rw [List.append_assoc] at h
    exact cutPairs_snd_ne_nil c before after h
  · intro h
    fun_induction cutPairs c s with
    | case1 => rfl
    | case2 => rfl
    | case3 x y rest hxy =>
      obtain ⟨rfl, rfl⟩ := hxy
      exact absurd ⟨[], rest, rfl⟩ h
    | case4 x y rest hxy first others heq ih =>
      rw [heq] at ih
      exact ih fun hpair => h (hpair.trans (List.suffix_cons x _).isInfix)

/-- A letter before a text makes no pair unless it is the separator before another one. -/
theorem no_pair_cons (h : ¬ [c, c] <:+: s) (hx : x = c → s.head? ≠ some c) :
    ¬ [c, c] <:+: x :: s := by
  intro hpair
  rcases List.infix_cons_iff.mp hpair with ⟨rest, hrest⟩ | htail
  · obtain ⟨rfl, rfl⟩ := List.cons.inj hrest
    exact hx rfl rfl
  · exact h htail

namespace CutsAtPairs

theorem ne_nil (h : CutsAtPairs c s pieces) : pieces ≠ [] := by
  cases h with
  | last => exact List.cons_ne_nil _ _
  | pair => exact List.cons_ne_nil _ _

/-- A letter that makes no pair goes to the first piece. -/
theorem cons {first : List Char} {others : List (List Char)}
    (h : CutsAtPairs c s (first :: others)) (hx : x = c → s.head? ≠ some c) :
    CutsAtPairs c (x :: s) ((x :: first) :: others) := by
  cases h with
  | last h => exact .last (no_pair_cons h hx)
  | @pair _ rest _ h hrest =>
    have hhead : (first ++ c :: c :: rest).head? = (first ++ [c]).head? := by
      cases first <;> rfl
    exact .pair (s := x :: first) (no_pair_cons h fun he => hhead ▸ hx he) hrest

/-- The pieces joined by pairs are the text. -/
theorem intercalate_eq (h : CutsAtPairs c s pieces) : [c, c].intercalate pieces = s := by
  induction h with
  | last => exact List.intercalate_singleton
  | pair _ hrest ih =>
    obtain ⟨next, others, rfl⟩ := List.exists_cons_of_ne_nil hrest.ne_nil
    rw [List.intercalate_cons_cons, ih, List.append_assoc]
    rfl

/-- No piece has a pair in it. -/
theorem no_pair (h : CutsAtPairs c s pieces) : ∀ piece ∈ pieces, ¬ [c, c] <:+: piece := by
  induction h with
  | last h =>
    intro piece hpiece
    rwa [List.mem_singleton.mp hpiece]
  | pair h _ ih =>
    intro piece hpiece
    rcases List.mem_cons.mp hpiece with rfl | hmem
    · exact fun hpair => h (hpair.trans (List.prefix_append _ _).isInfix)
    · exact ih piece hmem

end CutsAtPairs

/-- Cutting finds the pieces, and there are no others. -/
theorem cutsAtPairs_iff :
    CutsAtPairs c s pieces ↔ pieces = (cutPairs c s).1 :: (cutPairs c s).2 := by
  constructor
  · intro h
    induction h with
    | last h =>
      have hnil := cutPairs_snd_eq_nil_iff.mpr h
      rw [hnil, cutPairs_fst_of_snd_eq_nil hnil]
    -- with half of the pair the piece has no pair yet, so this pair is the leftmost
    | pair h _ ih =>
      obtain ⟨hpairless, hlast⟩ := pairless_of_concat (cutPairs_snd_eq_nil_iff.mpr h)
      rw [cutPairs_append hpairless hlast, ih]
  · rintro rfl
    -- the function stops at the leftmost pair, and only there
    fun_induction cutPairs c s with
    | case1 => exact .last (by simp)
    | case2 x => exact .last fun h => absurd h.length_le (by simp)
    | case3 x y rest hxy first others heq ih =>
      obtain ⟨rfl, rfl⟩ := hxy
      rw [heq] at ih
      exact .pair (s := []) (fun h => absurd h.length_le (by simp)) ih
    | case4 x y rest hxy first others heq ih =>
      rw [heq] at ih
      exact ih.cons fun hx hy => hxy ⟨hx, Option.some.inj hy⟩

end Text

/-! ## Suffixes and their operators -/

namespace Operator

variable {suffix : String} {operator : Operator}

/-- The vocabulary has one suffix for each of its operators, and none for equality. -/
theorem suffix?_of_ofSuffix? (h : ofSuffix? suffix = some operator) :
    suffix? operator = some suffix ∧ operator ≠ .filter .eq := by
  have hall : ∀ entry ∈ suffixes, suffix? entry.2 = some entry.1 ∧ entry.2 ≠ .filter .eq := by
    decide
  obtain ⟨_, _, hentry, -⟩ := List.lookup_eq_some_iff.mp h
  exact hall (suffix, operator) (hentry ▸ by simp)

theorem exists_ofSuffix?_iff :
    (∃ operator, ofSuffix? suffix = some operator) ↔ suffix ∈ suffixes.map (·.1) := by
  rw [← Option.isSome_iff_exists, ofSuffix?, List.lookup_isSome_iff, List.mem_map]
  refine exists_congr fun entry => and_congr_right fun _ => ?_
  rw [beq_iff_eq, eq_comm]

end Operator

/-! ## Keywords and the texts that they are written as -/

namespace Keyword

variable {key first : String} {others segments : List String} {k : Keyword}

/-- The segments of a key, which lie between its pairs of underscores. -/
def HasSegments (key : String) (segments : List String) : Prop :=
  Text.CutsAtPairs '_' key.toList (segments.map String.toList)

/-- The text of a keyword: the segments of its path, and the suffix of its operator if it has one,
joined by pairs of underscores. -/
def written (k : Keyword) : String :=
  match k.operator.suffix? with
  | none => k.literal
  | some suffix => k.literal ++ "__" ++ suffix

theorem hasSegments_iff : HasSegments key segments ↔
    segments = ((Text.cutPairs '_' key.toList).1 :: (Text.cutPairs '_' key.toList).2).map
      String.ofList := by
  rw [HasSegments, Text.cutsAtPairs_iff]
  constructor
  · intro h
    rw [← h]
    simp
  · rintro rfl
    simp

theorem exists_hasSegments (key : String) : ∃ first others, HasSegments key (first :: others) :=
  ⟨_, _, hasSegments_iff.mpr rfl⟩

theorem HasSegments.unique (h : HasSegments key segments) {other : List String} :
    HasSegments key other ↔ other = segments := by
  rw [hasSegments_iff, hasSegments_iff.mp h]

/-- The segments of a key joined by pairs of underscores are the key. -/
theorem HasSegments.intercalate_eq (h : HasSegments key segments) :
    String.intercalate "__" segments = key := by
  rw [← String.toList_inj, String.toList_intercalate]
  exact Text.CutsAtPairs.intercalate_eq h

/-- A key is taken apart into its segments, if none of them is empty. -/
theorem parse_of_hasSegments (h : HasSegments key (first :: others)) :
    parse key = if "" ∈ first :: others then .error (.query (.emptySegment key))
      else .ok (ofSegments first others) := by
  obtain ⟨hfirst, hothers⟩ := List.cons.inj (Text.cutsAtPairs_iff.mp h)
  have hcut : Text.cutPairs '_' key.toList = (first.toList, others.map String.toList) :=
    Prod.ext hfirst.symm hothers.symm
  have hempty : (first.toList :: others.map String.toList).any (·.isEmpty) = true ↔
      "" ∈ first :: others := by
    rw [← List.map_cons, List.any_map, List.any_eq_true]
    constructor
    · rintro ⟨segment, hmem, hsegment⟩
      have hnil : segment = "" := String.toList_eq_nil_iff.mp (List.isEmpty_iff.mp hsegment)
      exact hnil ▸ hmem
    · exact fun hmem => ⟨"", hmem, rfl⟩
  have hback : (others.map String.toList).map String.ofList = others := by simp
  simp only [parse, hcut, hempty, String.ofList_toList, hback]

/-- The last segment is taken off as the operator if it is in the vocabulary and not the first
one. -/
theorem ofSegments_cases (first : String) (others : List String) :
    (∃ inner last operator, others = inner ++ [last] ∧
      Operator.ofSuffix? last = some operator ∧
      ofSegments first others = { field := first, inner, operator }) ∨
    ((∀ inner last, others = inner ++ [last] → Operator.ofSuffix? last = none) ∧
      ofSegments first others = { field := first, inner := others, operator := .filter .eq }) := by
  rcases List.eq_nil_or_concat others with rfl | ⟨inner, last, hconcat⟩
  · refine Or.inr ⟨fun inner last h => ?_, rfl⟩
    cases inner <;> cases h
  · rw [List.concat_eq_append] at hconcat
    subst hconcat
    cases hlast : Operator.ofSuffix? last with
    | none =>
      refine Or.inr ⟨fun inner' last' h => ?_, ?_⟩
      · rw [← (List.append_singleton_inj.mp h).2, hlast]
      · simp [ofSegments, hlast]
    | some operator =>
      refine Or.inl ⟨inner, last, operator, rfl, hlast, ?_⟩
      simp [ofSegments, hlast]

/-- What segments are put together to is written as the segments joined by pairs of underscores. -/
theorem written_ofSegments (first : String) (others : List String) :
    (ofSegments first others).written = String.intercalate "__" (first :: others) := by
  rcases ofSegments_cases first others with ⟨inner, last, operator, rfl, hlast, hk⟩ | ⟨-, hk⟩
  · rw [hk, written, (Operator.suffix?_of_ofSuffix? hlast).1, ← List.cons_append,
      String.intercalate_append_of_ne_nil (List.cons_ne_nil _ _) (List.cons_ne_nil _ _),
      String.intercalate_singleton]
    rfl
  · rw [hk]
    rfl

/-- A keyword as it is read from the segments of a key. -/
structure Reads (key : String) (segments : List String) (k : Keyword) : Prop where
  path_ne_nil : k.path ≠ []
  segment : ∀ segment ∈ k.path, segment ≠ "" ∧ ¬ ['_', '_'] <:+: segment.toList
  written : k.written = key
  explicit : k.operator ≠ .filter .eq ↔ ∃ front last, segments = front ++ [last] ∧ front ≠ [] ∧
    last ∈ Operator.suffixes.map (·.1)

theorem reads_ofSegments (h : HasSegments key (first :: others)) (hempty : "" ∉ first :: others) :
    Reads key (first :: others) (ofSegments first others) := by
  have hsegment : ∀ segment ∈ first :: others,
      segment ≠ "" ∧ ¬ ['_', '_'] <:+: segment.toList := by
    intro segment hmem
    refine ⟨fun he => hempty (he ▸ hmem), ?_⟩
    exact Text.CutsAtPairs.no_pair h _ (List.mem_map_of_mem hmem)
  have hwritten : (ofSegments first others).written = key :=
    (written_ofSegments first others).trans h.intercalate_eq
  -- the last segment is an operator, unless it is the only one
  rcases ofSegments_cases first others with ⟨inner, last, operator, rfl, hlast, hk⟩ | ⟨hnone, hk⟩
  · refine ⟨List.cons_ne_nil _ _, ?_, hwritten, ?_⟩
    · rw [hk]
      intro segment hmem
      exact hsegment segment (List.mem_append_left [last] hmem)
    · rw [hk]
      exact iff_of_true (Operator.suffix?_of_ofSuffix? hlast).2 ⟨first :: inner, last, rfl,
        List.cons_ne_nil _ _, Operator.exists_ofSuffix?_iff.mp ⟨operator, hlast⟩⟩
  · refine ⟨List.cons_ne_nil _ _, ?_, hwritten, ?_⟩
    · rw [hk]
      exact hsegment
    · rw [hk]
      refine iff_of_false (fun h => h rfl) ?_
      rintro ⟨front, last, happend, hfront, hlast⟩
      obtain ⟨head, inner, rfl⟩ := List.exists_cons_of_ne_nil hfront
      obtain ⟨operator, hoperator⟩ := Operator.exists_ofSuffix?_iff.mpr hlast
      have hlast := hnone inner last (List.cons.inj happend).2
      cases hlast.symm.trans hoperator

/-- What a key is taken apart into is written as the key. -/
theorem written_of_parse (h : parse key = .ok k) : k.written = key := by
  obtain ⟨first, others, hsegments⟩ := exists_hasSegments key
  rw [parse_of_hasSegments hsegments] at h
  split at h
  · cases h
  · rw [← Except.ok.inj h, written_ofSegments, hsegments.intercalate_eq]

/-- A key falls into segments in one way, and it is taken apart exactly when none of them is empty.
The keyword then has a path of such segments, without a pair in any of them; written out it is the
key again, so that no other key gives the same path and operator; and its operator is one of the
vocabulary exactly when the last segment is, and is not the only one. -/
theorem parse_loses_nothing (key : String) :
    ∃ segments, (∀ other, HasSegments key other ↔ other = segments) ∧
      ((∃ k, parse key = .ok k) ↔ "" ∉ segments) ∧
      ∀ k, parse key = .ok k → Reads key segments k ∧
        ∀ key' k', parse key' = .ok k' → k'.path = k.path → k'.operator = k.operator →
          key' = key := by
  obtain ⟨first, others, hsegments⟩ := exists_hasSegments key
  have hparse := parse_of_hasSegments hsegments
  refine ⟨first :: others, fun other => hsegments.unique, ?_, fun k hk => ⟨?_, ?_⟩⟩
  · -- an empty segment is the only reason to refuse a key
    rw [hparse]
    split
    · rename_i hempty
      exact iff_of_false (fun ⟨k, hk⟩ => by cases hk) fun h => h hempty
    · rename_i hempty
      exact iff_of_true ⟨_, rfl⟩ hempty
  · rw [hparse] at hk
    split at hk
    · cases hk
    · rename_i hempty
      rw [← Except.ok.inj hk]
      exact reads_ofSegments hsegments hempty
  · intro key' k' hk' hpath hoperator
    -- path and operator are all that is written
    have hsame : k'.written = k.written := by
      rw [written, written, literal, literal, hpath, hoperator]
    rw [← written_of_parse hk, ← written_of_parse hk', hsame]

/-- The theorem at a key with three underscores in a row, and at one with four. -/
theorem parse_loses_nothing_underscored :
    let k : Keyword := { field := "a", inner := ["_b"], operator := .filter .gte }
    parse "a___b__gte" = .ok k ∧ k.written = "a___b__gte" ∧ k.operator ≠ .filter .eq ∧
      (∀ key' k', parse key' = .ok k' → k'.path = ["a", "_b"] → k'.operator = .filter .gte →
        key' = "a___b__gte") ∧
      ∃ segments, HasSegments "a____b" segments ∧ "" ∈ segments := by
  intro k
  have hk : parse "a___b__gte" = .ok k := rfl
  obtain ⟨segments, -, -, hall⟩ := parse_loses_nothing "a___b__gte"
  obtain ⟨hreads, hunique⟩ := hall k hk
  obtain ⟨segments', hsegments', hparses, -⟩ := parse_loses_nothing "a____b"
  have hrefused : ¬ ∃ k, parse "a____b" = .ok k := by
    rintro ⟨k, hk⟩
    cases hk
  refine ⟨hk, hreads.written, by decide, hunique, segments', (hsegments' segments').mpr rfl, ?_⟩
  by_contra hempty
  exact hrefused (hparses.mpr hempty)

end Keyword

end DocMapper
