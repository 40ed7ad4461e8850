import Mathlib.Data.List.Basic
import DocMapper.Proofs.Checks
import DocMapper.Keyword
import DocMapper.Schema.Basic

namespace DocMapper

/-! # Names, keywords and paths

The rules for field names keep the two separators out of them: a name is one segment of a keyword
and one segment of a path. A keyword or a path that starts with a name therefore has the name as
its first segment.
-/

namespace Text

/-- A text without the separator is one segment. -/
theorem cut_of_not_mem {c : Char} {s : List Char} (h : c ∉ s) : cut c s = (s, []) := by
  induction s with
  | nil => rfl
  | cons x rest ih =>
    rw [List.mem_cons, not_or] at h
    have hx : x ≠ c := fun he => h.1 he.symm
    simp [cut, ih h.2, hx]

/-- What stands before the first separator is the first segment. -/
theorem cut_append {c : Char} {s : List Char} (h : c ∉ s) (rest : List Char) :
    cut c (s ++ c :: rest) = (s, (cut c rest).1 :: (cut c rest).2) := by
  induction s with
  | nil => simp [cut]
  | cons x s ih =>
    rw [List.mem_cons, not_or] at h
    have hx : x ≠ c := fun he => h.1 he.symm
    simp [cut, ih h.2, hx]

/-- A text that is not cut is its own first segment. -/
theorem cut_fst_of_snd_eq_nil {c : Char} {s : List Char} (h : (cut c s).2 = []) :
    (cut c s).1 = s := by
  induction s with
  | nil => rfl
  | cons x rest ih =>
    rw [cut] at h ⊢
    by_cases hx : x = c
    · simp [hx] at h
    · simp only [if_neg hx] at h ⊢
      rw [ih h]

/-- A text that is not cut at pairs is its own first segment. -/
theorem cutPairs_fst_of_snd_eq_nil {c : Char} {s : List Char} (h : (cutPairs c s).2 = []) :
    (cutPairs c s).1 = s := by
  fun_induction cutPairs c s with
  | case1 => rfl
  | case2 => rfl
  | case3 => simp at h
  | case4 x y rest hxy first others heq ih =>
    rw [heq] at ih
    exact congrArg (x :: ·) (ih h)

/-- A text with a pair in it is cut. -/
theorem cutPairs_snd_ne_nil (c : Char) (s rest : List Char) :
    (cutPairs c (s ++ c :: c :: rest)).2 ≠ [] := by
  fun_induction cutPairs c s with
  | case1 => simp [cutPairs]
  | case2 x =>
    by_cases hx : x = c
    · simp [cutPairs, hx]
    · simp [cutPairs, hx]
  | case3 x y others hxy => simp [cutPairs, hxy]
  | case4 x y others hxy first more heq ih =>
    rw [List.cons_append, List.cons_append, cutPairs, if_neg hxy]
    exact ih

end Text

/-- A path of one segment is the segment. -/
theorem Path.head_of_rest_eq_nil {path : String} (h : (Path.ofString path).rest = []) :
    (Path.ofString path).head = path := by
  have hcut : (Text.cut '.' path.toList).2 = [] := List.map_eq_nil_iff.mp h
  have hhead : (Path.ofString path).head = String.ofList (Text.cut '.' path.toList).1 := rfl
  rw [hhead, Text.cut_fst_of_snd_eq_nil hcut, String.ofList_toList]

/-- A path without dots has one segment. -/
theorem Path.ofString_of_dotless {path : String} (h : '.' ∉ path.toList) :
    Path.ofString path = ⟨path, []⟩ := by
  simp [Path.ofString, Text.cut_of_not_mem h]

/-- What the rules for field names give: a name is not empty, has no dot and no pair of
underscores, and is no operator. -/
structure LegalName (name : String) : Prop where
  nonempty : name ≠ ""
  dotless : '.' ∉ name.toList
  pairless : (Text.cutPairs '_' name.toList).2 = []
  plain : isOperatorKey name = false

namespace LegalName

theorem of_checkName {name : String} (h : Field.checkName name = .ok ()) : LegalName name := by
  simp only [Field.checkName] at h
  split at h
  · cases h
  rename_i hempty
  split at h
  · cases h
  split at h
  · cases h
  split at h
  · cases h
  rename_i hplain
  split at h
  · cases h
  rename_i hdot
  split at h
  · cases h
  rename_i hpair
  exact ⟨by simpa using hempty, hdot, by simpa using hpair, by simpa using hplain⟩

/-- The name of the identifier is legal, though no schema declares it. -/
theorem id : LegalName Document.idKey :=
  ⟨by decide, by decide, by decide, by decide⟩

/-- A name is a keyword that asks for equality. -/
theorem parse {name : String} (h : LegalName name) :
    Keyword.parse name = .ok { field := name, inner := [], operator := .filter .eq } := by
  have hfirst := Text.cutPairs_fst_of_snd_eq_nil h.pairless
  have hne : name.toList ≠ [] := fun he => h.nonempty (String.toList_eq_nil_iff.mp he)
  simp only [Keyword.parse]
  rw [h.pairless, hfirst]
  simp [hne, Keyword.ofSegments]

/-- A name is a path of one segment. -/
theorem path {name : String} (h : LegalName name) : Path.ofString name = ⟨name, []⟩ :=
  Path.ofString_of_dotless h.dotless

/-- A dotted path that starts with a name has it as its first segment, and goes on. -/
theorem path_intercalate {name : String} (h : LegalName name) {inner : List String}
    (hne : inner ≠ []) :
    (Path.ofString (String.intercalate "." (name :: inner))).head = name ∧
      (Path.ofString (String.intercalate "." (name :: inner))).rest ≠ [] := by
  obtain ⟨next, others, rfl⟩ := List.exists_cons_of_ne_nil hne
  simp [Path.ofString, Text.cut_append h.dotless]

/-- A name is not what a nested keyword looks like as it is written. -/
theorem ne_literal {name : String} (h : LegalName name) {k : Keyword} (hk : k.isNested = true) :
    name ≠ k.literal := by
  rintro rfl
  obtain ⟨next, others, hinner⟩ : ∃ next others, k.inner = next :: others :=
    List.exists_cons_of_ne_nil fun he => by simp [Keyword.isNested, he] at hk
  have hpairless := h.pairless
  rw [Keyword.literal, Keyword.path, hinner, String.intercalate_cons_cons, String.toList_append,
    String.toList_append] at hpairless
  exact Text.cutPairs_snd_ne_nil '_' k.field.toList _ (by simpa using hpairless)

end LegalName

namespace Document

/-- Reading at a path without dots is reading its key. -/
theorem getPath?_of_dotless {path : String} (h : '.' ∉ path.toList) (d : Document) :
    getPath? d path = get? d path := by
  rw [getPath?, Path.ofString_of_dotless h, at?]
  cases get? d path with
  | none => rfl
  | some v => cases v <;> rfl

theorem getPath?_of_legalName {name : String} (h : LegalName name) (d : Document) :
    getPath? d name = get? d name :=
  getPath?_of_dotless h.dotless d

end Document

end DocMapper
