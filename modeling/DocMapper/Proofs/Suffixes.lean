import DocMapper.Proofs.Document
import DocMapper.Proofs.Drafts

namespace DocMapper

/-! # Names of fields before suffixes

A keyword is cut at pairs of underscores from the left. The name of a field has no pair, but it may
end in one underscore; the pair that is then found first begins inside the name, and what is left of
the separator goes to the suffix. So the vocabulary of suffixes reaches exactly the fields whose
names do not end in an underscore, and a keyword for any other field is read as equality inside the
field that its name begins with.
-/

namespace Text

variable {c : Char} {s : List Char}

/-- A text that is not cut, and does not end in the separator, is the first segment of what
continues it behind a pair. -/
theorem cutPairs_append (hpairless : (cutPairs c s).2 = []) (hlast : s.getLast? ≠ some c)
    (rest : List Char) :
    cutPairs c (s ++ c :: c :: rest) = (s, (cutPairs c rest).1 :: (cutPairs c rest).2) := by
  fun_induction cutPairs c s with
  | case1 => simp [cutPairs]
  | case2 x =>
    have hx : x ≠ c := fun he => hlast (by rw [he]; rfl)
    simp [cutPairs, hx]
  | case3 => simp at hpairless
  | case4 x y others hxy first more heq ih =>
    rw [heq] at ih
    have htail := ih hpairless (by rwa [List.getLast?_cons_cons] at hlast)
    rw [List.cons_append, List.cons_append, cutPairs, if_neg hxy, ← List.cons_append, htail]

/-- A text that is not cut and ends in the separator has a single one there. -/
theorem pairless_of_concat (h : (cutPairs c (s ++ [c])).2 = []) :
    (cutPairs c s).2 = [] ∧ s.getLast? ≠ some c := by
  fun_induction cutPairs c s with
  | case1 => simp
  | case2 x =>
    refine ⟨rfl, ?_⟩
    rintro hx
    rw [List.getLast?_singleton, Option.some.injEq] at hx
    simp [cutPairs, hx] at h
  | case3 x y others hxy => simp [cutPairs, hxy] at h
  | case4 x y others hxy first more heq ih =>
    rw [heq] at ih
    rw [List.cons_append, List.cons_append, cutPairs, if_neg hxy, ← List.cons_append] at h
    rw [List.getLast?_cons_cons]
    exact ih h

/-- A text without the separator is one segment, also behind a single separator. -/
theorem cutPairs_of_not_mem (h : c ∉ s) : cutPairs c s = (s, []) := by
  fun_induction cutPairs c s with
  | case1 => rfl
  | case2 => rfl
  | case3 x y others hxy => exact absurd (hxy.1 ▸ List.mem_cons_self) h
  | case4 x y others hxy first more heq ih =>
    have htail := ih fun hmem => h (List.mem_cons_of_mem _ hmem)
    rw [heq, Prod.mk.injEq] at htail
    rw [htail.1, htail.2]

theorem cutPairs_cons_of_not_mem (h : c ∉ s) : cutPairs c (c :: s) = (c :: s, []) := by
  cases s with
  | nil => rfl
  | cons x rest =>
    have hx : ¬ (c = c ∧ x = c) := fun he => h (he.2 ▸ List.mem_cons_self)
    rw [cutPairs, if_neg hx, cutPairs_of_not_mem h]

end Text

namespace Operator

variable {suffix : String} {operator : Operator}

/-- Suffixes are words. -/
theorem word_of_ofSuffix? (h : ofSuffix? suffix = some operator) :
    suffix.toList ≠ [] ∧ '_' ∉ suffix.toList := by
  have hall : ∀ entry ∈ suffixes, entry.1.toList ≠ [] ∧ '_' ∉ entry.1.toList := by decide
  obtain ⟨_, _, hentry, -⟩ := List.lookup_eq_some_iff.mp h
  exact hall (suffix, operator) (hentry ▸ by simp)

/-- No suffix has an underscore. -/
theorem ofSuffix?_eq_none (h : '_' ∈ suffix.toList) : ofSuffix? suffix = none :=
  Option.eq_none_iff_forall_ne_some.mpr fun _ hsome => (word_of_ofSuffix? hsome).2 h

end Operator

/-- What a keyword addresses that is the name of a field: all of it. -/
def Field.subject (f : Field) : Subject where
  path := f.name
  type? := some f.type
  isId := f.name = Document.idKey
  queryable := f.queryable

/-- The name of a field with a suffix behind it. -/
def Field.suffixed (f : Field) (suffix : String) : String := f.name ++ "__" ++ suffix

/-! ## Taking a name with a suffix apart -/

/-- A keyword of two segments. -/
theorem Keyword.parse_of_cutPairs {key : String} {first last : List Char}
    (h : Text.cutPairs '_' key.toList = (first, [last])) :
    parse key =
      if first = [] ∨ last = [] then .error (.query (.emptySegment key))
      else .ok (ofSegments (String.ofList first) [String.ofList last]) := by
  simp [parse, h]

/-- A text that ends in an underscore has something before it. -/
theorem exists_stem {name : String} (h : name.toList.getLast? = some '_') :
    ∃ stem, name = stem ++ "_" := by
  obtain ⟨before, hbefore⟩ := List.getLast?_eq_some_iff.mp h
  exact ⟨String.ofList before, String.toList_inj.mp (by simp [hbefore])⟩

namespace LegalName

variable {name stem suffix : String} {operator : Operator}

/-- What stands before a final underscore of a name has no pair of underscores and does not end in
one. -/
theorem pairless_stem (h : LegalName (stem ++ "_")) :
    (Text.cutPairs '_' stem.toList).2 = [] ∧ stem.toList.getLast? ≠ some '_' := by
  have hpairless := h.pairless
  rw [String.toList_append] at hpairless
  exact Text.pairless_of_concat hpairless

/-- A name that does not end in an underscore is taken apart from the suffix behind it. -/
theorem parse_suffixed (h : LegalName name) (hlast : name.toList.getLast? ≠ some '_')
    (hoperator : Operator.ofSuffix? suffix = some operator) :
    Keyword.parse (name ++ "__" ++ suffix) = .ok { field := name, inner := [], operator } := by
  obtain ⟨hne, hword⟩ := Operator.word_of_ofSuffix? hoperator
  have hname : name.toList ≠ [] := fun he => h.nonempty (String.toList_eq_nil_iff.mp he)
  have hchars : (name ++ "__" ++ suffix).toList = name.toList ++ '_' :: '_' :: suffix.toList := by
    simp
  have hcut : Text.cutPairs '_' (name ++ "__" ++ suffix).toList =
      (name.toList, [suffix.toList]) := by
    rw [hchars, Text.cutPairs_append h.pairless hlast, Text.cutPairs_of_not_mem hword]
  rw [Keyword.parse_of_cutPairs hcut, if_neg (not_or.mpr ⟨hname, hne⟩)]
  simp [Keyword.ofSegments, hoperator]

/-- A name that ends in an underscore loses it to the suffix behind it. What is left is the field
of the keyword, if it is not empty, and the keyword asks for equality inside it. -/
theorem parse_suffixed_of_last (h : LegalName (stem ++ "_"))
    (hoperator : Operator.ofSuffix? suffix = some operator) :
    Keyword.parse (stem ++ "_" ++ "__" ++ suffix) =
      if stem = "" then .error (.query (.emptySegment (stem ++ "_" ++ "__" ++ suffix)))
      else .ok { field := stem, inner := ["_" ++ suffix], operator := .filter .eq } := by
  obtain ⟨-, hword⟩ := Operator.word_of_ofSuffix? hoperator
  obtain ⟨hpairless, hlast⟩ := h.pairless_stem
  have hchars : (stem ++ "_" ++ "__" ++ suffix).toList =
      stem.toList ++ '_' :: '_' :: '_' :: suffix.toList := by
    simp
  have hcut : Text.cutPairs '_' (stem ++ "_" ++ "__" ++ suffix).toList =
      (stem.toList, ['_' :: suffix.toList]) := by
    rw [hchars, Text.cutPairs_append hpairless hlast, Text.cutPairs_cons_of_not_mem hword]
  have hsegment : String.ofList ('_' :: suffix.toList) = "_" ++ suffix :=
    String.toList_inj.mp (by simp)
  have hnone : Operator.ofSuffix? ("_" ++ suffix) = none :=
    Operator.ofSuffix?_eq_none (by simp)
  rw [Keyword.parse_of_cutPairs hcut, String.ofList_toList, hsegment]
  simp [Keyword.ofSegments, hnone]

end LegalName

/-! ## Applying an operator to a field -/

namespace Lowering

variable {l : Lowering} {schema : Schema} {field : Field} {suffix key : String}
  {operator : Operator} {v : Value}

/-- A condition touches the path of its subject only. -/
theorem lookup_of_constrain {s : Subject} {o : FilterOperator} {draft draft' : FilterDraft}
    (h : s.constrain o v draft = .ok draft') {path : String} (hne : path ≠ s.path) :
    draft'.lookup path = draft.lookup path := by
  obtain ⟨own, -, -, hall⟩ := Subject.constrain_eq_ok h
  rw [hall draft, Except.ok.injEq] at h
  rw [← h, FilterDraft.lookup_modify, if_neg hne.symm]

/-- What an operator adds to a filter when it is applied to a field. -/
def filterAt (field : Field) (key : String) (operator : Operator) (v : Value)
    (draft : FilterDraft) : Except Error FilterDraft :=
  match operator with
  | .update _ => .error (.query (.updateInFilter key))
  | .filter o => if field.queryable then field.subject.constrain o v draft else .ok draft

/-- What an operator adds to an update when it is applied to a field. -/
def updateAt (field : Field) (key : String) (operator : Operator) (v : Value)
    (draft : UpdateDraft) : Except Error UpdateDraft :=
  match operator with
  | .update .set => (field.subject.stored v).map fun w =>
      { draft with set := Document.insert draft.set field.name w }
  | .update .inc => (field.subject.increment key v).map fun w =>
      { draft with inc := Document.insert draft.inc field.name w }
  | .filter o =>
    if field.queryable then
      (field.subject.constrain o v draft.filter).map fun filter => { draft with filter }
    else .ok draft

/-- In a filter, an operator at a field touches the path of the field only. -/
theorem lookup_of_filterAt {draft draft' : FilterDraft}
    (h : filterAt field key operator v draft = .ok draft') {path : String}
    (hne : path ≠ field.name) : draft'.lookup path = draft.lookup path := by
  cases operator with
  | update o => cases h
  | filter o =>
    simp only [filterAt] at h
    split at h
    · exact lookup_of_constrain h hne
    · cases h
      rfl

/-- In an update, an operator at a field touches the path of the field only. -/
theorem lookup_of_updateAt {draft draft' : UpdateDraft}
    (h : updateAt field key operator v draft = .ok draft') {path : String}
    (hne : path ≠ field.name) :
    draft'.filter.lookup path = draft.filter.lookup path ∧
      Document.get? draft'.set path = Document.get? draft.set path ∧
      Document.get? draft'.inc path = Document.get? draft.inc path := by
  -- each operator writes in one place of the draft, at the path of the field
  cases operator with
  | filter o =>
    simp only [updateAt] at h
    split at h
    · obtain ⟨filter, hfilter, rfl⟩ := map_eq_ok.mp h
      exact ⟨lookup_of_constrain hfilter hne, rfl, rfl⟩
    · cases h
      exact ⟨rfl, rfl, rfl⟩
  | update o =>
    cases o with
    | set =>
      obtain ⟨w, -, rfl⟩ := map_eq_ok.mp h
      exact ⟨rfl, Document.get?_insert_of_ne hne.symm _ _, rfl⟩
    | inc =>
      obtain ⟨w, -, rfl⟩ := map_eq_ok.mp h
      exact ⟨rfl, rfl, Document.get?_insert_of_ne hne.symm _ _⟩

/-- A keyword argument applies an operator to a field, in filters and in updates, and touches
nothing else. -/
structure Applies (l : Lowering) (key : String) (v : Value) (operator : Operator)
    (field : Field) : Prop where
  filters : ∀ draft, l.addFilter draft (key, v) = filterAt field key operator v draft
  updates : ∀ draft, l.addUpdate draft (key, v) = updateAt field key operator v draft
  filtersAlone : ∀ draft draft', l.addFilter draft (key, v) = .ok draft' →
    ∀ path, path ≠ field.name → draft'.lookup path = draft.lookup path
  updatesAlone : ∀ draft draft', l.addUpdate draft (key, v) = .ok draft' →
    ∀ path, path ≠ field.name →
      draft'.filter.lookup path = draft.filter.lookup path ∧
      Document.get? draft'.set path = Document.get? draft.set path ∧
      Document.get? draft'.inc path = Document.get? draft.inc path

/-- A keyword that is taken apart into the name of a field and an operator applies the operator to
the field. -/
theorem applies_of_parse (hl : l.schema? = some schema)
    (hfield : schema.field? field.name = some field)
    (hparse : Keyword.parse key = .ok { field := field.name, inner := [], operator }) (v : Value) :
    l.Applies key v operator field := by
  have hsubject : l.subject key { field := field.name, inner := [], operator } =
      .ok field.subject := subject_of_name hl hfield key
  have hfilters : ∀ draft, l.addFilter draft (key, v) = filterAt field key operator v draft := by
    intro draft
    simp only [addFilter, hparse, ok_bind, hsubject]
    cases operator <;> rfl
  have hupdates : ∀ draft, l.addUpdate draft (key, v) = updateAt field key operator v draft := by
    intro draft
    simp only [addUpdate, hparse, ok_bind, hsubject]
    rcases operator with o | o | o <;> rfl
  constructor
  · exact hfilters
  · exact hupdates
  · intro draft draft' h path hne
    rw [hfilters] at h
    exact lookup_of_filterAt h hne
  · intro draft draft' h path hne
    rw [hupdates] at h
    exact lookup_of_updateAt h hne

/-- A keyword that is taken apart inside the name of a field addresses a place inside another
field, whose name is what is left of it. -/
theorem inside_of_suffixed (hl : l.schema? = some schema) (hs : schema.WellFormed) {stem : String}
    (hpairless : (Text.cutPairs '_' stem.toList).2 = []) (hlast : stem.toList.getLast? ≠ some '_')
    {s : Subject}
    (h : l.subject key { field := stem, inner := ["_" ++ suffix], operator } = .ok s) :
    ∃ other, schema.field? other.name = some other ∧ other.name = stem ∧
      s.path = stem ++ "._" ++ suffix := by
  simp only [subject, hl, bind_eq_ok, pure_eq_ok] at h
  obtain ⟨other, hother, rfl⟩ := h
  obtain ⟨hsome, hname⟩ := name_of_fieldOf hother
  have hliteral : (Keyword.mk stem ["_" ++ suffix] operator).literal.toList =
      stem.toList ++ '_' :: '_' :: '_' :: suffix.toList := by
    simp [Keyword.literal, Keyword.path]
  have hdotted : (Keyword.mk stem ["_" ++ suffix] operator).dotted = stem ++ "._" ++ suffix :=
    String.toList_inj.mp (by simp [Keyword.dotted, Keyword.path])
  -- no field has the whole keyword as its name, since a name has no pair of underscores
  have hne : other.name ≠ (Keyword.mk stem ["_" ++ suffix] operator).literal := by
    intro heq
    have hwhole := (hs.legal_of_field? hsome).pairless
    rw [heq, hliteral, Text.cutPairs_append hpairless hlast] at hwhole
    cases hwhole
  refine ⟨other, hsome, hname.resolve_right hne, ?_⟩
  simp [Keyword.isNested, hne, hdotted]

/-- The suffixes of the vocabulary reach a field of a schema, the identifier included, exactly when
its name does not end in an underscore. They then apply their operators to it and to no other field.
Behind a name that ends in one, the keyword asks for equality at a place inside the field that is
named by the rest, or is malformed when nothing is left. -/
theorem suffix_reaches_field_iff {draft : SchemaDraft} (hbuild : draft.build = .ok schema)
    (hfield : schema.field? field.name = some field)
    (hoperator : Operator.ofSuffix? suffix = some operator) :
    (Keyword.parse (field.suffixed suffix) = .ok { field := field.name, inner := [], operator } ↔
      field.name.toList.getLast? ≠ some '_') ∧
    (field.name.toList.getLast? ≠ some '_' → ∀ policy v,
      Applies { schema? := some schema, policy } (field.suffixed suffix) v operator field) ∧
    (∀ stem, field.name = stem ++ "_" →
      (stem = "" → Keyword.parse (field.suffixed suffix) =
        .error (.query (.emptySegment (field.suffixed suffix)))) ∧
      (stem ≠ "" → Keyword.parse (field.suffixed suffix) =
        .ok { field := stem, inner := ["_" ++ suffix], operator := .filter .eq }) ∧
      ∀ policy k s, Keyword.parse (field.suffixed suffix) = .ok k →
        subject { schema? := some schema, policy } (field.suffixed suffix) k = .ok s →
        ∃ other, schema.field? other.name = some other ∧ other.name = stem ∧
          s.path = stem ++ "._" ++ suffix) := by
  have hs := SchemaDraft.build_wellFormed hbuild
  have hlegal := hs.legal_of_field? hfield
  -- the separator that counts is the leftmost: behind the name, or one character earlier
  have hreached : field.name.toList.getLast? ≠ some '_' →
      Keyword.parse (field.suffixed suffix) = .ok { field := field.name, inner := [], operator } :=
    fun hlast => hlegal.parse_suffixed hlast hoperator
  have hmissed : ∀ stem, field.name = stem ++ "_" → Keyword.parse (field.suffixed suffix) =
      if stem = "" then .error (.query (.emptySegment (field.suffixed suffix)))
      else .ok { field := stem, inner := ["_" ++ suffix], operator := .filter .eq } := by
    intro stem hstem
    rw [Field.suffixed, hstem]
    exact (hstem ▸ hlegal).parse_suffixed_of_last hoperator
  refine ⟨⟨?_, hreached⟩, ?_, ?_⟩
  · intro hparse hlast
    obtain ⟨stem, hstem⟩ := exists_stem hlast
    rw [hmissed stem hstem] at hparse
    split at hparse
    · cases hparse
    · simp at hparse
  · intro hlast policy v
    exact applies_of_parse rfl hfield (hreached hlast) v
  · intro stem hstem
    refine ⟨fun hempty => (hmissed stem hstem).trans (if_pos hempty),
      fun hne => (hmissed stem hstem).trans (if_neg hne), ?_⟩
    intro policy k s hparse hsubject
    rw [hmissed stem hstem] at hparse
    split at hparse
    · cases hparse
    · cases hparse
      obtain ⟨hpairless, hlast⟩ := LegalName.pairless_stem (hstem ▸ hlegal)
      -- the stem was then declared, and the path goes into it
      exact inside_of_suffixed rfl hs hpairless hlast hsubject

/-- A mapping and a number, whose name is the one of the mapping with an underscore behind it. -/
def underscored : Schema :=
  ⟨⟨"t"⟩, [{ name := "a", type := .mapping }, { name := "a_", type := .int }]⟩

theorem build_underscored : SchemaDraft.build
    { collection := "t"
      fields := [{ name := "a", type := .mapping }, { name := "a_", type := .int }] } =
    .ok underscored := rfl

/-- The theorem at both fields of a schema: the mapping is reached, and the number is not. -/
theorem suffix_reaches_field_underscored :
    Keyword.parse "a__gte" = .ok { field := "a", inner := [], operator := .filter .gte } ∧
    (∀ policy v, Applies { schema? := some underscored, policy } "a__gte" v (.filter .gte)
      { name := "a", type := .mapping }) ∧
    Keyword.parse "a___gte" = .ok { field := "a", inner := ["_gte"], operator := .filter .eq } := by
  have hmapping := @suffix_reaches_field_iff underscored { name := "a", type := .mapping } "gte"
    (.filter .gte) _ build_underscored rfl rfl
  have hnumber := @suffix_reaches_field_iff underscored { name := "a_", type := .int } "gte"
    (.filter .gte) _ build_underscored rfl rfl
  exact ⟨hmapping.1.mpr (by decide), hmapping.2.1 (by decide),
    (hnumber.2.2 "a" rfl).2.1 (by decide)⟩

/-- Asking for a number of at least one asks for equality inside the mapping. -/
theorem suffix_misses_underscored_field :
    SchemaDraft.build
      { collection := "t"
        fields := [{ name := "a", type := .mapping }, { name := "a_", type := .int }] } =
      .ok underscored ∧
    Operator.ofSuffix? "gte" = some (.filter .gte) ∧
    underscored.field? "a_" = some { name := "a_", type := .int } ∧
    Keyword.parse ("a_" ++ "__" ++ "gte") =
      .ok { field := "a", inner := ["_gte"], operator := .filter .eq } ∧
    Lowering.filter { schema? := some underscored } [("a_" ++ "__" ++ "gte", .int32 1)] =
      .ok [("a._gte", .int32 1)] :=
  ⟨build_underscored, rfl, rfl, rfl, rfl⟩

end Lowering

end DocMapper
