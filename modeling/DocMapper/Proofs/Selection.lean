import DocMapper.Model.Basic
import DocMapper.Proofs.Actions
import DocMapper.Proofs.Document

namespace DocMapper

/-! # What readings select

A reading by keyword arguments takes the documents that its filter selects, in the order of
identifiers, and reads them as instances. What it answers is said here in terms of the selected
documents.
-/

namespace Document

variable {d filter : Document} {docs selected : List Document}

/-! ## Filters whose parts do not fail -/

/-- When every part of a filter has an answer, the filter asks for all of them. -/
theorem satisfies_of_holds {test : String × Value → Bool}
    (h : ∀ entry ∈ filter, holds d entry.1 entry.2 = .ok (test entry)) :
    satisfies d filter = .ok (filter.all test) := by
  induction filter with
  | nil => rfl
  | cons entry rest ih =>
    obtain ⟨key, condition⟩ := entry
    rw [satisfies, h _ List.mem_cons_self, ok_bind,
      ih fun entry hentry => h entry (List.mem_cons_of_mem _ hentry), List.all_cons]
    cases test (key, condition) <;> rfl

/-- When every clause has an answer, some clause has to select the document. -/
theorem satisfiesAny_of_satisfies {α : Type} {l : List α} {clause : α → Document}
    {test : α → Bool} (h : ∀ a ∈ l, satisfies d (clause a) = .ok (test a)) :
    satisfiesAny d (l.map fun a => .document (clause a)) = .ok (l.any test) := by
  induction l with
  | nil => rfl
  | cons a rest ih =>
    rw [List.map_cons, satisfiesAny, h _ List.mem_cons_self, ok_bind,
      ih fun c hc => h c (List.mem_cons_of_mem _ hc), List.any_cons]
    cases test a <;> rfl

/-- What a filter selects of two lists of documents, it selects of them in a row. -/
theorem select_append {more others : List Document} (h : select filter docs = .ok selected)
    (hmore : select filter more = .ok others) :
    select filter (docs ++ more) = .ok (selected ++ others) := by
  induction docs generalizing selected with
  | nil =>
    cases h
    exact hmore
  | cons d rest ih =>
    rw [select] at h
    obtain ⟨b, hb, h⟩ := bind_eq_ok.mp h
    obtain ⟨after, hafter, h⟩ := bind_eq_ok.mp h
    rw [List.cons_append, select, hb, ok_bind, ih hafter, ok_bind, ← pure_eq_ok.mp h]
    cases b <;> rfl

/-- A filter that has an answer for every document selects like a test. -/
theorem select_of_satisfies {test : Document → Bool}
    (h : ∀ d ∈ docs, satisfies d filter = .ok (test d)) :
    select filter docs = .ok (docs.filter test) := by
  induction docs with
  | nil => rfl
  | cons d rest ih =>
    rw [select, h _ List.mem_cons_self, ok_bind,
      ih fun d hd => h d (List.mem_cons_of_mem _ hd), ok_bind, List.filter_cons]
    rfl

/-! ## Members of what is selected -/

/-- A filter selects the documents that satisfy it. -/
theorem mem_select (h : select filter docs = .ok selected) :
    d ∈ selected ↔ d ∈ docs ∧ satisfies d filter = .ok true := by
  induction docs generalizing selected with
  | nil =>
    cases h
    simp
  | cons e rest ih =>
    rw [select] at h
    obtain ⟨b, hb, h⟩ := bind_eq_ok.mp h
    obtain ⟨others, hothers, h⟩ := bind_eq_ok.mp h
    rw [← pure_eq_ok.mp h, List.mem_cons]
    -- the first document is kept as its own answer says
    cases b with
    | true =>
      rw [if_pos rfl, List.mem_cons, ih hothers]
      constructor
      · rintro (rfl | ⟨hd, hsat⟩)
        · exact ⟨Or.inl rfl, hb⟩
        · exact ⟨Or.inr hd, hsat⟩
      · rintro ⟨rfl | hd, hsat⟩
        · exact Or.inl rfl
        · exact Or.inr ⟨hd, hsat⟩
    | false =>
      rw [if_neg Bool.false_ne_true, ih hothers]
      constructor
      · rintro ⟨hd, hsat⟩
        exact ⟨Or.inr hd, hsat⟩
      · rintro ⟨rfl | hd, hsat⟩
        · rw [hb] at hsat
          cases hsat
        · exact ⟨hd, hsat⟩

/-- Every document that a selection looks at has an answer. -/
theorem exists_satisfies_of_select (h : select filter docs = .ok selected) (hd : d ∈ docs) :
    ∃ b, satisfies d filter = .ok b := by
  induction docs generalizing selected with
  | nil => exact absurd hd List.not_mem_nil
  | cons e rest ih =>
    rw [select] at h
    obtain ⟨b, hb, h⟩ := bind_eq_ok.mp h
    obtain ⟨others, hothers, -⟩ := bind_eq_ok.mp h
    rcases List.mem_cons.mp hd with rfl | hd
    · exact ⟨b, hb⟩
    · exact ih hothers hd

/-- A filter with an answer for every document selects some of them. -/
theorem exists_select (h : ∀ d ∈ docs, ∃ b, satisfies d filter = .ok b) :
    ∃ selected, select filter docs = .ok selected := by
  have hanswers : ∀ d ∈ docs,
      satisfies d filter = .ok ((satisfies d filter).toOption.getD false) := by
    intro d hd
    obtain ⟨b, hb⟩ := h d hd
    rw [hb]
    rfl
  exact ⟨_, select_of_satisfies hanswers⟩

/-- Nothing is selected when the answer is no for every document. -/
theorem select_eq_nil :
    select filter docs = .ok [] ↔ ∀ d ∈ docs, satisfies d filter = .ok false := by
  constructor
  · intro h d hd
    obtain ⟨b, hb⟩ := exists_satisfies_of_select h hd
    cases b with
    | false => exact hb
    | true => exact absurd ((mem_select h).mpr ⟨hd, hb⟩) List.not_mem_nil
  · intro h
    have hselect : select filter docs = .ok (docs.filter fun _ => false) := select_of_satisfies h
    rw [hselect, List.filter_false]

/-- The first document that is selected is the first for which the answer is yes. -/
theorem select_eq_cons {others : List Document} (h : select filter docs = .ok (d :: others)) :
    ∃ before after, docs = before ++ d :: after ∧
      (∀ e ∈ before, satisfies e filter = .ok false) ∧ satisfies d filter = .ok true := by
  induction docs with
  | nil => cases h
  | cons e rest ih =>
    rw [select] at h
    obtain ⟨b, hb, h⟩ := bind_eq_ok.mp h
    obtain ⟨later, hlater, h⟩ := bind_eq_ok.mp h
    have hsame := pure_eq_ok.mp h
    cases b with
    | true =>
      rw [if_pos rfl, List.cons.injEq] at hsame
      obtain ⟨rfl, -⟩ := hsame
      exact ⟨[], rest, rfl, fun _ he => absurd he List.not_mem_nil, hb⟩
    | false =>
      rw [if_neg Bool.false_ne_true] at hsame
      obtain ⟨before, after, rfl, hbefore, hd⟩ := ih (hsame ▸ hlater)
      exact ⟨e :: before, after, rfl, List.forall_mem_cons.mpr ⟨hb, hbefore⟩, hd⟩

theorem mem_sortBy {sort d : Document} : d ∈ sortBy sort docs ↔ d ∈ docs :=
  (List.mergeSort_perm docs _).mem_iff

theorem sortBy_eq_nil {sort : Document} : sortBy sort docs = [] ↔ docs = [] := by
  rw [sortBy, ← List.length_eq_zero_iff, List.length_mergeSort, List.length_eq_zero_iff]

end Document

namespace Store

variable {filter : Document} {s : Store} {selected : List Document}

/-- Without options, a find reads the selected documents in the order of storage. -/
theorem find_default_eq (s : Store) (filter : Document) :
    s.find filter {} = Document.select filter s.documents := by
  rw [Store.find, Document.find]
  cases Document.select filter s.documents with
  | ok selected => exact congrArg Except.ok (List.map_id _)
  | error e => rfl

theorem find_default (hselect : Document.select filter s.documents = .ok selected) :
    s.find filter {} = .ok selected :=
  (find_default_eq s filter).trans hselect

/-- Ordered by identifiers, a find reads the selected documents in that order. -/
theorem find_ordered (hselect : Document.select filter s.documents = .ok selected) :
    s.find filter ({} : ReadOptions).ordered =
      .ok (Document.sortBy ReadOptions.idSort selected) := by
  rw [Store.find, Document.find, hselect]
  exact congrArg Except.ok (List.map_id _)

/-- Ordered by identifiers, a find of one document reads the first that is selected. -/
theorem findOne_ordered (hselect : Document.select filter s.documents = .ok selected) :
    s.findOne filter ({} : ReadOptions).ordered =
      .ok (Document.sortBy ReadOptions.idSort selected).head? := by
  have hpage : ∀ docs : List Document,
      ((Document.page ({} : ReadOptions).ordered.single docs).map
        (Document.shaped ({} : ReadOptions).ordered.single)).head? = docs.head? := by
    intro docs
    cases docs <;> rfl
  rw [Store.findOne, Store.find, Document.find, hselect]
  exact congrArg Except.ok (hpage _)

end Store

namespace Model

variable {m : Model} {kwargs filter : Document} {s : Store} {selected : List Document}

/-- A document is read as an instance when it has all required fields, and stays as it is. -/
theorem decode_eq_ok {d d' : Document} :
    m.decode d = .ok d' ↔ d' = d ∧ ∀ name ∈ m.required, name ∈ Document.keys d := by
  rw [decode]
  split
  · rename_i name hname
    have hlacks := List.find?_some hname
    constructor
    · intro h
      cases h
    · rintro ⟨-, hall⟩
      rw [Document.hasKey_iff.mpr (hall name (List.mem_of_find?_eq_some hname))] at hlacks
      cases hlacks
  · rename_i hnone
    constructor
    · intro h
      cases h
      refine ⟨rfl, fun name hname => Document.hasKey_iff.mp ?_⟩
      simpa using List.find?_eq_none.mp hnone name hname
    · rintro ⟨rfl, -⟩
      rfl

/-- Documents that are read as instances stay as they are. -/
theorem decodes_eq_ok {docs docs' : List Document} :
    docs.mapM m.decode = .ok docs' ↔ docs' = docs ∧ ∀ d ∈ docs, m.decode d = .ok d := by
  constructor
  · intro h
    have hall := forall₂_of_mapM_eq_ok h
    have hsame : docs = docs' := by
      refine List.forall₂_eq_eq_eq ▸ hall.imp fun d d' hd => ?_
      exact (decode_eq_ok.mp hd).1.symm
    subst hsame
    refine ⟨rfl, fun d hd => ?_⟩
    obtain ⟨d', -, hd'⟩ := forall₂_exists_of_mem hall.flip hd
    cases (decode_eq_ok.mp hd').1
    exact hd'
  · rintro ⟨rfl, hall⟩
    exact mapM_eq_ok_of_forall₂ (List.forall₂_same.mpr hall)

/-- Finding by keyword arguments gives the selected documents, sorted and read as instances. -/
theorem find_apply (hfilter : m.filter kwargs = .ok filter)
    (hselect : Document.select filter s.documents = .ok selected) :
    m.find kwargs {} s =
      ((Document.sortBy ReadOptions.idSort selected).mapM m.decode, s) := by
  rw [find, Action.check_bind_apply hfilter, Model.all,
    Action.read_bind_apply (Store.find_ordered hselect)]
  rfl

theorem count_apply (hfilter : m.filter kwargs = .ok filter)
    (hselect : Document.select filter s.documents = .ok selected) :
    m.count kwargs s = (.ok selected.length, s) := by
  rw [count, Action.check_bind_apply hfilter]
  change (s.count filter, s) = _
  rw [Store.count, hselect]
  rfl

/-- The first instance is the first of the selected documents, read as one. -/
theorem first_apply (hselect : Document.select filter s.documents = .ok selected) :
    m.first filter {} s =
      match (Document.sortBy ReadOptions.idSort selected).head? with
      | some d => ((m.decode d).map some, s)
      | none => (.ok none, s) := by
  rw [first, Action.bind_apply, Action.read, Store.findOne_ordered hselect]
  cases (Document.sortBy ReadOptions.idSort selected).head? with
  | none => rfl
  | some d =>
    dsimp only
    rw [Action.bind_apply, Action.check]
    cases m.decode d <;> rfl

/-- There is no first instance when the filter selects nothing. -/
theorem first_eq_none {s' : Store} :
    m.first filter {} s = (.ok none, s') ↔
      Document.select filter s.documents = .ok [] ∧ s = s' := by
  constructor
  · intro h
    cases hselect : Document.select filter s.documents with
    | error e =>
      -- a filter in error leaves no answer
      have hfind : s.findOne filter ({} : ReadOptions).ordered = .error e := by
        rw [Store.findOne, Store.find, Document.find, hselect]
        rfl
      rw [first, Action.bind_apply, Action.read, hfind] at h
      cases h
    | ok selected =>
      rw [first_apply hselect] at h
      split at h
      · rename_i d _
        cases hdecode : m.decode d with
        | error e =>
          rw [hdecode] at h
          cases h
        | ok d' =>
          rw [hdecode] at h
          cases h
      · rename_i hnone
        cases h
        rw [List.head?_eq_none_iff, Document.sortBy_eq_nil] at hnone
        exact ⟨congrArg Except.ok hnone, rfl⟩
  · rintro ⟨hselect, rfl⟩
    rw [first_apply hselect, Document.sortBy, List.mergeSort_nil]
    rfl

/-- Getting by keyword arguments reads the first of the selected documents as an instance. -/
theorem get_apply (hfilter : m.filter kwargs = .ok filter)
    (hselect : Document.select filter s.documents = .ok selected) :
    m.get kwargs s =
      match (Document.sortBy ReadOptions.idSort selected).head? with
      | some d => (m.decode d, s)
      | none => (.error (.doesNotExist m.schema.name filter), s) := by
  rw [get, Action.check_bind_apply hfilter, Action.bind_apply, first_apply hselect]
  cases (Document.sortBy ReadOptions.idSort selected).head? with
  | none => rfl
  | some d =>
    dsimp only
    cases m.decode d <;> rfl

end Model

end DocMapper
