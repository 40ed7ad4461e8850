import DocMapper.Proofs.Selection
import DocMapper.Proofs.Stores

namespace DocMapper

/-! # What deletions take away

Counting, finding and deleting all documents match every document, so that one that cannot be
matched is an error for all three. Where it is none, they speak of the same documents: those that
are found are those that are counted, and those that a deletion takes away. A deletion of one
document stops at the first that is found.
-/

namespace Document

variable {filter d : Document} {before after docs : List Document}

/-- The filter selects the document. A document that cannot be matched is not selected. -/
def selects (filter d : Document) : Bool := (satisfies d filter).toOption.getD false

theorem selects_eq {b : Bool} (h : satisfies d filter = .ok b) : filter.selects d = b := by
  rw [selects, h]
  rfl

/-- A selection has an answer for every document. -/
theorem satisfies_of_select {selected : List Document} (h : select filter docs = .ok selected)
    (hd : d ∈ docs) : satisfies d filter = .ok (filter.selects d) := by
  obtain ⟨b, hb⟩ := exists_satisfies_of_select h hd
  rw [hb, selects_eq hb]

theorem eq_filter_of_select {selected : List Document} (h : select filter docs = .ok selected) :
    selected = docs.filter filter.selects :=
  Except.ok.inj (h.symm.trans (select_of_satisfies fun _ => satisfies_of_select h))

/-! ## Removals -/

/-- A removal of all that is selected fails as finding does, and leaves the rest in order. -/
theorem removeAll_eq (filter : Document) (docs : List Document) :
    removeAll filter docs = (select filter docs).map fun selected =>
      (selected.length, docs.filter fun d => !filter.selects d) := by
  induction docs with
  | nil => rfl
  | cons d rest ih =>
    rw [removeAll, select, ih]
    cases hd : satisfies d filter with
    | error e => rfl
    | ok b =>
      cases select filter rest with
      | error e => rfl
      | ok selected =>
        have hb := selects_eq hd
        cases b <;> simp [hb, Except.map, pure, Except.pure]

/-- A removal of one document takes the first that is selected, and looks no further. -/
theorem removeFirst_of_selected (hbefore : ∀ e ∈ before, satisfies e filter = .ok false)
    (hd : satisfies d filter = .ok true) :
    removeFirst filter (before ++ d :: after) = .ok (1, before ++ after) := by
  induction before with
  | nil =>
    rw [List.nil_append, removeFirst, hd]
    rfl
  | cons e rest ih =>
    rw [List.cons_append, removeFirst, hbefore e List.mem_cons_self, ok_bind, if_neg (by decide),
      ih fun c hc => hbefore c (List.mem_cons_of_mem _ hc)]
    rfl

theorem removeFirst_of_spared (h : ∀ d ∈ docs, satisfies d filter = .ok false) :
    removeFirst filter docs = .ok (0, docs) := by
  induction docs with
  | nil => rfl
  | cons d rest ih =>
    rw [removeFirst, h d List.mem_cons_self, ok_bind, if_neg (by decide),
      ih fun e he => h e (List.mem_cons_of_mem _ he)]
    rfl

end Document

namespace Store

variable {s : Store} {filter : Document} {found : List Document}

/-- A deletion of all documents takes away what is found. Nothing is left to count. -/
theorem deleteMany_of_find (h : s.find filter {} = .ok found) :
    s.deleteMany filter = .ok (found.length,
        { s with documents := s.documents.filter fun d => !filter.selects d }) ∧
      count { s with documents := s.documents.filter fun d => !filter.selects d } filter =
        .ok 0 := by
  rw [find_default_eq] at h
  constructor
  · rw [deleteMany, Document.removeAll_eq, h]
    rfl
  · have hleft : ∀ d ∈ s.documents.filter fun d => !filter.selects d,
        Document.satisfies d filter = .ok false := by
      intro d hd
      obtain ⟨hmem, hnot⟩ := List.mem_filter.mp hd
      rw [Document.satisfies_of_select h hmem, (Bool.not_eq_true' _).mp hnot]
    rw [count, Document.select_eq_nil.mpr hleft]
    rfl

/-- A deletion of one document takes away the first that is found. -/
theorem deleteOne_of_find_cons {first : Document} {rest : List Document}
    (h : s.find filter {} = .ok (first :: rest)) :
    ∃ before after, s.documents = before ++ first :: after ∧
      (∀ d ∈ before, filter.selects d = false) ∧
      s.deleteOne filter = .ok (1, { s with documents := before ++ after }) := by
  rw [find_default_eq] at h
  obtain ⟨before, after, hdocs, hbefore, hfirst⟩ := Document.select_eq_cons h
  refine ⟨before, after, hdocs, fun d hd => Document.selects_eq (hbefore d hd), ?_⟩
  rw [deleteOne, hdocs, Document.removeFirst_of_selected hbefore hfirst]
  rfl

theorem deleteOne_of_find_nil (h : s.find filter {} = .ok []) :
    s.deleteOne filter = .ok (0, s) := by
  rw [find_default_eq] at h
  rw [deleteOne, Document.removeFirst_of_spared (Document.select_eq_nil.mp h)]
  rfl

/-- Counting and deleting all documents fail exactly where finding does. Where it finds documents,
they are those that the filter selects: their number is what is counted, deleting all of them leaves
the others in their order and nothing to count, and deleting one takes the first of them out of its
place, if there is one. -/
theorem deletions_take_what_is_found (s : Store) (filter : Document) :
    s.count filter = (s.find filter {}).map List.length ∧
    (∀ e, s.find filter {} = .error e → s.deleteMany filter = .error e) ∧
    ∀ found, s.find filter {} = .ok found →
      (∀ d ∈ s.documents, Document.satisfies d filter = .ok (filter.selects d)) ∧
      found = s.documents.filter filter.selects ∧
      (∃ s', s.deleteMany filter = .ok (found.length, s') ∧
        s' = { s with documents := s.documents.filter fun d => !filter.selects d } ∧
        s'.count filter = .ok 0) ∧
      (found = [] → s.deleteOne filter = .ok (0, s)) ∧
      ∀ first rest, found = first :: rest →
        ∃ before after, s.documents = before ++ first :: after ∧
          (∀ d ∈ before, filter.selects d = false) ∧
          s.deleteOne filter = .ok (1, { s with documents := before ++ after }) := by
  refine ⟨?_, ?_, ?_⟩
  · rw [count, find_default_eq]
    cases Document.select filter s.documents <;> rfl
  · intro e h
    rw [find_default_eq] at h
    rw [deleteMany, Document.removeAll_eq, h]
    rfl
  · intro found h
    obtain ⟨hdelete, hcount⟩ := deleteMany_of_find h
    have hselect := (find_default_eq s filter).symm.trans h
    refine ⟨fun d hd => Document.satisfies_of_select hselect hd,
      Document.eq_filter_of_select hselect, ⟨_, hdelete, rfl, hcount⟩, ?_, ?_⟩
    · rintro rfl
      exact deleteOne_of_find_nil h
    · rintro first rest rfl
      exact deleteOne_of_find_cons h

/-- The theorem at a filter that selects the second of three documents by its value, and the third
because it has none. -/
theorem deletions_take_what_is_found_missing :
    ∃ s : Store,
      s.documents = [[("_id", .string "a"), ("kind", .string "new")],
        [("_id", .string "b"), ("kind", .string "old")], [("_id", .string "c")]] ∧
      s.count [("kind", .document [("$ne", .string "new")])] = .ok 2 ∧
      (∃ s', s.deleteMany [("kind", .document [("$ne", .string "new")])] = .ok (2, s') ∧
        s'.documents = [[("_id", .string "a"), ("kind", .string "new")]]) ∧
      ∃ before after,
        s.documents = before ++ [("_id", .string "b"), ("kind", .string "old")] :: after ∧
        s.deleteOne [("kind", .document [("$ne", .string "new")])] =
          .ok (1, { s with documents := before ++ after }) := by
  let filter : Document := [("kind", .document [("$ne", .string "new")])]
  let s : Store :=
    { documents := [[("_id", .string "a"), ("kind", .string "new")],
        [("_id", .string "b"), ("kind", .string "old")], [("_id", .string "c")]]
      ids := ⟨fun _ => ⟨0⟩, 0⟩ }
  have hfind : s.find filter {} =
      .ok [[("_id", .string "b"), ("kind", .string "old")], [("_id", .string "c")]] := rfl
  obtain ⟨hcount, -, hfound⟩ := deletions_take_what_is_found s filter
  obtain ⟨-, -, ⟨s', hmany, hleft, -⟩, -, hone⟩ := hfound _ hfind
  obtain ⟨before, after, hdocs, -, hone⟩ := hone _ _ rfl
  rw [hfind] at hcount
  exact ⟨s, rfl, hcount, ⟨s', hmany, hleft ▸ rfl⟩, before, after, hdocs, hone⟩

end Store

end DocMapper
