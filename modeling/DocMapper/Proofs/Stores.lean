import DocMapper.Proofs.Actions
import DocMapper.Proofs.Document

namespace DocMapper

/-! # What operations leave in the store

Updates and replacements change documents where they stand, removals take some out, and an
insertion adds one at the end. These lemmas say which documents an operation leaves.
-/

/-! ## Documents in place -/

/-- A list is related with itself where one member is replaced by a related one. -/
theorem forall₂_set {α : Type} {R : α → α → Prop} (hrefl : ∀ a, R a a) {l : List α} {i : Nat}
    {a b : α} (ha : l[i]? = some a) (hab : R a b) : List.Forall₂ R l (l.set i b) := by
  induction l generalizing i with
  | nil => cases ha
  | cons c rest ih =>
    cases i with
    | zero =>
      rw [List.getElem?_cons_zero, Option.some.injEq] at ha
      exact .cons (ha ▸ hab) (List.forall₂_same.mpr fun x _ => hrefl x)
    | succ i =>
      rw [List.getElem?_cons_succ] at ha
      exact .cons (hrefl c) (ih ha)

namespace Document

/-- An update in place relates each document with itself or with its updated form. -/
theorem updateEach_forall₂ {R : Document → Document → Prop} {changes : Document}
    (hrefl : ∀ d, R d d) (hupdated : ∀ d d', updated d changes = .ok d' → R d d')
    (filter : Document) (many : Bool) (docs : List Document) :
    List.Forall₂ R docs (updateEach filter changes many docs).2 := by
  have hsame : ∀ docs : List Document, List.Forall₂ R docs docs :=
    fun docs => List.forall₂_same.mpr fun d _ => hrefl d
  induction docs with
  | nil => exact .nil
  | cons d rest ih =>
    rw [updateEach]
    split
    · exact hsame _
    · exact .cons (hrefl d) ih
    · split
      · exact hsame _
      · rename_i next hnext
        split
        · exact .cons (hupdated d next hnext) ih
        · exact .cons (hupdated d next hnext) (hsame rest)

section Spared

variable {filter changes : Document} {before docs : List Document} {many : Bool}

/-- An update in place passes over the documents that are not selected. -/
theorem updateEach_append (h : ∀ d ∈ before, satisfies d filter = .ok false) :
    updateEach filter changes many (before ++ docs) =
      ((updateEach filter changes many docs).1,
        before ++ (updateEach filter changes many docs).2) := by
  induction before with
  | nil => rfl
  | cons d rest ih =>
    rw [List.cons_append, updateEach, h d List.mem_cons_self,
      ih fun e he => h e (List.mem_cons_of_mem _ he)]
    rfl

theorem updateEach_of_spared (h : ∀ d ∈ docs, satisfies d filter = .ok false) :
    updateEach filter changes many docs = (.ok {}, docs) := by
  have happend : updateEach filter changes many (docs ++ []) =
      ((updateEach filter changes many []).1, docs ++ (updateEach filter changes many []).2) :=
    updateEach_append h
  rwa [List.append_nil, updateEach, List.append_nil] at happend

/-- A replacement in place passes over the documents that are not selected. -/
theorem replaceFirst_append {replacement : Document}
    (h : ∀ d ∈ before, satisfies d filter = .ok false) :
    replaceFirst filter replacement (before ++ docs) =
      (replaceFirst filter replacement docs).map fun (outcome, after) =>
        (outcome, before ++ after) := by
  induction before with
  | nil => cases hdocs : replaceFirst filter replacement docs <;> simp [hdocs, Except.map]
  | cons d rest ih =>
    rw [List.cons_append, replaceFirst, h d List.mem_cons_self, ok_bind, if_neg (by decide),
      ih fun e he => h e (List.mem_cons_of_mem _ he)]
    cases replaceFirst filter replacement docs <;> rfl

end Spared

variable {filter replacement : Document} {docs docs' : List Document}

/-- A replacement in place relates each document with itself or with what replaces it. -/
theorem replaceFirst_forall₂ {R : Document → Document → Prop} (hrefl : ∀ d, R d d)
    (hreplace : ∀ d d', replace d replacement = .ok d' → R d d') {outcome : Option UpdateReport}
    (h : replaceFirst filter replacement docs = .ok (outcome, docs')) :
    List.Forall₂ R docs docs' := by
  -- up to the first selected document every one stays; behind it too
  induction docs generalizing docs' outcome with
  | nil =>
    cases h
    exact .nil
  | cons d rest ih =>
    rw [replaceFirst] at h
    obtain ⟨selected, -, h⟩ := bind_eq_ok.mp h
    cases selected with
    | true =>
      obtain ⟨next, hnext, h⟩ := bind_eq_ok.mp h
      cases pure_eq_ok.mp h
      exact .cons (hreplace d next hnext) (List.forall₂_same.mpr fun e _ => hrefl e)
    | false =>
      obtain ⟨⟨later, after⟩, hafter, h⟩ := bind_eq_ok.mp h
      cases pure_eq_ok.mp h
      exact .cons (hrefl d) (ih hafter)

/-- After a replacement, a document is an old one or replaces an old one. -/
theorem mem_of_replaceFirst {outcome : Option UpdateReport}
    (h : replaceFirst filter replacement docs = .ok (outcome, docs')) {d' : Document}
    (hd' : d' ∈ docs') : d' ∈ docs ∨ ∃ d ∈ docs, replace d replacement = .ok d' := by
  have hforall := replaceFirst_forall₂ (R := fun d d' => d' = d ∨ replace d replacement = .ok d')
    (fun _ => Or.inl rfl) (fun _ _ hreplace => Or.inr hreplace) h
  obtain ⟨d, hd, rfl | hreplace⟩ := forall₂_exists_of_mem hforall hd'
  · exact Or.inl hd
  · exact Or.inr ⟨d, hd, hreplace⟩

theorem removeFirst_sublist {count : Nat} (h : removeFirst filter docs = .ok (count, docs')) :
    docs'.Sublist docs := by
  induction docs generalizing docs' count with
  | nil =>
    cases h
    exact List.Sublist.slnil
  | cons d rest ih =>
    rw [removeFirst] at h
    obtain ⟨selected, -, h⟩ := bind_eq_ok.mp h
    cases selected with
    | true =>
      cases pure_eq_ok.mp h
      exact List.sublist_cons_self d _
    | false =>
      obtain ⟨⟨n, after⟩, hafter, h⟩ := bind_eq_ok.mp h
      cases pure_eq_ok.mp h
      exact (ih hafter).cons_cons d

theorem removeAll_sublist {count : Nat} (h : removeAll filter docs = .ok (count, docs')) :
    docs'.Sublist docs := by
  induction docs generalizing docs' count with
  | nil =>
    cases h
    exact List.Sublist.slnil
  | cons d rest ih =>
    rw [removeAll] at h
    obtain ⟨selected, -, h⟩ := bind_eq_ok.mp h
    obtain ⟨⟨n, after⟩, hafter, h⟩ := bind_eq_ok.mp h
    cases selected with
    | true =>
      cases pure_eq_ok.mp h
      exact (ih hafter).cons d
    | false =>
      cases pure_eq_ok.mp h
      exact (ih hafter).cons_cons d

end Document

namespace Store

/-- What an insertion leaves: the document at the end, under an identifier that was not in use, and
nothing else changed. -/
structure Inserted (s : Store) (d : Document) (id : Value) (s' : Store) : Prop where
  unused : ∀ e ∈ s.documents, Document.hasId id e = false
  documents : s'.documents =
    s.documents ++ [(Document.idKey, id) :: Document.erase d Document.idKey]
  indexes : s'.indexes = s.indexes
  given : ∀ id', Document.id? d = some id' → id = id'
  fresh : Document.id? d = none → id = .objectId s.ids.fresh

/-- What is inserted keeps every value that it came with. -/
theorem Inserted.get?_of_some {s s' : Store} {d : Document} {id : Value}
    (h : s.Inserted d id s') {key : String} {v : Value} (hv : Document.get? d key = some v) :
    Document.get? ((Document.idKey, id) :: Document.erase d Document.idKey) key = some v := by
  by_cases hid : key = Document.idKey
  · subst hid
    rw [Document.get?_cons_self, h.given v hv]
  · rw [Document.get?_cons_of_ne (Ne.symm hid), Document.get?_erase_of_ne hid, hv]

theorem insert_eq_ok {s s' : Store} {d : Document} {id : Value}
    (h : s.insert d = .ok (id, s')) : s.Inserted d id s' := by
  unfold insert at h
  dsimp only at h
  -- with an identifier of its own, and with a fresh one
  split at h
  · rename_i given hgiven
    split at h
    · cases h
    · rename_i hunused
      cases h
      refine ⟨by simpa using hunused, rfl, rfl, fun id' hid' => ?_, fun hnone => ?_⟩
      · rw [hgiven] at hid'
        exact Option.some.inj hid'
      · rw [hgiven] at hnone
        cases hnone
  · rename_i hgiven
    split at h
    · cases h
    · rename_i hunused
      cases h
      refine ⟨by simpa using hunused, rfl, rfl, fun id' hid' => ?_, fun _ => rfl⟩
      rw [hgiven] at hid'
      cases hid'

/-- Changing one document puts its new form in its place; without one, nothing happens, or the
document of an upsert is inserted. -/
theorem modifyOne_eq_ok {s s' : Store} {filter : Document} {options : ReadOptions} {upsert : Bool}
    {change : Document → Except Error Document} {create : Except Error Document}
    {answer : Option Document} (h : s.modifyOne filter options upsert change create =
      .ok (answer, s')) :
    (∃ i d next, s.documents[i]? = some d ∧ change d = .ok next ∧
      s' = { s with documents := s.documents.set i next }) ∨
    (upsert = true ∧ ∃ d id, create = .ok d ∧ s.insert d = .ok (id, s')) ∨
    (upsert = false ∧ s' = s) := by
  unfold modifyOne at h
  obtain ⟨position, -, h⟩ := bind_eq_ok.mp h
  split at h
  · rename_i i d hposition
    obtain ⟨next, hnext, h⟩ := bind_eq_ok.mp h
    -- the position was found by the identifier, and the document there is taken as it stands
    obtain ⟨j, -, hj⟩ := Option.bind_eq_some_iff.mp hposition
    obtain ⟨d', hd', heq⟩ := Option.map_eq_some_iff.mp hj
    cases heq
    cases pure_eq_ok.mp h
    exact Or.inl ⟨i, d, next, hd', hnext, rfl⟩
  · split at h
    · rename_i hupsert
      obtain ⟨d, hd, h⟩ := bind_eq_ok.mp h
      obtain ⟨⟨id, t⟩, hinsert, h⟩ := bind_eq_ok.mp h
      cases pure_eq_ok.mp h
      exact Or.inr (Or.inl ⟨hupsert, d, id, hd, hinsert⟩)
    · rename_i hupsert
      cases pure_eq_ok.mp h
      exact Or.inr (Or.inr ⟨by simpa using hupsert, rfl⟩)

end Store

end DocMapper
