import DocMapper.Proofs.StoreInvariant

namespace DocMapper

/-! # What failures leave in the store

Most operations change nothing when they fail. An update of all matching documents stops at the
first document that cannot be matched or updated, and leaves the documents before it as the update
made them; a batch of insertions stops at the first identifier in use, and leaves the documents
before it at the end of the collection.
-/

namespace Document

/-- What an update makes of a document that it does not fail at: a document that is selected is
updated, and any other stays. -/
inductive Passes (filter changes : Document) : Document → Document → Prop
  | spared {d : Document} (h : satisfies d filter = .ok false) : Passes filter changes d d
  | updated {d d' : Document} (h : satisfies d filter = .ok true)
      (hupdated : updated d changes = .ok d') : Passes filter changes d d'

/-- An update fails at a document: the document cannot be matched, or it is selected and cannot be
updated. -/
inductive FailsAt (filter changes d : Document) (e : Error) : Prop
  | matching (h : satisfies d filter = .error e)
  | updating (h : satisfies d filter = .ok true) (hupdated : Document.updated d changes = .error e)

variable {filter changes : Document} {many : Bool} {docs docs' : List Document} {e : Error}

/-! ## Updates in place -/

/-- An update in place that fails stops at a document, and what comes from it on is as before. -/
theorem updateEach_eq_error (h : updateEach filter changes many docs = (.error e, docs')) :
    ∃ before d after before', docs = before ++ d :: after ∧ docs' = before' ++ d :: after ∧
      FailsAt filter changes d e ∧ List.Forall₂ (Passes filter changes) before before' ∧
      (many = false → before' = before) := by
  induction docs generalizing docs' with
  | nil => cases h
  | cons d rest ih =>
    rw [updateEach] at h
    split at h
    · rename_i e' hmatch
      cases h
      exact ⟨[], d, rest, [], rfl, rfl, .matching hmatch, .nil, fun _ => rfl⟩
    · rename_i hmatch
      rcases hrest : updateEach filter changes many rest with ⟨outcome, rest'⟩
      rw [hrest] at h
      cases h
      obtain ⟨before, d', after, before', rfl, rfl, hfails, hpasses, hmany⟩ := ih hrest
      exact ⟨d :: before, d', after, d :: before', rfl, rfl, hfails, .cons (.spared hmatch) hpasses,
        fun hfirst => by rw [hmany hfirst]⟩
    · rename_i hmatch
      split at h
      · rename_i e' hupdated
        cases h
        exact ⟨[], d, rest, [], rfl, rfl, .updating hmatch hupdated, .nil, fun _ => rfl⟩
      · rename_i next hupdated
        -- an update of the first document only ends here, in success
        cases many with
        | false => cases h
        | true =>
          rcases hrest : updateEach filter changes true rest with ⟨e' | outcome, rest'⟩
          · simp only [hrest, if_true] at h
            cases h
            obtain ⟨before, d', after, before', rfl, rfl, hfails, hpasses, -⟩ := ih hrest
            exact ⟨d :: before, d', after, next :: before', rfl, rfl, hfails,
              .cons (.updated hmatch hupdated) hpasses, fun hfirst => by cases hfirst⟩
          · simp only [hrest, if_true] at h
            cases h

/-- An update in place that selects nothing changes nothing. -/
theorem updateEach_of_matched_eq_zero {outcome : UpdateReport}
    (h : updateEach filter changes many docs = (.ok outcome, docs')) (hnone : outcome.matched = 0) :
    docs' = docs ∧ ∀ d ∈ docs, satisfies d filter = .ok false := by
  induction docs generalizing docs' with
  | nil =>
    cases h
    exact ⟨rfl, fun _ hd => absurd hd List.not_mem_nil⟩
  | cons d rest ih =>
    rw [updateEach] at h
    split at h
    · cases h
    · rename_i hmatch
      rcases hrest : updateEach filter changes many rest with ⟨outcome', rest'⟩
      rw [hrest] at h
      cases h
      obtain ⟨rfl, hall⟩ := ih hrest
      exact ⟨rfl, List.forall_mem_cons.mpr ⟨hmatch, hall⟩⟩
    · -- what was selected is counted
      split at h
      · cases h
      · cases many with
        | false =>
          cases h
          cases hnone
        | true =>
          rcases hrest : updateEach filter changes true rest with ⟨e' | outcome', rest'⟩
          · simp only [hrest, if_true] at h
            cases h
          · simp only [hrest, if_true] at h
            cases h
            cases hnone

end Document

/-! ## Insertions -/

namespace Store

variable {s s' : Store} {d : Document} {e : Error}

/-- The identifier that a document gets: its own, or a fresh one. -/
def idFor (s : Store) (d : Document) : Value :=
  (Document.id? d).getD (.objectId s.ids.fresh)

/-- An insertion is refused because its identifier is in use. -/
theorem insert_eq_error (h : s.insert d = .error e) :
    s.documents.any (Document.hasId (s.idFor d)) = true ∧
      e = .driver (.duplicateId (s.idFor d)) := by
  unfold insert at h
  unfold idFor
  -- an identifier that is used was given with the document, or drawn
  cases hid : Document.id? d with
  | some id =>
    simp only [hid] at h
    split at h
    · rename_i hused
      cases h
      exact ⟨hused, rfl⟩
    · cases h
  | none =>
    simp only [hid] at h
    split at h
    · rename_i hused
      cases h
      exact ⟨hused, rfl⟩
    · cases h

/-- Documents that were appended one after the other: each has an identifier that was not in use
before it, its own if it had one, and then its other fields. -/
structure Appended (s : Store) (docs : List Document) (s' : Store) : Prop where
  documents : ∃ created, s'.documents = s.documents ++ created ∧
    List.Forall₂ (fun d c => ∃ id, c = (Document.idKey, id) :: Document.erase d Document.idKey ∧
      ∀ given, Document.id? d = some given → id = given) docs created ∧
    ∀ i id rest, created[i]? = some ((Document.idKey, id) :: rest) →
      ∀ x ∈ s.documents ++ created.take i, Document.hasId id x = false
  indexes : s'.indexes = s.indexes

theorem Appended.refl (s : Store) : s.Appended [] s where
  documents := ⟨[], (List.append_nil _).symm, .nil, fun i id rest hi => by simp at hi⟩
  indexes := rfl

/-- An insertion, and others after it. -/
theorem Appended.cons {t : Store} {id : Value} {rest : List Document}
    (hinsert : s.insert d = .ok (id, t)) (h : t.Appended rest s') : s.Appended (d :: rest) s' := by
  have hinserted := insert_eq_ok hinsert
  obtain ⟨created, hcreated, hstored, hunused⟩ := h.documents
  refine ⟨⟨((Document.idKey, id) :: Document.erase d Document.idKey) :: created, ?_,
    .cons ⟨id, rfl, hinserted.given⟩ hstored, fun i id' rest' hi x hx => ?_⟩,
    h.indexes.trans hinserted.indexes⟩
  · rw [hcreated, hinserted.documents, List.append_assoc, List.singleton_append]
  · cases i with
    | zero =>
      rw [List.take_zero, List.append_nil] at hx
      rw [List.getElem?_cons_zero, Option.some.injEq, List.cons.injEq, Prod.mk.injEq] at hi
      rw [← hi.1.2]
      exact hinserted.unused x hx
    | succ i =>
      rw [List.getElem?_cons_succ] at hi
      refine hunused i id' rest' hi x ?_
      rw [List.take_succ_cons] at hx
      rwa [hinserted.documents, List.append_assoc, List.singleton_append]

end Store

namespace Action

variable {s s' : Store} {e : Error}

theorem bind_apply_eq_error {α β : Type} {a : Action α} {f : α → Action β} :
    (a >>= f) s = (.error e, s') ↔
      a s = (.error e, s') ∨ ∃ x t, a s = (.ok x, t) ∧ f x t = (.error e, s') := by
  rw [bind_apply]
  rcases a s with ⟨e' | x, t⟩
  · constructor
    · intro h
      cases h
      exact Or.inl rfl
    · rintro (h | ⟨x', t', h, -⟩)
      · cases h
        rfl
      · cases h
  · refine ⟨fun h => Or.inr ⟨x, t, rfl, h⟩, ?_⟩
    rintro (h | ⟨x', t', h, hf⟩)
    · cases h
    · cases h
      exact hf

/-- An action that leaves the answer of another aside fails where that fails. -/
theorem discard_eq_error {α : Type} {a : Action α} :
    (do let _ ← a : Action Unit) s = (.error e, s') ↔ a s = (.error e, s') := by
  rw [bind_apply_eq_error]
  refine or_iff_left ?_
  rintro ⟨x, t, -, h⟩
  cases h

theorem atomic_apply_eq_error {α : Type} {run : Store → Except Error (α × Store)} :
    atomic run s = (.error e, s') ↔ run s = .error e ∧ s' = s := by
  unfold atomic
  rcases run s with e' | ⟨x, t⟩
  · constructor
    · intro h
      cases h
      exact ⟨rfl, rfl⟩
    · rintro ⟨h, rfl⟩
      cases h
      rfl
  · constructor
    · intro h
      cases h
    · rintro ⟨h, -⟩
      cases h

theorem check_apply_eq_error {α : Type} {result : Except Error α} :
    check result s = (.error e, s') ↔ result = .error e ∧ s' = s := by
  rw [check, Prod.mk.injEq, eq_comm (b := s')]

/-- A batch of insertions that fails stops at an identifier in use, and the documents before it are
appended. -/
theorem insertMany_eq_error {docs : List Document} (h : insertMany docs s = (.error e, s')) :
    ∃ before d after, docs = before ++ d :: after ∧ s.Appended before s' ∧
      s'.documents.any (Document.hasId (s'.idFor d)) = true ∧
      e = .driver (.duplicateId (s'.idFor d)) := by
  unfold insertMany at h
  induction docs generalizing s with
  | nil => cases h
  | cons d rest ih =>
    rw [List.mapM_cons, bind_apply_eq_error] at h
    rcases h with h | ⟨id, t, hinsert, h⟩
    · obtain ⟨hrefused, rfl⟩ := atomic_apply_eq_error.mp h
      obtain ⟨hused, rfl⟩ := Store.insert_eq_error hrefused
      exact ⟨[], d, rest, rfl, Store.Appended.refl _, hused, rfl⟩
    · rcases bind_apply_eq_error.mp h with h | ⟨ids, t', -, h⟩
      · obtain ⟨before, d', after, rfl, happended, hused, he⟩ := ih h
        exact ⟨d :: before, d', after, rfl, happended.cons (atomic_apply_eq_ok.mp hinsert), hused,
          he⟩
      · cases h

/-- Why an update by operators fails: its document is malformed, it fails at a stored document, or
nothing is selected and the document of an upsert cannot be made or inserted. -/
theorem update_eq_error {filter changes : Document} {upsert many : Bool}
    (h : update filter changes upsert many s = (.error e, s')) :
    (s' = s ∧ Document.requireOperators changes = .error e) ∨
    (∃ before d after before', s.documents = before ++ d :: after ∧
      s' = { s with documents := before' ++ d :: after } ∧ Document.FailsAt filter changes d e ∧
      List.Forall₂ (Document.Passes filter changes) before before' ∧
      (many = false → before' = before)) ∨
    s' = s ∧ upsert = true ∧ (∀ d ∈ s.documents, Document.satisfies d filter = .ok false) ∧
      (Document.upserted filter changes = .error e ∨
        ∃ d, Document.upserted filter changes = .ok d ∧ s.insert d = .error e) := by
  -- The call has three places to fail: its check, a document on the way, and the upsert.
  unfold update at h
  rcases bind_apply_eq_error.mp h with h | ⟨⟨⟩, t, hrequire, h⟩
  · obtain ⟨hrequire, rfl⟩ := check_apply_eq_error.mp h
    exact Or.inl ⟨rfl, hrequire⟩
  obtain ⟨-, rfl⟩ := check_apply_eq_ok.mp hrequire
  rcases heach : Document.updateEach filter changes many s.documents with ⟨outcome, documents⟩
  rcases bind_apply_eq_error.mp h with h | ⟨outcome', t, hplace, h⟩
  · rw [heach] at h
    cases h
    obtain ⟨before, d, after, before', hbefore, rfl, hfails, hpasses, hfirst⟩ :=
      Document.updateEach_eq_error heach
    exact Or.inr (Or.inl ⟨before, d, after, before', hbefore, rfl, hfails, hpasses, hfirst⟩)
  · rw [heach] at hplace
    cases hplace
    split at h
    · rename_i hnone
      obtain ⟨rfl, hspared⟩ := Document.updateEach_of_matched_eq_zero heach hnone.1
      refine Or.inr (Or.inr ?_)
      rcases bind_apply_eq_error.mp h with h | ⟨d, t, hd, h⟩
      · obtain ⟨hcreate, rfl⟩ := check_apply_eq_error.mp h
        exact ⟨rfl, hnone.2, hspared, Or.inl hcreate⟩
      · obtain ⟨hcreate, rfl⟩ := check_apply_eq_ok.mp hd
        rcases bind_apply_eq_error.mp h with h | ⟨id, t, -, h⟩
        · obtain ⟨hinsert, rfl⟩ := atomic_apply_eq_error.mp h
          exact ⟨rfl, hnone.2, hspared, Or.inr ⟨d, hcreate, hinsert⟩⟩
        · cases h
    · cases h

end Action

/-! ## Operations -/

namespace StoreOperation

/-- What an operation leaves when it fails. An update of all matching documents that fails at a
document has passed the documents before it and leaves that document and those after it, and for
any other reason it changes nothing; a batch of insertions has appended the documents before one
whose identifier is in use; all other operations change nothing. -/
def Leaves (s : Store) (e : Error) (s' : Store) : StoreOperation → Prop
  | updateMany filter changes upsert =>
    (∃ before d after before', s.documents = before ++ d :: after ∧
      s' = { s with documents := before' ++ d :: after } ∧ Document.FailsAt filter changes d e ∧
      List.Forall₂ (Document.Passes filter changes) before before') ∨
    s' = s ∧ (Document.requireOperators changes = .error e ∨
      upsert = true ∧ (∀ d ∈ s.documents, Document.satisfies d filter = .ok false) ∧
        (Document.upserted filter changes = .error e ∨
          ∃ d, Document.upserted filter changes = .ok d ∧ s.insert d = .error e))
  | insertMany docs =>
    ∃ before d after, docs = before ++ d :: after ∧ s.Appended before s' ∧
      s'.documents.any (Document.hasId (s'.idFor d)) = true ∧
      e = .driver (.duplicateId (s'.idFor d))
  | _ => s' = s

/-- Every failed operation leaves the store in the state that is known of it. -/
theorem failed_operation_leaves (operation : StoreOperation) {s s' : Store} {e : Error}
    (h : operation.perform s = (.error e, s')) : operation.Leaves s e s' := by
  cases operation with
  | updateMany filter changes upsert =>
    rcases Action.update_eq_error (Action.discard_eq_error.mp h) with
      ⟨rfl, hrequire⟩ | ⟨before, d, after, before', hbefore, rfl, hfails, hpasses, -⟩ |
      ⟨rfl, hupsert⟩
    · -- the update was refused before any document was reached
      exact Or.inr ⟨rfl, Or.inl hrequire⟩
    · -- a document failed; those before it are changed
      exact Or.inl ⟨before, d, after, before', hbefore, rfl, hfails, hpasses⟩
    · -- no document matched, and creating one failed
      exact Or.inr ⟨rfl, Or.inr hupsert⟩
  | insertMany docs => exact Action.insertMany_eq_error (Action.discard_eq_error.mp h)
  | updateOne filter changes upsert =>
    rcases Action.update_eq_error (Action.discard_eq_error.mp h) with
      ⟨rfl, -⟩ | ⟨before, d, after, before', hbefore, rfl, -, -, hfirst⟩ | ⟨rfl, -⟩
    · rfl
    · -- with one document to change, there is none before the one that failed
      rw [hfirst rfl, ← hbefore]
      rfl
    · rfl
  | dropIndex name =>
    have hdrop : Action.atomic (·.dropIndex name) s = (.error e, s') := h
    exact (Action.atomic_apply_eq_error.mp hdrop).2
  | drop | clear => cases h
  | _ => exact (Action.atomic_apply_eq_error.mp (Action.discard_eq_error.mp h)).2

/-- The theorem at an update that fails at the second of three documents, and at a batch of which
the second document has the identifier of the first. -/
theorem failed_operation_leaves_prefix :
    ∃ (s s' t' : Store) (e e' : Error),
      s.documents = [[("_id", .string "a")], [("_id", .string "b"), ("n", .bool true)],
        [("_id", .string "c")]] ∧
      s'.documents = [[("_id", .string "a"), ("n", .int32 1)],
        [("_id", .string "b"), ("n", .bool true)], [("_id", .string "c")]] ∧
      t'.documents = s.documents ++ [[("_id", .string "d")]] ∧
      perform (.updateMany [] [("$inc", .document [("n", .int32 1)])] false) s =
        (.error e, s') ∧
      perform (.insertMany [[("_id", .string "d")], [("_id", .string "d")]]) s =
        (.error e', t') ∧
      Leaves s e s' (.updateMany [] [("$inc", .document [("n", .int32 1)])] false) ∧
      Leaves s e' t' (.insertMany [[("_id", .string "d")], [("_id", .string "d")]]) := by
  let s : Store :=
    { documents := [[("_id", .string "a")], [("_id", .string "b"), ("n", .bool true)],
        [("_id", .string "c")]]
      ids := ⟨fun _ => ⟨0⟩, 0⟩ }
  have hupdate : perform (.updateMany [] [("$inc", .document [("n", .int32 1)])] false) s =
      (.error (.driver (.incrementNotNumber "n")),
        { s with documents := [[("_id", .string "a"), ("n", .int32 1)],
            [("_id", .string "b"), ("n", .bool true)], [("_id", .string "c")]] }) := rfl
  have hinsert : perform (.insertMany [[("_id", .string "d")], [("_id", .string "d")]]) s =
      (.error (.driver (.duplicateId (.string "d"))),
        { s with documents := s.documents ++ [[("_id", .string "d")]] }) := rfl
  exact ⟨s, _, _, _, _, rfl, rfl, rfl, hupdate, hinsert, failed_operation_leaves _ hupdate,
    failed_operation_leaves _ hinsert⟩

end StoreOperation

end DocMapper
