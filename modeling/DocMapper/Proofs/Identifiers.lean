import DocMapper.Proofs.Equality
import DocMapper.Proofs.Paths
import DocMapper.Proofs.Stores

namespace DocMapper

/-! # Identifiers under updates

An update compares what it is given for the identifier with the identifier that is there, and
refuses it when they differ. That settles `$set`. It does not settle `$inc`, whose operand is not
what is written, nor any path that leads into the identifier, which is not compared at all.
-/

/-- Two identifiers are the same: the same value, or equal in the store. -/
def Value.SameId (id id' : Value) : Prop := id' = id ∨ id.equals id' = true

namespace Value.SameId

variable {a b c : Value}

theorem trans (hab : SameId a b) (hbc : SameId b c) : SameId a c := by
  rcases hab with rfl | hab
  · exact hbc
  · rcases hbc with rfl | hbc
    · exact Or.inr hab
    · exact Or.inr (Value.equals_trans hab hbc)

end Value.SameId

/-- An amount adds nothing: added to an identifier that equals it, it gives the same one. Zero and
the infinities do, and so does everything that is no number, since it has no sum. -/
def Value.AddsNothing (amount : Value) : Prop :=
  ∀ id sum : Value, id.equals amount = true → id.add? amount = some sum → id.SameId sum

namespace Document

variable {d d' : Document} {operator path : String} {operand : Value} {changes filter : Document}

/-- A document keeps its identifier, if it has one. -/
def KeepsId (before after : Document) : Prop :=
  ∀ id, id? before = some id → ∃ id', id? after = some id' ∧ id.SameId id'

/-- An operator at a path spares the identifier: the path leads elsewhere, or it is the
identifier's own and the operator does not add to it. An operator that does not write spares
everything. -/
def SparesId (operator path : String) (operand : Value) : Prop :=
  operator = "$set" ∨ operator = "$inc" → (Path.ofString path).head = idKey →
    (Path.ofString path).rest = [] ∧ (operator = "$inc" → operand.AddsNothing)

/-- Every operator of an update spares the identifier at each of its paths. -/
def SparesIds (changes : Document) : Prop :=
  ∀ operator fields, (operator, .document fields) ∈ changes → ∀ entry ∈ fields,
    SparesId operator entry.1 entry.2

namespace KeepsId

theorem refl (d : Document) : KeepsId d d := fun id hid => ⟨id, hid, Or.inl rfl⟩

theorem trans {d₁ d₂ d₃ : Document} (h : KeepsId d₁ d₂) (h' : KeepsId d₂ d₃) : KeepsId d₁ d₃ := by
  intro id hid
  obtain ⟨id₂, hid₂, hsame⟩ := h id hid
  obtain ⟨id₃, hid₃, hsame'⟩ := h' id₂ hid₂
  exact ⟨id₃, hid₃, hsame.trans hsame'⟩

end KeepsId

/-! ## Updates that spare identifiers -/

/-- An operator that succeeds at the identifier was given an equal value. -/
theorem equals_of_changesId {id : Value} (hid : id? d = some id)
    (h : changesId d operand = false) : id.equals operand = true := by
  simpa [changesId, hid] using h

theorem applyAt_keepsId (hspares : SparesId operator path operand)
    (h : applyAt operator d (path, operand) = .ok d') : KeepsId d d' := by
  obtain ⟨hguard, v, hoperates, hwrite⟩ := applyAt_eq_ok h
  obtain ⟨w, rfl, hwritten⟩ := write_eq_ok hwrite
  have hwrites : operator = "$set" ∨ operator = "$inc" := by
    cases hoperates with
    | set => exact Or.inl rfl
    | inc _ => exact Or.inr rfl
  intro id hid
  by_cases hhead : (Path.ofString path).head = idKey
  · obtain ⟨hrest, hadds⟩ := hspares hwrites hhead
    -- only the identifier's own path is left, where the operand was compared with it
    have hpath : path = idKey := (Path.head_of_rest_eq_nil hrest).symm.trans hhead
    have hequals := equals_of_changesId hid (hguard hpath)
    have hw : w = v := by
      rw [hrest] at hwritten
      cases hwritten with
      | whole => rfl
      | inside hne => exact absurd rfl hne
    refine ⟨w, by rw [hhead, id?, get?_insert_self], ?_⟩
    rw [hw]
    cases hoperates with
    | set => exact Or.inr hequals
    | inc hsum =>
      have hcurrent : getPath? d path = some id := by
        rw [hpath, getPath?_of_legalName LegalName.id]
        exact hid
      rcases increment_eq_ok hsum with ⟨-, rfl⟩ | ⟨current, hget, hadd⟩
      · exact Or.inr hequals
      · rw [hcurrent, Option.some.injEq] at hget
        exact hadds rfl id v hequals (hget ▸ hadd)
  · exact ⟨id, by rw [id?, get?_insert_of_ne hhead]; exact hid, Or.inl rfl⟩

theorem updated_keepsId (hspares : SparesIds changes) (h : updated d changes = .ok d') :
    KeepsId d d' := by
  refine updated_induction (KeepsId d) ?_ (KeepsId.refl d) h
  intro operator fields hfields entry hentry c c' hc happly
  exact hc.trans (applyAt_keepsId (hspares operator fields hfields entry hentry) happly)

end Document

/-- The documents of a store stay where they are and keep their identifiers. -/
def Store.KeepsIds (before after : Store) : Prop :=
  List.Forall₂ Document.KeepsId before.documents after.documents

namespace Store.KeepsIds

variable {s : Store} {filter changes : Document}

theorem refl (s : Store) : s.KeepsIds s :=
  List.forall₂_same.mpr fun d _ => Document.KeepsId.refl d

theorem trans {s₁ s₂ s₃ : Store} (h : s₁.KeepsIds s₂) (h' : s₂.KeepsIds s₃) : s₁.KeepsIds s₃ := by
  have hlists : ∀ {l₁ l₂ l₃ : List Document}, List.Forall₂ Document.KeepsId l₁ l₂ →
      List.Forall₂ Document.KeepsId l₂ l₃ → List.Forall₂ Document.KeepsId l₁ l₃ := by
    intro l₁ l₂ l₃ h₁₂
    induction h₁₂ generalizing l₃ with
    | nil =>
      intro h₂₃
      cases h₂₃
      exact .nil
    | cons hd _ ih =>
      intro h₂₃
      cases h₂₃ with
      | cons hd' hrest => exact .cons (hd.trans hd') (ih hrest)
  exact hlists h h'

/-- Updates of one or of all documents, in success and in failure. -/
theorem update (hspares : Document.SparesIds changes) (many : Bool) :
    s.KeepsIds (Action.update filter changes false many s).2 := by
  have hpreserves : Action.Preserves (s.KeepsIds ·)
      (Action.update filter changes false many) fun _ => True := by
    refine Action.update_preserves ?_ fun h => by cases h
    intro _ t ht
    refine ht.trans ?_
    exact Document.updateEach_forall₂ Document.KeepsId.refl
      (fun _ _ => Document.updated_keepsId hspares) filter many t.documents
  exact (hpreserves s (refl s)).1

theorem findOneAndUpdate (hspares : Document.SparesIds changes) (options : ReadOptions) :
    s.KeepsIds (Action.atomic (·.findOneAndUpdate filter changes options false) s).2 := by
  have hpreserves : Action.Preserves (s.KeepsIds ·)
      (Action.atomic (·.findOneAndUpdate filter changes options false)) fun _ => True := by
    refine Action.Preserves.atomic fun t answer t' ht h => ?_
    obtain ⟨-, -, h⟩ := bind_eq_ok.mp h
    rcases Store.modifyOne_eq_ok h with ⟨i, d, next, hd, hnext, rfl⟩ | ⟨hupsert, -⟩ | ⟨-, rfl⟩
    · exact ht.trans (forall₂_set Document.KeepsId.refl hd
        (Document.updated_keepsId hspares hnext))
    · cases hupsert
    · exact ht
  exact (hpreserves s (refl s)).1

end Store.KeepsIds

/-! ## Updates that change an identifier -/

namespace Document

variable {path operator : String} {operand : Value} {d d' : Document}

/-- The empty document is the same identifier as no other. -/
theorem not_sameId_empty {inner : Document} (h : inner ≠ []) :
    ¬ (Value.document []).SameId (.document inner) := by
  rintro (heq | hequals)
  · cases heq
    exact h rfl
  · rw [Value.equals_eq_beq rfl, Value.beq, Bool.and_eq_true, beq_iff_eq] at hequals
    exact h (List.length_eq_zero_iff.mp hequals.1.symm)

/-- Both operators write below an identifier that is the empty document. -/
theorem exists_applyAt_below (operand : Value) (hoperator : operator = "$set" ∨ operator = "$inc")
    (hhead : (Path.ofString path).head = idKey) (hrest : (Path.ofString path).rest ≠ []) :
    ∃ inner, inner ≠ [] ∧
      applyAt operator [(idKey, .document [])] (path, operand) =
        .ok [(idKey, .document inner)] := by
  obtain ⟨next, after, hcons⟩ := List.exists_cons_of_ne_nil hrest
  obtain ⟨inner, hinner, hne⟩ := setAt_nil_ne_nil operand next after
  have hpath : path ≠ idKey := by
    rintro rfl
    rw [LegalName.id.path] at hrest
    exact hrest rfl
  have hwrite : write [(idKey, .document [])] path operand =
      .ok [(idKey, .document inner)] := by
    rw [write, setPath, hhead, hcons, setAt, get?_cons_self]
    simp only [hinner]
    rfl
  -- nothing stands at the path yet, so an increment writes its operand like a set
  have hincrement : increment [(idKey, .document [])] path operand = .ok operand := by
    have hnone : getPath? [(idKey, .document [])] path = none := by
      rw [getPath?, at?, hhead, hcons, get?_cons_self]
      rfl
    rw [increment, hnone]
  refine ⟨inner, hne, ?_⟩
  rcases hoperator with rfl | rfl
  · simp [applyAt, hpath, hwrite]
  · simp [applyAt, hpath, hincrement, hwrite]

/-- An amount that adds to an equal identifier is added to it. -/
theorem applyAt_inc_id {id sum : Value} (hequals : id.equals operand = true)
    (hadd : id.add? operand = some sum) :
    applyAt "$inc" [(idKey, id)] (idKey, operand) = .ok [(idKey, sum)] := by
  have hguard : changesId [(idKey, id)] operand = false := by
    simp [changesId, id?, hequals]
  have hget : getPath? [(idKey, id)] idKey = some id := by
    rw [getPath?_of_legalName LegalName.id, get?_cons_self]
  have hincrement : increment [(idKey, id)] idKey operand = .ok sum := by
    rw [increment, hget]
    cases id with
    | null => cases hadd
    | _ => simp only [hadd]
  have hwrite : write [(idKey, id)] idKey sum = .ok [(idKey, sum)] := by
    rw [write, setPath, LegalName.id.path]
    rfl
  simp [applyAt, hguard, hincrement, hwrite]

/-- An operator that does not spare identifiers changes one. -/
theorem exists_applyAt_not_sameId (h : ¬ SparesId operator path operand) :
    (operator = "$set" ∨ operator = "$inc") ∧
      ∃ id id', applyAt operator [(idKey, id)] (path, operand) = .ok [(idKey, id')] ∧
        ¬ id.SameId id' := by
  simp only [SparesId, not_forall] at h
  obtain ⟨hoperator, hhead, h⟩ := h
  refine ⟨hoperator, ?_⟩
  by_cases hrest : (Path.ofString path).rest = []
  · have hpath : path = idKey := (Path.head_of_rest_eq_nil hrest).symm.trans hhead
    simp only [hrest, true_and, not_forall, Value.AddsNothing] at h
    obtain ⟨rfl, id, sum, hequals, hadd, hchanged⟩ := h
    exact ⟨id, sum, hpath ▸ applyAt_inc_id hequals hadd, hchanged⟩
  · obtain ⟨inner, hne, happly⟩ := exists_applyAt_below operand hoperator hhead hrest
    exact ⟨_, _, happly, not_sameId_empty hne⟩

end Document

namespace Store

variable {operator path : String} {operand : Value}

/-- An update of one operator at one path, without a filter, of a store with one document. -/
theorem updateOne_single {d d' : Document} {ids : IdSource} (hoperator : isOperatorKey operator)
    (h : Document.applyAt operator d (path, operand) = .ok d') :
    (Action.updateOne [] [(operator, .document [(path, operand)])] false
      { documents := [d], ids }).2.documents = [d'] := by
  have hrequire : Document.requireOperators [(operator, .document [(path, operand)])] =
      .ok () := by
    simp [Document.requireOperators, Document.keys, hoperator]
  have hupdated : Document.updated d [(operator, .document [(path, operand)])] = .ok d' := by
    simp only [Document.updated, List.foldlM_cons, List.foldlM_nil, Document.applyOperator, h]
    rfl
  have heach : Document.updateEach [] [(operator, .document [(path, operand)])] false [d] =
      (.ok (UpdateReport.count {} (!Document.beq d' d)), [d']) := by
    simp only [Document.updateEach, Document.satisfies, hupdated]
    rfl
  rw [Action.updateOne, Action.update_false_apply hrequire, heach]

/-- An update spares identifiers exactly when each of its operators, alone at each of its paths,
keeps the identifiers of the documents of every store. Then the update keeps the identifiers of
all documents too, whatever it selects, and whether it succeeds or fails. -/
theorem updates_keep_ids_iff (changes : Document) :
    (Document.SparesIds changes ↔
      ∀ operator fields, (operator, .document fields) ∈ changes → ∀ entry ∈ fields,
        ∀ (s : Store) filter,
          s.KeepsIds (Action.updateOne filter [(operator, .document [entry])] false s).2) ∧
    (Document.SparesIds changes → ∀ (s : Store) filter options,
      s.KeepsIds (Action.updateOne filter changes false s).2 ∧
      s.KeepsIds (Action.updateMany filter changes false s).2 ∧
      s.KeepsIds (Action.atomic (·.findOneAndUpdate filter changes options false) s).2) := by
  refine ⟨⟨?_, ?_⟩, ?_⟩
  · intro hspares operator fields hfields entry hentry s filter
    refine KeepsIds.update ?_ false
    intro operator' fields' hmem entry' hentry'
    cases List.mem_singleton.mp hmem
    rw [List.mem_singleton.mp hentry']
    exact hspares operator fields hfields entry hentry
  · intro hkeeps operator fields hfields entry hentry
    by_contra hspares
    obtain ⟨hoperator, id, id', happly, hchanged⟩ := Document.exists_applyAt_not_sameId hspares
    have hkey : isOperatorKey operator = true := by
      rcases hoperator with rfl | rfl <;> rfl
    -- a store of the one document whose identifier the operator changes
    have hids := hkeeps operator fields hfields entry hentry
      { documents := [[(Document.idKey, id)]], ids := ⟨fun _ => ⟨0⟩, 0⟩ } []
    rw [KeepsIds, updateOne_single hkey happly] at hids
    cases hids with
    | cons hdoc _ =>
      obtain ⟨id'', hid'', hsame⟩ := hdoc id (Document.get?_cons_self _ _ _)
      rw [Document.id?, Document.get?_cons_self, Option.some.injEq] at hid''
      exact hchanged (hid'' ▸ hsame)
  · intro hspares s filter options
    exact ⟨KeepsIds.update hspares false, KeepsIds.update hspares true,
      KeepsIds.findOneAndUpdate hspares options⟩

/-- The theorem at an update that sets the identifier and a field, and at one that adds to the
identifier. -/
theorem updates_keep_ids_setting :
    (∀ (s : Store) filter, s.KeepsIds (Action.updateMany filter
      [("$set", .document [("_id", .int32 5), ("age", .int32 3)])] false s).2) ∧
    ¬ ∀ (s : Store) filter, s.KeepsIds (Action.updateOne filter
      [("$inc", .document [("_id", .int32 5)])] false s).2 := by
  have hset : Document.SparesIds
      [("$set", .document [("_id", .int32 5), ("age", .int32 3)])] := by
    intro operator fields hfields entry hentry
    cases List.mem_singleton.mp hfields
    rcases List.mem_pair.mp hentry with rfl | rfl
    · exact fun _ _ => ⟨rfl, fun h => absurd h (by decide)⟩
    · exact fun _ h => absurd h (by decide)
  -- an increment of the identifier changes the one that it is equal to
  have hinc : ¬ Document.SparesIds [("$inc", .document [("_id", .int32 5)])] := by
    intro h
    have hadds := (h "$inc" _ (List.mem_singleton_self _) _ (List.mem_singleton_self _)
      (Or.inr rfl) rfl).2 rfl
    rcases hadds (.int32 5) (.int32 10) (by decide +kernel) rfl with hsame | hsame
    · cases hsame
    · exact absurd hsame (by decide +kernel)
  refine ⟨fun s filter => ((updates_keep_ids_iff _).2 hset s filter {}).2.1, fun hkeeps => ?_⟩
  refine hinc ((updates_keep_ids_iff _).1.mpr ?_)
  intro operator fields hfields entry hentry s filter
  cases List.mem_singleton.mp hfields
  rw [List.mem_singleton.mp hentry]
  exact hkeeps s filter

/-- Adding 5 to the identifier 5 of a stored document gives it the identifier 10. -/
theorem increment_changes_id :
    ∃ s : Store, s.documents = [[("_id", .int32 5)]] ∧
      (Action.updateOne [] [("$inc", .document [("_id", .int32 5)])] false s).2.documents =
        [[("_id", .int32 10)]] ∧
      (Value.int32 5).equals (.int32 10) = false := by
  have happly : Document.applyAt "$inc" [("_id", .int32 5)] ("_id", .int32 5) =
      .ok [("_id", .int32 10)] :=
    Document.applyAt_inc_id (by decide +kernel) rfl
  refine ⟨{ documents := [[("_id", .int32 5)]], ids := ⟨fun _ => ⟨0⟩, 0⟩ }, rfl, ?_,
    by decide +kernel⟩
  exact updateOne_single rfl happly

end Store

end DocMapper
