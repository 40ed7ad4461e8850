import DocMapper.Proofs.IdentifierPlans

namespace DocMapper

/-! # How a batch is split

The plan of a batch puts every instance on one side: an update of the first stored document that
has its key and an identifier, or an insert. Both sides keep the order of the batch. Updates write
what the instance has in the update fields, inserts carry the instance with its identifier read.
-/

/-! ## The two sides -/

namespace Plan

/-- The plan has every one of so many instances on one side, and each side in the order of the
batch. -/
structure Splits (p : Plan) (size : Nat) : Prop where
  updatesIncrease : (p.updates.map (·.index)).Pairwise (· < ·)
  insertsIncrease : (p.inserts.map (·.index)).Pairwise (· < ·)
  disjoint : List.Disjoint (p.updates.map (·.index)) (p.inserts.map (·.index))
  cover : ∀ index, index ∈ p.updates.map (·.index) ∨ index ∈ p.inserts.map (·.index) ↔ index < size

end Plan

namespace Reconciler

variable {r : Reconciler} {inst d : Document} {instances persisted : List Document} {id : Value}
  {index : Nat}

/-- The places of the instances that pass a test, in the order of the batch. -/
def places (p : Document → Bool) (instances : List Document) : List Nat :=
  (instances.zipIdx.filter fun entry => p entry.1).map (·.2)

theorem mem_places {p : Document → Bool} :
    index ∈ places p instances ↔ ∃ inst, instances[index]? = some inst ∧ p inst = true := by
  simp only [places, List.mem_map, List.mem_filter, Prod.exists, List.mk_mem_zipIdx_iff_getElem?]
  constructor
  · rintro ⟨inst, _, ⟨hinst, hp⟩, rfl⟩
    exact ⟨inst, hinst, hp⟩
  · rintro ⟨inst, hinst, hp⟩
    exact ⟨inst, index, ⟨hinst, hp⟩, rfl⟩

theorem places_increase (p : Document → Bool) (instances : List Document) :
    (places p instances).Pairwise (· < ·) := by
  have hall : (instances.zipIdx.map (·.2)).Pairwise (· < ·) := by
    rw [List.zipIdx_map_snd, ← List.range_eq_range']
    exact List.pairwise_lt_range
  exact hall.sublist (List.filter_sublist.map _)

theorem plan_updates_index (r : Reconciler) (instances persisted : List Document) :
    (r.plan instances persisted).updates.map (·.index) =
      places (fun inst => (r.partner? persisted inst).isSome) instances := by
  rw [plan_eq, places, List.map_filterMap, ← List.filterMap_eq_filter, List.map_filterMap]
  refine List.filterMap_congr fun entry _ => ?_
  cases hpartner : r.partner? persisted entry.1 <;>
    simp [update?, hpartner, PlannedUpdate.setting, Option.guard]

theorem plan_inserts_index (r : Reconciler) (instances persisted : List Document) :
    (r.plan instances persisted).inserts.map (·.index) =
      places (fun inst => (r.partner? persisted inst).isNone) instances := by
  rw [plan_eq, places, List.map_filterMap, ← List.filterMap_eq_filter, List.map_filterMap]
  refine List.filterMap_congr fun entry _ => ?_
  cases hpartner : r.partner? persisted entry.1 <;> simp [insert?, hpartner, Option.guard]

/-- A plan has each instance once, on the side that its partner decides. -/
theorem plan_splits (r : Reconciler) (instances persisted : List Document) :
    (r.plan instances persisted).Splits instances.length := by
  constructor
  case updatesIncrease =>
    rw [plan_updates_index]
    exact places_increase _ _
  case insertsIncrease =>
    rw [plan_inserts_index]
    exact places_increase _ _
  case disjoint =>
    rw [plan_updates_index, plan_inserts_index]
    intro index hupdate hinsert
    -- the instance there would have a partner, and have none
    obtain ⟨inst, hinst, hsome⟩ := mem_places.mp hupdate
    obtain ⟨inst', hinst', hnone⟩ := mem_places.mp hinsert
    cases hinst.symm.trans hinst'
    rw [Option.isNone_iff_eq_none.mp hnone] at hsome
    cases hsome
  case cover =>
    intro index
    rw [plan_updates_index, plan_inserts_index, mem_places, mem_places]
    constructor
    · rintro (⟨inst, hinst, -⟩ | ⟨inst, hinst, -⟩) <;>
        exact (List.getElem?_eq_some_iff.mp hinst).1
    · intro hlt
      obtain ⟨inst, hinst⟩ : ∃ inst, instances[index]? = some inst :=
        ⟨_, List.getElem?_eq_getElem hlt⟩
      cases hpartner : r.partner? persisted inst with
      | some id => exact Or.inl ⟨inst, hinst, by rw [hpartner]; rfl⟩
      | none => exact Or.inr ⟨inst, hinst, by rw [hpartner]; rfl⟩

theorem mem_plan_inserts {i : PlannedInsert} : i ∈ (r.plan instances persisted).inserts ↔
    ∃ inst, (inst, i.index) ∈ instances.zipIdx ∧ r.partner? persisted inst = none ∧
      i.document = Document.readId inst := by
  rw [plan_eq, List.mem_filterMap, Prod.exists]
  constructor
  · rintro ⟨inst, index, hmem, hinsert⟩
    cases hpartner : r.partner? persisted inst with
    | some id => simp [insert?, hpartner] at hinsert
    | none =>
      simp only [insert?, hpartner, Option.some.injEq] at hinsert
      subst hinsert
      exact ⟨inst, hmem, hpartner, rfl⟩
  · rintro ⟨inst, hmem, hpartner, hdocument⟩
    exact ⟨inst, i.index, hmem, by simp [insert?, hpartner, ← hdocument]⟩

/-! ## The match of an instance -/

/-- A stored document with an identifier has the key of the instance. -/
def Matches (r : Reconciler) (persisted : List Document) (inst : Document) : Prop :=
  ∃ key, r.key? inst = some key ∧
    ∃ d ∈ persisted, r.key? d = some key ∧ ∃ id, Document.id? d = some id

/-- The identifier is that of the first stored document that has one and the key of the instance. -/
def FirstMatch (r : Reconciler) (persisted : List Document) (inst : Document) (id : Value) : Prop :=
  ∃ key earlier d later, r.key? inst = some key ∧ persisted = earlier ++ d :: later ∧
    r.key? d = some key ∧ Document.id? d = some id ∧
    ∀ e ∈ earlier, r.key? e = some key → Document.id? e = none

theorem partner?_eq_some_iff :
    r.partner? persisted inst = some id ↔ r.FirstMatch persisted inst id := by
  rw [partner?, Option.bind_eq_some_iff]
  constructor
  · rintro ⟨key, hkey, hstored⟩
    obtain ⟨earlier, d, later, hsplit, hd, hnone⟩ := List.findSome?_eq_some_iff.mp hstored
    obtain ⟨hdkey, hid⟩ := Option.ite_none_right_eq_some.mp hd
    refine ⟨key, earlier, d, later, hkey, hsplit, hdkey, hid, fun e he hekey => ?_⟩
    have hskipped := hnone e he
    rwa [if_pos hekey] at hskipped
  · rintro ⟨key, earlier, d, later, hkey, hsplit, hdkey, hid, hnone⟩
    refine ⟨key, hkey, List.findSome?_eq_some_iff.mpr ⟨earlier, d, later, hsplit, ?_, ?_⟩⟩
    · rw [if_pos hdkey, hid]
    · intro e he
      exact ite_eq_right_iff.mpr (hnone e he)

theorem isSome_partner?_iff :
    (r.partner? persisted inst).isSome = true ↔ r.Matches persisted inst := by
  rw [Option.isSome_iff_exists]
  constructor
  · rintro ⟨id, hpartner⟩
    obtain ⟨key, earlier, d, later, hkey, rfl, hdkey, hid, -⟩ := partner?_eq_some_iff.mp hpartner
    exact ⟨key, hkey, d, by simp, hdkey, id, hid⟩
  · rintro ⟨key, hkey, d, hd, hdkey, id, hid⟩
    exact exists_partner? hkey hd hdkey hid

/-- Without stored documents there is no match. -/
theorem partner?_nil (r : Reconciler) (inst : Document) : r.partner? [] inst = none := by
  rw [partner?]
  cases r.key? inst <;> rfl

/-! ## What is written -/

/-- An update writes the field: it is among the update fields, or is not the identifier where none
are given. -/
def Sets (r : Reconciler) (name : String) : Prop :=
  match r.updateFields? with
  | some names => name ∈ names
  | none => name ≠ Document.idKey

/-- The fields hold what the instance has in the fields that an update writes, and nothing else. -/
structure Writes (r : Reconciler) (inst fields : Document) : Prop where
  written : ∀ name, r.Sets name → Document.get? fields name = Document.get? inst name
  others : ∀ name, ¬ r.Sets name → name ∉ Document.keys fields
  distinct : (Document.keys inst).Nodup → (Document.keys fields).Nodup

theorem writes_written (r : Reconciler) (inst : Document) : r.Writes inst (r.written inst) := by
  -- Named update fields are picked from the instance; without them all but the identifier is set.
  cases hfields : r.updateFields? with
  | some names =>
    have hpick : r.written inst = Document.pick inst names := by rw [written, hfields]
    rw [hpick]
    constructor
    case written =>
      intro name hsets
      rw [Sets, hfields] at hsets
      cases hget : Document.get? inst name with
      | none =>
        rw [Document.get?_eq_none_iff, Document.mem_keys_pick] at *
        exact fun h => hget h.2
      | some v =>
        have hkey : name ∈ Document.keys (Document.pick inst names) :=
          Document.mem_keys_pick.mpr
            ⟨hsets, Document.mem_keys_of_mem (Document.mem_of_get?_eq_some hget)⟩
        obtain ⟨w, hw⟩ := Document.exists_get?_of_mem_keys hkey
        have hown := Document.get?_of_mem_pick (Document.mem_of_get?_eq_some hw)
        rw [hw, ← hown, hget]
    case others =>
      intro name hsets hkey
      rw [Sets, hfields] at hsets
      exact hsets (Document.mem_keys_pick.mp hkey).1
    case distinct =>
      exact fun _ => Document.nodup_keys_insertAll (d := []) List.nodup_nil _
  | none =>
    have herase : r.written inst = Document.erase inst Document.idKey := by rw [written, hfields]
    rw [herase]
    constructor
    case written =>
      intro name hsets
      rw [Sets, hfields] at hsets
      exact Document.get?_erase_of_ne hsets inst
    case others =>
      intro name hsets
      rw [Sets, hfields, not_not] at hsets
      rw [hsets]
      exact Document.not_mem_keys_erase inst Document.idKey
    case distinct =>
      exact fun h => h.sublist (List.filter_sublist.map _)

/-- The update of an instance: it addresses the first stored document with the key of the instance
by its identifier, and sets the update fields that the instance has. -/
structure Amends (r : Reconciler) (persisted : List Document) (inst : Document)
    (u : PlannedUpdate) : Prop where
  first : r.FirstMatch persisted inst u.id
  filter : u.filter = [(Document.idKey, u.id)]
  update : ∃ fields, u.update = [("$set", .document fields)] ∧ r.Writes inst fields

theorem amends_setting (h : r.partner? persisted inst = some id) (index : Nat) :
    r.Amends persisted inst (.setting index id (r.written inst)) where
  first := partner?_eq_some_iff.mp h
  filter := rfl
  update := ⟨_, rfl, writes_written r inst⟩

end Reconciler

/-! ## What is inserted -/

namespace Value

theorem readIds_eq_map (items : List Value) : readIds items = items.map readId := by
  induction items with
  | nil => rw [readIds, List.map_nil]
  | cons v rest ih => rw [readIds, List.map_cons, ih]

/-- What gives no object identifier and is no list is read as it is. -/
theorem readId_of_not_gives {v : Value} (hdigits : ∀ i, ¬ v.Gives i)
    (hitems : ∀ items, v ≠ .array items) : v.readId = v := by
  cases v with
  | string text =>
    rw [readId]
    split
    · rename_i i hi
      exact absurd (.digits hi) (hdigits i)
    · rfl
  | array items => exact absurd rfl (hitems items)
  | _ => rfl

end Value

namespace Document

/-- A document with its identifier read: the digits of an object identifier become the identifier,
also inside lists, and everything else is as it was. -/
structure Reads (inst d : Document) : Prop where
  names : keys d = keys inst
  fields : ∀ name, name ≠ idKey → get? d name = get? inst name
  digits : ∀ v i, id? inst = some v → v.Gives i → id? d = some (.objectId i)
  items : ∀ items, id? inst = some (.array items) → id? d = some (.array (items.map Value.readId))
  other : ∀ v, id? inst = some v → (∀ i, ¬ v.Gives i) → (∀ items, v ≠ .array items) →
    id? d = some v

theorem keys_readId (d : Document) : keys (readId d) = keys d := by
  induction d with
  | nil => rfl
  | cons entry rest ih => rw [readId_cons, keys_cons, keys_cons, ih]

theorem reads_readId (inst : Document) : inst.Reads (readId inst) where
  names := keys_readId inst
  fields := fun _ hname => get?_readId_of_ne hname inst
  digits := by
    intro v i hv hgives
    rw [id?_readId, hv, Option.map_some, hgives.readId]
  items := by
    intro items hv
    rw [id?_readId, hv, Option.map_some, Value.readId, Value.readIds_eq_map]
  other := by
    intro v hv hdigits hitems
    rw [id?_readId, hv, Option.map_some, Value.readId_of_not_gives hdigits hitems]

end Document

namespace Reconciler

/-! ## The plan -/

/-- What the plan of a batch is, for any reconciler, instances and stored documents. Its updates and
its inserts keep the order of the batch and have each instance once. An instance is updated exactly
when a stored document with an identifier has its key. Its update addresses the first such document
by the identifier and sets what the instance has in the update fields, all its fields but the
identifier where none are given. Any other instance is inserted as it is, except that its identifier
is read: the digits of an object identifier become the identifier, also inside lists. -/
theorem plan_splits_batch (r : Reconciler) (instances persisted : List Document) :
    (r.plan instances persisted).Splits instances.length ∧
    ∀ index inst, instances[index]? = some inst →
      (index ∈ (r.plan instances persisted).updates.map (·.index) ↔ r.Matches persisted inst) ∧
      (index ∈ (r.plan instances persisted).inserts.map (·.index) ↔ ¬ r.Matches persisted inst) ∧
      (∀ u ∈ (r.plan instances persisted).updates, u.index = index → r.Amends persisted inst u) ∧
      ∀ i ∈ (r.plan instances persisted).inserts, i.index = index → inst.Reads i.document := by
  refine ⟨plan_splits r instances persisted, fun index inst hinst => ⟨?_, ?_, ?_, ?_⟩⟩
  · rw [plan_updates_index, mem_places, hinst, ← isSome_partner?_iff]
    simp
  · rw [plan_inserts_index, mem_places, hinst, ← isSome_partner?_iff]
    simp
  · intro u hu hindex
    obtain ⟨inst', index', hmem, id, hpartner, rfl⟩ := mem_plan_updates.mp hu
    -- what the plan has at the index was made of the instance there
    cases hindex
    cases hinst.symm.trans (List.mk_mem_zipIdx_iff_getElem?.mp hmem)
    exact amends_setting hpartner _
  · intro i hi hindex
    obtain ⟨inst', hmem, -, hdocument⟩ := mem_plan_inserts.mp hi
    cases hindex
    cases hinst.symm.trans (List.mk_mem_zipIdx_iff_getElem?.mp hmem)
    rw [hdocument]
    exact Document.reads_readId inst

/-- The digits inside a list are read too: an instance under a list, which gives no object
identifier, is not inserted as it is. -/
theorem list_of_digits_is_read :
    ∃ inst i,
      inst = [("_id", .array [.string "0123456789abcdef01234567"]), ("name", .string "a")] ∧
      (∀ v j, Document.id? inst = some v → ¬ v.Gives j) ∧
      (Reconciler.plan ⟨Model.nameModel.schema, ["name"], none⟩ [inst] []).inserts = [i] ∧
      i.document =
        [("_id", .array [.objectId ⟨0x0123456789abcdef01234567⟩]), ("name", .string "a")] ∧
      i.document ≠ inst := by
  let inst : Document :=
    [("_id", .array [.string "0123456789abcdef01234567"]), ("name", .string "a")]
  have hhex : ObjectId.ofHex? "0123456789abcdef01234567" =
      some ⟨0x0123456789abcdef01234567⟩ := by decide +kernel
  have hread : Document.readId inst =
      [("_id", .array [.objectId ⟨0x0123456789abcdef01234567⟩]), ("name", .string "a")] := by
    simp [inst, Document.readId, Document.idKey, Value.readId, Value.readIds, hhex]
  refine ⟨inst, ⟨0, Document.readId inst⟩, rfl, ?_, ?_, hread, ?_⟩
  · rintro v j hv hgives
    cases hv
    cases hgives
  · simp [plan_eq, insert?, partner?_nil]
  · rw [hread]
    simp [inst]

end Reconciler

end DocMapper
