import DocMapper.Proofs.Equality
import DocMapper.Proofs.Stores
import DocMapper.Proofs.Updates

namespace DocMapper

/-! # The invariant of a store

Every stored document starts with its identifier, no two identifiers are equal, the index on
identifiers comes first among the indexes, and no two indexes have one name. An insertion compares
the new identifier with those in use; everything else that writes leaves identifiers where they
are. So the invariant holds after every run of operations, wherever single operations fail.
-/

namespace Document

variable {d d' changes : Document}

/-- The document starts with its identifier. -/
def StartsWithId (d : Document) : Prop := ∃ id rest, d = (idKey, id) :: rest

/-- What starts with its identifier still does, and with the same one. -/
def KeepsStart (before after : Document) : Prop :=
  ∀ id rest, before = (idKey, id) :: rest → ∃ rest', after = (idKey, id) :: rest'

/-- No `$set` and no `$inc` of an update has a path that is the identifier's or leads into it. -/
def AvoidsId (changes : Document) : Prop :=
  ∀ operator fields, (operator, .document fields) ∈ changes →
    operator = "$set" ∨ operator = "$inc" → ∀ entry ∈ fields,
      (Path.ofString entry.1).head ≠ idKey

theorem KeepsStart.refl (d : Document) : KeepsStart d d := fun _ rest h => ⟨rest, h⟩

theorem KeepsStart.startsWithId (h : KeepsStart d d') (hd : d.StartsWithId) :
    d'.StartsWithId := by
  obtain ⟨id, rest, hd⟩ := hd
  obtain ⟨rest', hd'⟩ := h id rest hd
  exact ⟨id, rest', hd'⟩

theorem KeepsStart.id?_eq (h : KeepsStart d d') (hd : d.StartsWithId) : id? d' = id? d := by
  obtain ⟨id, rest, rfl⟩ := hd
  obtain ⟨rest', rfl⟩ := h id rest rfl
  rw [id?, id?, get?_cons_self, get?_cons_self]

theorem keepsStart_insert {head : String} (hhead : head ≠ idKey) (w : Value) :
    KeepsStart d (insert d head w) := by
  rintro id rest rfl
  exact ⟨insert rest head w, by rw [insert_cons, if_neg hhead.symm]⟩

theorem updated_keepsStart (havoids : AvoidsId changes) (h : updated d changes = .ok d') :
    KeepsStart d d' := by
  intro id rest hd
  refine updated_induction (fun c => ∃ rest', c = (idKey, id) :: rest') ?_ ⟨rest, hd⟩ h
  rintro operator fields hfields ⟨path, operand⟩ hentry c c' ⟨rest', hc⟩ happly
  obtain ⟨-, v, hoperates, hwrite⟩ := applyAt_eq_ok happly
  obtain ⟨w, rfl, -⟩ := write_eq_ok hwrite
  have hwrites : operator = "$set" ∨ operator = "$inc" := by
    cases hoperates with
    | set => exact Or.inl rfl
    | inc _ => exact Or.inr rfl
  exact keepsStart_insert (havoids operator fields hfields hwrites _ hentry) w id rest' hc

theorem replace_keepsStart {replacement : Document} (h : replace d replacement = .ok d') :
    KeepsStart d d' := by
  rintro id rest rfl
  unfold replace at h
  split at h
  · cases h
  · cases h
    rw [idEntry, id?, get?_cons_self]
    exact ⟨_, rfl⟩

end Document

namespace Store

variable {s s' : Store}

/-- The invariant of a store. Of two identifiers, the earlier does not equal the later; documents
with repeated keys apart, this says that neither equals the other. -/
structure Sound (s : Store) : Prop where
  starts : ∀ d ∈ s.documents, d.StartsWithId
  distinctIds : (s.documents.map Document.id?).Pairwise fun a b =>
    ∀ x y, a = some x → b = some y → x.equals y = false
  primary : ∃ others, s.indexes = Index.primary :: others
  distinctNames : (s.indexes.map (·.name)).Nodup

namespace Sound

/-- A fresh collection satisfies the invariant. -/
theorem empty (ids : IdSource) : Sound { ids } where
  starts := fun _ hd => absurd hd List.not_mem_nil
  distinctIds := List.Pairwise.nil
  primary := ⟨[], rfl⟩
  distinctNames := List.nodup_singleton _

/-- What happens to the documents matters to the first half of the invariant only. -/
theorem of_documents (h : s.Sound) {documents : List Document}
    (hstarts : ∀ d ∈ documents, d.StartsWithId)
    (hids : (documents.map Document.id?).Sublist (s.documents.map Document.id?)) :
    Sound { s with documents } where
  starts := hstarts
  distinctIds := h.distinctIds.sublist hids
  primary := h.primary
  distinctNames := h.distinctNames

/-- Documents that stay where they are and keep their starts. -/
theorem of_forall₂ (h : s.Sound) {documents : List Document}
    (hkeeps : List.Forall₂ Document.KeepsStart s.documents documents) :
    Sound { s with documents } := by
  refine h.of_documents ?_ ?_
  · intro d' hd'
    obtain ⟨d, hd, hkeep⟩ := forall₂_exists_of_mem hkeeps hd'
    exact hkeep.startsWithId (h.starts d hd)
  · have hids : documents.map Document.id? = s.documents.map Document.id? := by
      have hstarts := h.starts
      generalize s.documents = before at hkeeps hstarts
      induction hkeeps with
      | nil => rfl
      | @cons d d' _ _ hkeep _ ih =>
        rw [List.map_cons, List.map_cons, hkeep.id?_eq (hstarts d List.mem_cons_self),
          ih fun e he => hstarts e (List.mem_cons_of_mem _ he)]
    rw [hids]

/-- Documents that remain after some were removed. -/
theorem of_sublist (h : s.Sound) {documents : List Document}
    (hsub : documents.Sublist s.documents) : Sound { s with documents } :=
  h.of_documents (fun d hd => h.starts d (hsub.subset hd)) (hsub.map _)

theorem insert (h : s.Sound) {d : Document} {id : Value} (hinsert : s.insert d = .ok (id, s')) :
    s'.Sound := by
  have hnew := insert_eq_ok hinsert
  refine ⟨?_, ?_, hnew.indexes ▸ h.primary, hnew.indexes ▸ h.distinctNames⟩
  · intro e he
    rw [hnew.documents, List.mem_append, List.mem_singleton] at he
    rcases he with he | rfl
    · exact h.starts e he
    · exact ⟨_, _, rfl⟩
  · rw [hnew.documents, List.map_append, List.pairwise_append]
    refine ⟨h.distinctIds, List.pairwise_singleton _ _, ?_⟩
    -- the identifier was compared with every one in use
    intro a ha b hb x y hx hy
    obtain ⟨e, he, rfl⟩ := List.mem_map.mp ha
    rw [List.map_singleton, List.mem_singleton, Document.id?, Document.get?_cons_self] at hb
    cases hb.symm.trans hy
    simpa [Document.hasId, hx] using hnew.unused e he

theorem modifyOne (h : s.Sound) {filter : Document} {options : ReadOptions} {upsert : Bool}
    {change : Document → Except Error Document} {create : Except Error Document}
    (hchange : ∀ d d', change d = .ok d' → Document.KeepsStart d d') {answer : Option Document}
    (hmodify : s.modifyOne filter options upsert change create = .ok (answer, s')) :
    s'.Sound := by
  rcases modifyOne_eq_ok hmodify with
    ⟨i, d, next, hd, hnext, rfl⟩ | ⟨-, d, id, -, hinsert⟩ | ⟨-, rfl⟩
  · exact h.of_forall₂ (forall₂_set Document.KeepsStart.refl hd (hchange d next hnext))
  · exact h.insert hinsert
  · exact h

theorem createIndex (h : s.Sound) {draft : IndexDraft} {name : String}
    (hcreate : s.createIndex draft = .ok (name, s')) : s'.Sound := by
  unfold Store.createIndex at hcreate
  dsimp only at hcreate
  split at hcreate
  · cases hcreate
  · split at hcreate
    · split at hcreate
      · cases hcreate
        exact h
      · cases hcreate
    · rename_i hnew
      cases hcreate
      obtain ⟨others, hothers⟩ := h.primary
      refine ⟨h.starts, h.distinctIds, ⟨others ++ [draft.toIndex], ?_⟩, ?_⟩
      · rw [hothers, List.cons_append]
      · rw [List.map_append, List.map_singleton, List.nodup_append]
        refine ⟨h.distinctNames, List.nodup_singleton _, ?_⟩
        -- the name was looked for among the indexes
        intro a ha b hb hab
        obtain ⟨index, hindex, rfl⟩ := List.mem_map.mp ha
        rw [List.mem_singleton.mp hb] at hab
        exact absurd hab (by simpa using List.find?_eq_none.mp hnew index hindex)

theorem dropIndex (h : s.Sound) {name : String} {answer : Unit}
    (hdrop : s.dropIndex name = .ok (answer, s')) : s'.Sound := by
  unfold Store.dropIndex at hdrop
  split at hdrop
  · cases hdrop
  · rename_i hname
    split at hdrop
    · cases hdrop
      obtain ⟨others, hothers⟩ := h.primary
      refine ⟨h.starts, h.distinctIds, ⟨others.filter (·.name ≠ name), ?_⟩, ?_⟩
      · have hprimary : Index.primary.name ≠ name := fun he => hname he.symm
        rw [hothers, List.filter_cons_of_pos (by simpa using hprimary)]
      · exact h.distinctNames.sublist (List.filter_sublist.map _)
    · cases hdrop

/-- No identifier equals another, whichever comes first, if its documents have distinct keys. -/
theorem equals_eq_false (h : s.Sound) {i j : Nat} {d e : Document} {x y : Value}
    (hd : s.documents[i]? = some d) (he : s.documents[j]? = some e) (hne : i ≠ j)
    (hx : Document.id? d = some x) (hy : Document.id? e = some y)
    (horder : i < j ∨ x.DistinctKeys) : x.equals y = false := by
  -- the invariant compares an earlier identifier with a later one
  have hlater : ∀ {i j : Nat} {d e : Document} {x y : Value}, s.documents[i]? = some d →
      s.documents[j]? = some e → i < j → Document.id? d = some x → Document.id? e = some y →
      x.equals y = false := by
    intro i j d e x y hd he hlt hx hy
    obtain ⟨hi, rfl⟩ := List.getElem?_eq_some_iff.mp hd
    obtain ⟨hj, rfl⟩ := List.getElem?_eq_some_iff.mp he
    have hpair := List.pairwise_iff_getElem.mp h.distinctIds i j (by simpa) (by simpa) hlt
    exact hpair x y (by simpa using hx) (by simpa using hy)
  rcases Nat.lt_or_gt_of_ne hne with hlt | hgt
  · exact hlater hd he hlt hx hy
  · -- the other way round, equality has to be symmetric, which distinct keys give
    have hkeys : x.DistinctKeys := horder.resolve_left (Nat.lt_asymm hgt)
    rw [← Bool.not_eq_true]
    intro hequals
    have hsymm := Value.equals_symm hkeys hequals
    rw [hlater he hd hgt hy hx] at hsymm
    cases hsymm

end Sound

end Store

/-! ## Operations -/

/-- An operation of a store that writes. -/
inductive StoreOperation where
  | insertOne (document : Document)
  | insertMany (documents : List Document)
  | updateOne (filter changes : Document) (upsert : Bool)
  | updateMany (filter changes : Document) (upsert : Bool)
  | findOneAndUpdate (filter changes : Document) (options : ReadOptions) (upsert : Bool)
  | replaceOne (filter replacement : Document) (upsert : Bool)
  | findOneAndReplace (filter replacement : Document) (options : ReadOptions) (upsert : Bool)
  | deleteOne (filter : Document)
  | deleteMany (filter : Document)
  | createIndex (draft : IndexDraft)
  | dropIndex (name : String)
  | drop
  | clear

namespace StoreOperation

open DocMapper.Action (Preserves)

/-- Carries the operation out, leaving its answer aside. -/
def perform : StoreOperation → Action Unit
  | insertOne document => do let _ ← Action.insertOne document
  | insertMany documents => do let _ ← Action.insertMany documents
  | updateOne filter changes upsert => do let _ ← Action.updateOne filter changes upsert
  | updateMany filter changes upsert => do let _ ← Action.updateMany filter changes upsert
  | findOneAndUpdate filter changes options upsert => do
    let _ ← Action.atomic (·.findOneAndUpdate filter changes options upsert)
  | replaceOne filter replacement upsert => do
    let _ ← Action.atomic (·.replaceOne filter replacement upsert)
  | findOneAndReplace filter replacement options upsert => do
    let _ ← Action.atomic (·.findOneAndReplace filter replacement options upsert)
  | deleteOne filter => do let _ ← Action.atomic (·.deleteOne filter)
  | deleteMany filter => do let _ ← Action.atomic (·.deleteMany filter)
  | createIndex draft => do let _ ← Action.atomic (·.createIndex draft)
  | dropIndex name => Action.atomic (·.dropIndex name)
  | drop => Action.drop
  | clear => Action.clear

/-- The operation does not update identifiers: no `$set` and no `$inc` of it leads to one. -/
def AvoidsIds : StoreOperation → Prop
  | updateOne _ changes _ => changes.AvoidsId
  | updateMany _ changes _ => changes.AvoidsId
  | findOneAndUpdate _ changes _ _ => changes.AvoidsId
  | _ => True

/-- The store after a run of operations, of which each starts where the one before it ended,
whether that succeeded or failed. -/
def run (operations : List StoreOperation) (s : Store) : Store :=
  operations.foldl (fun s operation => (operation.perform s).2) s

theorem insertOne_sound (d : Document) :
    Preserves Store.Sound (Action.insertOne d) fun _ => True :=
  Preserves.atomic fun _ _ _ h hinsert => h.insert hinsert

theorem update_sound {filter changes : Document} (havoids : changes.AvoidsId)
    (upsert many : Bool) :
    Preserves Store.Sound (Action.update filter changes upsert many) fun _ => True := by
  refine Action.update_preserves (fun _ s h => ?_) fun _ d _ => insertOne_sound d
  exact h.of_forall₂ (Document.updateEach_forall₂ Document.KeepsStart.refl
    (fun _ _ => Document.updated_keepsStart havoids) filter many s.documents)

theorem replaceOne_sound (filter replacement : Document) (upsert : Bool) :
    Preserves Store.Sound (Action.atomic (·.replaceOne filter replacement upsert))
      fun _ => True := by
  refine Preserves.atomic fun s answer s' h hrun => ?_
  obtain ⟨-, -, hrun⟩ := bind_eq_ok.mp hrun
  obtain ⟨⟨outcome, documents⟩, hreplace, hrun⟩ := bind_eq_ok.mp hrun
  dsimp only at hrun
  split at hrun
  · cases pure_eq_ok.mp hrun
    exact h.of_forall₂ (Document.replaceFirst_forall₂ Document.KeepsStart.refl
      (fun _ _ => Document.replace_keepsStart) hreplace)
  · split at hrun
    · obtain ⟨d, -, hrun⟩ := bind_eq_ok.mp hrun
      obtain ⟨⟨id, t⟩, hinsert, hrun⟩ := bind_eq_ok.mp hrun
      cases pure_eq_ok.mp hrun
      exact h.insert hinsert
    · cases pure_eq_ok.mp hrun
      exact h

/-- One operation keeps the invariant, whether it succeeds or fails half way. -/
theorem perform_sound {operation : StoreOperation} (havoids : operation.AvoidsIds) :
    Preserves Store.Sound operation.perform fun _ => True := by
  -- the answer of the operation is dropped, and the store does not depend on it
  have hdiscard : ∀ {α : Type} {a : Action α}, Preserves Store.Sound a (fun _ => True) →
      Preserves Store.Sound (do let _ ← a) fun _ => True :=
    fun ha => ha.bind fun _ _ => Preserves.pure trivial
  cases operation with
  | insertOne d => exact hdiscard (insertOne_sound d)
  | insertMany docs =>
    exact hdiscard (Action.insertMany_preserves fun d _ => insertOne_sound d)
  | updateOne filter changes upsert => exact hdiscard (update_sound havoids upsert false)
  | updateMany filter changes upsert => exact hdiscard (update_sound havoids upsert true)
  | findOneAndUpdate filter changes options upsert =>
    refine hdiscard (Preserves.atomic fun s answer s' h hrun => ?_)
    obtain ⟨-, -, hmodify⟩ := bind_eq_ok.mp hrun
    exact h.modifyOne (fun _ _ => Document.updated_keepsStart havoids) hmodify
  | replaceOne filter replacement upsert =>
    exact hdiscard (replaceOne_sound filter replacement upsert)
  | findOneAndReplace filter replacement options upsert =>
    refine hdiscard (Preserves.atomic fun s answer s' h hrun => ?_)
    obtain ⟨-, -, hmodify⟩ := bind_eq_ok.mp hrun
    exact h.modifyOne (fun _ _ => Document.replace_keepsStart) hmodify
  | deleteOne filter =>
    refine hdiscard (Preserves.atomic fun s count s' h hrun => ?_)
    obtain ⟨⟨n, documents⟩, hremove, hrun⟩ := bind_eq_ok.mp hrun
    cases pure_eq_ok.mp hrun
    exact h.of_sublist (Document.removeFirst_sublist hremove)
  | deleteMany filter =>
    refine hdiscard (Preserves.atomic fun s count s' h hrun => ?_)
    obtain ⟨⟨n, documents⟩, hremove, hrun⟩ := bind_eq_ok.mp hrun
    cases pure_eq_ok.mp hrun
    exact h.of_sublist (Document.removeAll_sublist hremove)
  | createIndex draft =>
    exact hdiscard (Preserves.atomic fun _ _ _ h hrun => h.createIndex hrun)
  | dropIndex name => exact Preserves.atomic fun _ _ _ h hrun => h.dropIndex hrun
  | drop => exact fun s _ => ⟨Store.Sound.empty s.ids, fun _ _ => trivial⟩
  | clear => exact fun s h => ⟨h.of_sublist (List.nil_sublist _), fun _ _ => trivial⟩

/-- A run keeps the invariant. -/
theorem run_sound {operations : List StoreOperation}
    (havoids : ∀ operation ∈ operations, operation.AvoidsIds) {s : Store} (h : s.Sound) :
    (run operations s).Sound := by
  induction operations generalizing s with
  | nil => exact h
  | cons operation rest ih =>
    exact ih (fun o ho => havoids o (List.mem_cons_of_mem _ ho))
      (perform_sound (havoids operation List.mem_cons_self) s h).1

/-- Whatever is done to a fresh collection, apart from updates of identifiers, and whatever
identifiers it draws: every stored document has the key of the identifier first, no identifier
equals another, the index on identifiers comes first among the indexes, and no two indexes have one
name. -/
theorem reachable_stores_are_sound (ids : IdSource) (operations : List StoreOperation)
    (havoids : ∀ operation ∈ operations, operation.AvoidsIds) :
    (∀ d ∈ (run operations { ids }).documents,
      ∃ id rest, d = (Document.idKey, id) :: rest) ∧
    (∀ (i j : Nat) d e x y, (run operations { ids }).documents[i]? = some d →
      (run operations { ids }).documents[j]? = some e → i ≠ j →
      Document.id? d = some x → Document.id? e = some y → i < j ∨ x.DistinctKeys →
      x.equals y = false) ∧
    (∃ others, (run operations { ids }).indexes =
      { name := "_id_", keys := [("_id", .int32 1)] } :: others) ∧
    ((run operations { ids }).indexes.map (·.name)).Nodup := by
  have h := run_sound havoids (Store.Sound.empty ids)
  refine ⟨h.starts, ?_, h.primary, h.distinctNames⟩
  intro i j d e x y hd he hne hx hy horder
  exact h.equals_eq_false hd he hne hx hy horder

/-- The theorem at a run with an upsert, a batch that stops at an identifier in use, a replacement,
and an index that is created twice. -/
theorem reachable_stores_are_sound_upsert :
    ∃ operations : List StoreOperation, (∀ operation ∈ operations, operation.AvoidsIds) ∧
      (run operations { ids := ⟨fun _ => ⟨0⟩, 0⟩ }).documents =
        [[("_id", .string "a"), ("n", .int32 1)], [("_id", .string "b"), ("m", .null)]] ∧
      (run operations { ids := ⟨fun _ => ⟨0⟩, 0⟩ }).indexes.map (·.name) = ["_id_", "n_1"] ∧
      (Value.string "a").equals (.string "b") = false := by
  have hchanges : Document.AvoidsId [("$set", .document [("n", .int32 1)])] := by
    intro operator fields hfields _ entry hentry
    cases List.mem_singleton.mp hfields
    rw [List.mem_singleton.mp hentry]
    decide
  obtain ⟨operations, havoids, hdocuments, hindexes⟩ :
      ∃ operations : List StoreOperation, (∀ operation ∈ operations, operation.AvoidsIds) ∧
        (run operations { ids := ⟨fun _ => ⟨0⟩, 0⟩ }).documents =
          [[("_id", .string "a"), ("n", .int32 1)], [("_id", .string "b"), ("m", .null)]] ∧
        (run operations { ids := ⟨fun _ => ⟨0⟩, 0⟩ }).indexes.map (·.name) =
          ["_id_", "n_1"] := by
    refine ⟨[.updateOne [("_id", .string "a")] [("$set", .document [("n", .int32 1)])] true,
      .insertMany [[("n", .string "x"), ("_id", .string "b")], [("_id", .string "a")], []],
      .replaceOne [("n", .string "x")] [("m", .null)] false,
      .createIndex { keys := [("n", .int32 1)] }, .createIndex { keys := [("n", .int32 1)] }],
      ?_, rfl, rfl⟩
    simp only [List.forall_mem_cons]
    exact ⟨hchanges, trivial, trivial, trivial, trivial, fun _ h => absurd h List.not_mem_nil⟩
  have hids := (reachable_stores_are_sound ⟨fun _ => ⟨0⟩, 0⟩ operations havoids).2.1 0 1
  rw [hdocuments] at hids
  exact ⟨operations, havoids, hdocuments, hindexes,
    hids _ _ _ _ rfl rfl (by decide) rfl rfl (Or.inl (by decide))⟩

end StoreOperation

end DocMapper
