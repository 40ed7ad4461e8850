import DocMapper.Proofs.BatchRuns

namespace DocMapper

/-! # Batch sizes

The size of the batches matters to a run in one way only. Instances that share a key with no stored
document are all inserted when they come in the first batch with the key, and the later ones update
what was inserted. So two runs end alike when the first batches with a key have equally many of its
instances, and only then.
-/

namespace Reconciler

variable {r : Reconciler} {inst : Document}

/-! ## New instances by their number -/

/-- How many instances with a key there are in the first part that has any. -/
def leading (r : Reconciler) (key : Option (List Identity)) : List (List Document) → Nat
  | [] => 0
  | part :: rest =>
    if part.countP (r.key? · = key) = 0 then leading r key rest
    else part.countP (r.key? · = key)

/-- How many instances with a key are new in parts: none if the key is given. -/
def quota (r : Reconciler) (keys : List (Option (List Identity))) (parts : List (List Document))
    (key : Option (List Identity)) : Nat :=
  if key ∈ keys then 0 else r.leading key parts

/-- Of instances, those that come first with their keys, up to a number for each key, or the
others. -/
def sift (r : Reconciler) (new : Bool) (count : Option (List Identity) → Nat) :
    List Document → List Document
  | [] => []
  | inst :: rest =>
    (if decide (0 < count (r.key? inst)) = new then [inst] else []) ++
      sift r new (Function.update count (r.key? inst) (count (r.key? inst) - 1)) rest

variable {new : Bool} {count : Option (List Identity) → Nat}
  {keys : List (Option (List Identity))} {part : List Document} {rest : List (List Document)}

theorem sift_append (part rest : List Document) : r.sift new count (part ++ rest) =
    r.sift new count part ++
      r.sift new (fun key => count key - part.countP (r.key? · = key)) rest := by
  induction part generalizing count with
  | nil => rfl
  | cons inst others ih =>
    -- what the first instance takes and what the others take add up
    have hspent : (fun key => Function.update count (r.key? inst) (count (r.key? inst) - 1) key -
        others.countP (r.key? · = key)) =
        fun key => count key - (inst :: others).countP (r.key? · = key) := by
      funext key
      by_cases hkey : key = r.key? inst
      · subst hkey
        rw [Function.update_self, List.countP_cons_of_pos (by simp)]
        omega
      · rw [Function.update_of_ne hkey,
          List.countP_cons_of_neg (by simpa using fun h => hkey h.symm)]
    rw [List.cons_append, sift, sift, ih, hspent, List.append_assoc]

/-- Where the numbers suffice, all instances are new but those with given keys. -/
theorem sift_of_le (hnone : ∀ key ∈ keys, count key = 0)
    (hsuffice : ∀ key, key ∉ keys → part.countP (r.key? · = key) ≤ count key) :
    r.sift new count part = part.filter fun inst => decide (r.key? inst ∉ keys) = new := by
  induction part generalizing count with
  | nil => rfl
  | cons inst others ih =>
    -- with its own occurrence still ahead, the number for the key is not used up
    have hiff : 0 < count (r.key? inst) ↔ r.key? inst ∉ keys := by
      constructor
      · intro hpos hmem
        rw [hnone _ hmem] at hpos
        exact absurd hpos (Nat.lt_irrefl 0)
      · intro hkey
        have hle := hsuffice _ hkey
        rw [List.countP_cons_of_pos (by simp)] at hle
        omega
    rw [sift, ih, List.filter_cons]
    · by_cases hkey : r.key? inst ∈ keys <;> cases new <;> simp [hiff, hkey]
    · intro key hkey
      by_cases hsame : key = r.key? inst
      · rw [hsame, Function.update_self, ← hsame, hnone key hkey]
      · rw [Function.update_of_ne hsame, hnone key hkey]
    · intro key hkey
      have hle := hsuffice key hkey
      by_cases hsame : key = r.key? inst
      · subst hsame
        rw [List.countP_cons_of_pos (by simp)] at hle
        rw [Function.update_self]
        omega
      · rw [List.countP_cons_of_neg (by simpa using fun h => hsame h.symm)] at hle
        rwa [Function.update_of_ne hsame]

theorem countP_le_leading (r : Reconciler) (key : Option (List Identity)) (part : List Document)
    (rest : List (List Document)) :
    part.countP (r.key? · = key) ≤ r.leading key (part :: rest) := by
  rw [leading]
  split
  · rename_i hzero
    rw [hzero]
    exact Nat.zero_le _
  · exact Nat.le_refl _

/-- After a part the numbers are those that are left. -/
theorem quota_append (keys : List (Option (List Identity))) (part : List Document)
    (rest : List (List Document)) (key : Option (List Identity)) :
    r.quota (keys ++ part.map r.key?) rest key =
      r.quota keys (part :: rest) key - part.countP (r.key? · = key) := by
  have hmem : key ∈ part.map r.key? ↔ part.countP (r.key? · = key) ≠ 0 := by
    rw [← Nat.pos_iff_ne_zero, List.countP_pos_iff, List.mem_map]
    simp
  simp only [quota, List.mem_append, hmem, leading]
  by_cases hkey : key ∈ keys <;> by_cases hzero : part.countP (r.key? · = key) = 0 <;>
    simp [hkey, hzero]

/-- Which instances are new in parts depends on their numbers in the first parts only. -/
theorem siftParts_eq_sift (keys : List (Option (List Identity))) (parts : List (List Document)) :
    r.siftParts new keys parts = r.sift new (r.quota keys parts) parts.flatten := by
  induction parts generalizing keys with
  | nil => rfl
  | cons part rest ih =>
    rw [siftParts, List.flatten_cons, sift_append, ih, funext (quota_append keys part rest)]
    refine congrArg (· ++ _) (sift_of_le (fun key hkey => ?_) fun key hkey => ?_).symm
    · exact if_pos hkey
    · rw [quota, if_neg hkey]
      exact r.countP_le_leading key part rest

theorem mem_of_mem_siftParts {parts : List (List Document)}
    (h : inst ∈ r.siftParts new keys parts) : inst ∈ parts.flatten := by
  induction parts generalizing keys with
  | nil => exact h
  | cons part rest ih =>
    rw [siftParts, List.mem_append] at h
    rw [List.flatten_cons, List.mem_append]
    exact h.imp List.mem_of_mem_filter ih

/-- There are as many new instances with a key as the number for it says. -/
theorem countP_siftParts (keys : List (Option (List Identity))) (parts : List (List Document))
    (key : Option (List Identity)) :
    (r.siftParts true keys parts).countP (r.key? · = key) = r.quota keys parts key := by
  induction parts generalizing keys with
  | nil => simp [siftParts, quota, leading]
  | cons part rest ih =>
    have hpart : (part.filter fun inst => decide (r.key? inst ∉ keys) = true).countP
        (r.key? · = key) = if key ∈ keys then 0 else part.countP (r.key? · = key) := by
      rw [List.countP_filter]
      split
      · rename_i hkey
        refine List.countP_eq_zero.mpr fun inst _ h => ?_
        simp only [Bool.and_eq_true, decide_eq_true_eq] at h
        exact h.2 (h.1 ▸ hkey)
      · rename_i hkey
        refine List.countP_congr fun inst _ => ?_
        simp only [Bool.and_eq_true, decide_eq_true_eq]
        exact and_iff_left_of_imp fun h => h ▸ hkey
    have hle := r.countP_le_leading key part rest
    rw [siftParts, List.countP_append, hpart, ih, quota_append]
    by_cases hkey : key ∈ keys
    · simp [quota, hkey]
    · -- what the first part inserts of its key is never taken back
      rw [quota, if_neg hkey, if_neg hkey]
      omega

/-- If not more than one instance has a key, it does not matter how the instances are cut. -/
theorem leading_eq_countP {parts : List (List Document)} {key : Option (List Identity)}
    (h : parts.flatten.countP (r.key? · = key) ≤ 1) :
    r.leading key parts = parts.flatten.countP (r.key? · = key) := by
  induction parts with
  | nil => rfl
  | cons part rest ih =>
    rw [List.flatten_cons, List.countP_append] at h ⊢
    rw [leading]
    split
    · rename_i hzero
      rw [ih (by omega), hzero, Nat.zero_add]
    · omega

end Reconciler

/-! ## Agreeing up to generated identifiers -/

namespace IdSource

variable {ids : IdSource}

theorem past_eq (ids : IdSource) (d : Document) :
    ids.past d = { ids with drawn := ids.drawn + if (Document.id? d).isNone then 1 else 0 } := by
  unfold past advance
  cases Document.id? d <;> rfl

/-- Every document without an identifier takes one. -/
theorem pastAll_eq (ids : IdSource) (docs : List Document) :
    ids.pastAll docs =
      { ids with drawn := ids.drawn + docs.countP fun d => (Document.id? d).isNone } := by
  induction docs generalizing ids with
  | nil => rfl
  | cons d rest ih =>
    have hcount : ids.drawn + (if (Document.id? d).isNone then 1 else 0) +
        rest.countP (fun d => (Document.id? d).isNone) =
        ids.drawn + (d :: rest).countP fun d => (Document.id? d).isNone := by
      rw [List.countP_cons]
      omega
    rw [pastAll, List.foldl_cons, ← pastAll, past_eq, ih, ← hcount]

end IdSource

namespace Document

variable {ids₁ ids₂ : IdSource} {draws : Nat} {d₁ d₂ : Document}

/-- Documents that agree up to identifiers from the first draws of two supplies: they are the same,
or they have the same fields under what the supplies gave in one draw. -/
inductive Alike (ids₁ ids₂ : IdSource) (draws : Nat) : Document → Document → Prop
  | same (d : Document) : Alike ids₁ ids₂ draws d d
  | generated {draw : Nat} (hdraw : draw < draws) (rest : Document) :
      Alike ids₁ ids₂ draws ((idKey, .objectId (ids₁.stream (ids₁.drawn + draw))) :: rest)
        ((idKey, .objectId (ids₂.stream (ids₂.drawn + draw))) :: rest)

namespace Alike

theorem insert (h : Alike ids₁ ids₂ draws d₁ d₂) (key : String) (v : Value) :
    Alike ids₁ ids₂ draws (Document.insert d₁ key v) (Document.insert d₂ key v) := by
  cases h with
  | same => exact .same _
  | generated hdraw rest =>
    rw [insert_cons, insert_cons]
    split
    · exact .same _
    · exact .generated hdraw _

theorem insertAll (h : Alike ids₁ ids₂ draws d₁ d₂) (fields : Document) :
    Alike ids₁ ids₂ draws (Document.insertAll d₁ fields) (Document.insertAll d₂ fields) := by
  induction fields generalizing d₁ d₂ with
  | nil => exact h
  | cons entry rest ih => exact ih (h.insert entry.1 entry.2)

theorem hasOwnId_eq (h : Alike ids₁ ids₂ draws d₁ d₂) : d₁.hasOwnId = d₂.hasOwnId := by
  have hown : ∀ (id : ObjectId) (rest : Document),
      hasOwnId ((idKey, .objectId id) :: rest) = true := fun id rest => by
    rw [hasOwnId, id?, get?_cons_self, Option.any_some, Value.equals_eq_beq rfl, Value.beq,
      beq_self_eq_true]
  cases h with
  | same => rfl
  | generated => rw [hown, hown]

/-- Where the identifier is among the query fields, no draws are allowed for. -/
theorem key?_eq {r : Reconciler} (hr : idKey ∈ r.queryFields → draws = 0)
    (h : Alike ids₁ ids₂ draws d₁ d₂) : r.key? d₁ = r.key? d₂ := by
  cases h with
  | same => rfl
  | generated hdraw rest =>
    refine Reconciler.key?_congr fun field hfield => ?_
    have hne : idKey ≠ field := by
      rintro rfl
      rw [hr hfield] at hdraw
      exact absurd hdraw (Nat.not_lt_zero _)
    rw [Reconciler.identity?, Reconciler.identity?, get?_cons_of_ne hne, get?_cons_of_ne hne]

end Alike

/-- Two supplies stamp documents alike. -/
theorem alike_stampAll (ids₁ ids₂ : IdSource) {used : Nat} {docs : List Document}
    (h : used + docs.countP (fun d => (id? d).isNone) ≤ draws) :
    List.Forall₂ (Alike ids₁ ids₂ draws)
      (IdSource.stampAll { ids₁ with drawn := ids₁.drawn + used } docs)
      (IdSource.stampAll { ids₂ with drawn := ids₂.drawn + used } docs) := by
  induction docs generalizing used with
  | nil => exact .nil
  | cons d rest ih =>
    rw [List.countP_cons] at h
    simp only [IdSource.stampAll, IdSource.past_eq, Nat.add_assoc]
    refine .cons ?_ (ih (by omega))
    rw [IdSource.stamp, IdSource.stamp]
    cases hid : id? d with
    | some id => exact .same _
    | none =>
      rw [hid, Option.isNone_none, if_pos rfl] at h
      exact .generated (by omega) _

end Document

namespace Reconciler

variable {r : Reconciler} {ids₁ ids₂ : IdSource} {draws : Nat}
  {instances docs₁ docs₂ found : List Document}

/-! ## Runs that end alike -/

section Alike

variable (hr : Document.idKey ∈ r.queryFields → draws = 0)
  (h : List.Forall₂ (Document.Alike ids₁ ids₂ draws) docs₁ docs₂)

include hr h

theorem amend_alike (inst : Document) :
    List.Forall₂ (Document.Alike ids₁ ids₂ draws) (r.amend inst docs₁) (r.amend inst docs₂) := by
  induction h with
  | nil => exact .nil
  | cons hd hrest ih =>
    rw [amend, amend, hd.key?_eq hr, hd.hasOwnId_eq]
    split
    · refine .cons ?_ hrest
      split
      · exact hd.insertAll _
      · exact hd
    · exact .cons hd ih

theorem amendAll_alike (found : List Document) :
    List.Forall₂ (Document.Alike ids₁ ids₂ draws) (r.amendAll found docs₁)
      (r.amendAll found docs₂) := by
  induction found generalizing docs₁ docs₂ with
  | nil => exact h
  | cons inst rest ih => exact ih (amend_alike hr h inst)

theorem reaches_alike (inst : Document) : r.reaches docs₁ inst = r.reaches docs₂ inst :=
  (reaches_congr (h.imp fun _ _ hd => ⟨(hd.key?_eq hr).symm, hd.hasOwnId_eq.symm⟩) inst).symm

end Alike

/-- Two runs end alike: with as many instances matched and inserted, and with documents that agree
in their order, up to the identifiers that were generated in the runs. -/
structure EndAlike (s₁ s₂ : Store) (a₁ a₂ : BatchSummary) (s₁' s₂' : Store) : Prop where
  documents : List.Forall₂ (Document.Alike s₁.ids s₂.ids (s₁'.ids.drawn - s₁.ids.drawn))
    s₁'.documents s₂'.documents
  matched : a₁.matched = a₂.matched
  inserted : a₁.insertedIds.length = a₂.insertedIds.length

section Runs

variable {Known : Value → Prop} (hr : r.Faithful instances Known) {s s' s₁ s₂ s₁' s₂' : Store}
  {a a₁ a₂ : BatchSummary} {new found₁ found₂ new₁ new₂ : List Document}

theorem Outcome.drawn_sub (h : r.Outcome instances Known s found new a s') :
    s'.ids.drawn - s.ids.drawn =
      (new.map Document.readId).countP fun d => (Document.id? d).isNone := by
  rw [h.ids, IdSource.pastAll_eq]
  exact Nat.add_sub_cancel_left _ _

include hr

/-- Instances that are matched by their identifiers have them. -/
theorem Outcome.drawn_sub_eq_zero (h : r.Outcome instances Known s found new a s')
    (hnew : ∀ inst ∈ new, inst ∈ instances) (hid : Document.idKey ∈ r.queryFields) :
    s'.ids.drawn - s.ids.drawn = 0 := by
  rw [h.drawn_sub, List.countP_eq_zero]
  rintro _ hd hnone
  obtain ⟨inst, hinst, rfl⟩ := List.mem_map.mp hd
  obtain ⟨v, hv, -⟩ := (checkBatch_eq_ok.mp hr.check).1 inst (hnew inst hinst) _ hid
  rw [Document.id?_readId, Document.id?, hv] at hnone
  cases hnone

/-- Runs that find and create the same end alike. -/
theorem Outcome.endAlike (h₁ : r.Outcome instances Known s₁ found new a₁ s₁')
    (h₂ : r.Outcome instances Known s₂ found new a₂ s₂') (hdocs : s₂.documents = s₁.documents)
    (hnew : ∀ inst ∈ new, inst ∈ instances) : EndAlike s₁ s₂ a₁ a₂ s₁' s₂' := by
  have hzero := h₁.drawn_sub_eq_zero hr hnew
  have hcreated : List.Forall₂ (Document.Alike s₁.ids s₂.ids (s₁'.ids.drawn - s₁.ids.drawn))
      (s₁.documents ++ s₁.ids.stampAll (new.map Document.readId))
      (s₂.documents ++ s₂.ids.stampAll (new.map Document.readId)) := by
    rw [hdocs]
    refine List.rel_append (List.forall₂_same.mpr fun d _ => .same d) ?_
    have hdraws : 0 + (new.map Document.readId).countP (fun d => (Document.id? d).isNone) ≤
        s₁'.ids.drawn - s₁.ids.drawn := by rw [h₁.drawn_sub, Nat.zero_add]
    exact Document.alike_stampAll s₁.ids s₂.ids hdraws
  refine ⟨?_, ?_, ?_⟩
  · rw [h₁.documents, h₂.documents]
    exact amendAll_alike hzero hcreated found
  · rw [h₁.matched, h₂.matched]
    exact List.countP_congr fun inst _ => by rw [reaches_alike hzero hcreated]
  · rw [h₁.inserted, h₂.inserted]

/-- Runs that end alike have created documents with the same keys. -/
theorem Outcome.map_key?_new (h₁ : r.Outcome instances Known s₁ found₁ new₁ a₁ s₁')
    (h₂ : r.Outcome instances Known s₂ found₂ new₂ a₂ s₂') (hdocs : s₂.documents = s₁.documents)
    (hnew₁ : ∀ inst ∈ new₁, inst ∈ instances) (hnew₂ : ∀ inst ∈ new₂, inst ∈ instances)
    (h : EndAlike s₁ s₂ a₁ a₂ s₁' s₂') : new₁.map r.key? = new₂.map r.key? := by
  have hkeys : s₁'.documents.map r.key? = s₂'.documents.map r.key? :=
    map_eq_of_forall₂ h.documents fun _ _ _ hd => hd.key?_eq (h₁.drawn_sub_eq_zero hr hnew₁)
  rw [map_key?_of_standsFor h₁.stands, map_key?_of_standsFor h₂.stands, List.map_append,
    List.map_append, map_key?_stampAll hr _ hnew₁, map_key?_stampAll hr _ hnew₂, hdocs] at hkeys
  exact List.append_cancel_left hkeys

/-- Runs over the same instances from the same documents end alike exactly when, for every key that
is not stored, as many instances with it come in the first part with such an instance. -/
theorem endAlike_iff (hs : r.Tame instances Known s₁.documents)
    (hdocs : s₂.documents = s₁.documents) {parts₁ parts₂ : List (List Document)}
    (hparts₁ : parts₁.flatten = instances) (hparts₂ : parts₂.flatten = instances)
    (h₁ : Model.sumUp r.upsertBatch parts₁ s₁ = (.ok a₁, s₁'))
    (h₂ : Model.sumUp r.upsertBatch parts₂ s₂ = (.ok a₂, s₂')) :
    EndAlike s₁ s₂ a₁ a₂ s₁' s₂' ↔
      ∀ inst ∈ instances, r.key? inst ∉ s₁.documents.map r.key? →
        r.leading (r.key? inst) parts₁ = r.leading (r.key? inst) parts₂ := by
  have hmem : ∀ {parts : List (List Document)}, parts.flatten = instances →
      ∀ part ∈ parts, ∀ inst ∈ part, inst ∈ instances := fun hflatten part hpart inst hinst =>
    hflatten ▸ List.mem_flatten_of_mem hpart hinst
  have hnew : ∀ {parts : List (List Document)}, parts.flatten = instances →
      ∀ inst ∈ r.siftParts true (s₁.documents.map r.key?) parts, inst ∈ instances :=
    fun hflatten inst hinst => hflatten ▸ mem_of_mem_siftParts hinst
  have hout₁ := outcome_of_sumUp hr hs (fun _ => Iff.rfl) (hmem hparts₁) h₁
  have hout₂ := outcome_of_sumUp hr (hdocs ▸ hs) (fun _ => Iff.rfl) (hmem hparts₂) h₂
  rw [hdocs] at hout₂
  constructor
  · -- the documents that were created show how many instances were new with each key
    intro halike inst _ hkey
    have hkeys := hout₁.map_key?_new hr hout₂ hdocs (hnew hparts₁) (hnew hparts₂) halike
    have hcount := congrArg (List.countP fun key => key = r.key? inst) hkeys
    rw [List.countP_map, List.countP_map] at hcount
    change List.countP (r.key? · = r.key? inst) _ = List.countP (r.key? · = r.key? inst) _ at hcount
    rwa [countP_siftParts, countP_siftParts, quota, quota, if_neg hkey, if_neg hkey] at hcount
  · -- the numbers for the keys decide what is found and created, and nothing else differs
    intro hleading
    have hquota : r.quota (s₁.documents.map r.key?) parts₁ =
        r.quota (s₁.documents.map r.key?) parts₂ := by
      funext key
      rw [quota, quota]
      split
      · rfl
      rename_i hkey
      by_cases hinst : ∃ inst ∈ instances, r.key? inst = key
      · obtain ⟨inst, hinst, rfl⟩ := hinst
        exact hleading inst hinst hkey
      · have hnone : instances.countP (r.key? · = key) = 0 :=
          List.countP_eq_zero.mpr fun inst hmem h => hinst ⟨inst, hmem, by simpa using h⟩
        rw [leading_eq_countP (by rw [hparts₁, hnone]; exact Nat.zero_le 1),
          leading_eq_countP (by rw [hparts₂, hnone]; exact Nat.zero_le 1), hparts₁, hparts₂]
    have hsift : ∀ new, r.siftParts new (s₁.documents.map r.key?) parts₂ =
        r.siftParts new (s₁.documents.map r.key?) parts₁ := fun new => by
      rw [siftParts_eq_sift, siftParts_eq_sift, hquota, hparts₁, hparts₂]
    rw [hsift, hsift] at hout₂
    exact hout₁.endAlike hr hout₂ hdocs (hnew hparts₁)

end Runs

end Reconciler

end DocMapper
