import DocMapper.Model.Summary
import DocMapper.Proofs.Actions
import DocMapper.Proofs.Document

namespace DocMapper

/-! # Totals of several fields

Several totals of the matching documents are accumulated in one group, under a key for each of them,
and are taken out of its row one by one. A total that is asked for once is the total that a call for
it alone gives. One that is asked for again was taken out of the row before, so that what is read is
the total of no documents.
-/

namespace Accumulator

theorem ofKey?_key (a : Accumulator) : ofKey? a.key = some a := by
  cases a <;> decide

/-- The names of accumulators are equally long. -/
theorem length_toList_name (a : Accumulator) : a.name.toList.length = 3 := by
  cases a <;> rfl

theorem name_injective : Function.Injective name := by
  intro a b h
  have hkey : a.key = b.key := by rw [key, key, h]
  exact Option.some.inj ((ofKey?_key a).symm.trans (hkey ▸ ofKey?_key b))

end Accumulator

namespace Total

/-- The total of documents. -/
def ofDocuments (t : Total) (docs : List Document) : Value :=
  t.accumulator.total (Accumulator.valuesOf (.ofField t.field) docs)

theorem ofDocuments_nil (t : Total) : t.ofDocuments [] = t.ofNone := rfl

theorem toList_key (t : Total) :
    t.key.toList = t.field.toList ++ ("__".toList ++ t.accumulator.name.toList) := by
  rw [key, String.toList_append, String.toList_append, List.append_assoc]

/-- Different totals stand under different keys. -/
theorem key_injective : Function.Injective key := by
  intro t u h
  have hlist := congrArg String.toList h
  rw [toList_key, toList_key] at hlist
  obtain ⟨hfield, hrest⟩ := List.append_inj' hlist (by
    rw [List.length_append, List.length_append, Accumulator.length_toList_name,
      Accumulator.length_toList_name])
  have hname := Accumulator.name_injective (String.toList_inj.mp (List.append_cancel_left hrest))
  cases t
  cases u
  rw [String.toList_inj] at hfield
  cases hfield
  cases hname
  rfl

/-- No total stands under the key of the identifier. -/
theorem key_ne_idKey (t : Total) : t.key ≠ Document.idKey := by
  intro h
  have hlength := congrArg (fun s => s.toList.length) h
  rw [toList_key, List.length_append, List.length_append, Accumulator.length_toList_name] at hlength
  have hid : Document.idKey.toList.length = 3 := rfl
  have hseparator : "__".toList.length = 2 := rfl
  omega

end Total

/-! ## One group of all documents -/

namespace Document

/-- Grouped by null, all documents are one group. -/
theorem groupsBy_null_cons (d : Document) (docs : List Document) :
    groupsBy .null (d :: docs) = [(.null, d :: docs)] := by
  have hrun : ∀ members : List Document,
      docs.foldl (fun groups e => addToGroup ((Value.null.evalIn e).getD .null) e groups)
        [(.null, members)] = [(.null, members ++ docs)] := by
    induction docs with
    | nil => exact fun members => by rw [List.foldl_nil, List.append_nil]
    | cons e rest ih =>
      intro members
      rw [List.foldl_cons]
      exact (ih (members ++ [e])).trans (by rw [List.append_assoc, List.singleton_append])
  exact hrun [d]

end Document

namespace Pipeline

variable {name : Total → String} {ts us : List Total}

/-- What totals ask of a group, under their names. -/
def asking (name : Total → String) (ts : List Total) : Document :=
  ts.map fun t => (name t, t.expression)

/-- The totals over documents, under their names. -/
def answering (name : Total → String) (docs : List Document) (ts : List Total) : Document :=
  ts.map fun t => (name t, t.ofDocuments docs)

/-- The rows of one group: none without documents. -/
def rowsOf (name : Total → String) (ts : List Total) : List Document → List Document
  | [] => []
  | d :: docs => [(Document.idKey, .null) :: answering name (d :: docs) ts]

/-- A group reads back what totals ask of it. -/
theorem readGroup_asking (hname : ∀ t ∈ us, Document.idKey ≠ name t) :
    Stage.readGroup ((Document.idKey, .null) :: asking name us) =
      .ok (.group .null (us.map fun t => ⟨name t, t.accumulator.key, .ofField t.field⟩)) := by
  -- no output is named as the key of the group is, so the fields that are left are the outputs
  have herase : Document.erase ((Document.idKey, .null) :: asking name us) Document.idKey =
      asking name us := by
    rw [Document.erase_cons, if_pos rfl, Document.erase_of_not_mem]
    rintro hmem
    obtain ⟨v, hv⟩ := Document.exists_of_mem_keys hmem
    obtain ⟨t, ht, heq⟩ := List.mem_map.mp hv
    exact hname t ht (congrArg Prod.fst heq).symm
  have hfields : Stage.readGroupFields ((Document.idKey, .null) :: asking name us) =
      .ok (us.map fun t => ⟨name t, t.accumulator.key, .ofField t.field⟩) := by
    rw [Stage.readGroupFields, herase, asking]
    exact mapM_eq_ok_of_forall₂ (by
      rw [List.forall₂_map_left_iff, List.forall₂_map_right_iff]
      exact List.forall₂_same.mpr fun t _ => rfl)
  rw [Stage.readGroup, Document.id?, Document.get?_cons_self]
  dsimp only
  rw [hfields]
  rfl

/-- One group answers what totals ask of it. -/
theorem group_eq (us : List Total) (docs : List Document) :
    Document.group .null (us.map fun t => ⟨name t, t.accumulator.key, .ofField t.field⟩) docs =
      .ok (rowsOf name us docs) := by
  cases docs with
  | nil => rfl
  | cons d docs =>
    have hfields : (us.map fun t => (⟨name t, t.accumulator.key, .ofField t.field⟩ :
        GroupField)).mapM (·.entry (d :: docs)) = .ok (answering name (d :: docs) us) := by
      rw [answering]
      refine mapM_eq_ok_of_forall₂ ?_
      rw [List.forall₂_map_left_iff, List.forall₂_map_right_iff]
      refine List.forall₂_same.mpr fun t _ => ?_
      rw [GroupField.entry, Accumulator.ofKey?_key]
      rfl
    rw [Document.group, Document.groupsBy_null_cons, List.mapM_cons]
    dsimp only
    rw [hfields]
    rfl

/-- A stage after a filter gets what the filter selects. -/
theorem runAll_matching {collection : String → List Document} {stage : Document}
    {rows : List Document → List Document}
    (h : ∀ selected, Stage.runDocument collection selected stage = .ok (rows selected))
    (filter : Document) (docs : List Document) :
    Stage.runAll collection [matching filter, stage] docs =
      (Document.select filter docs).map rows := by
  have hmatch : Stage.runDocument collection docs (matching filter) =
      Document.select filter docs := rfl
  rw [Stage.runAll, List.foldlM_cons, hmatch]
  cases Document.select filter docs with
  | error e => rfl
  | ok selected =>
    rw [ok_bind, List.foldlM_cons, h]
    rfl

/-- Grouping what a filter selects by null answers what totals ask, in one row if anything is
selected. Totals that are asked for again are no entries of their own. -/
theorem runAll_grouping (hname : ∀ t ∈ ts, Document.idKey ≠ name t)
    (hdistinct : Document.ofEntries (asking name ts) = asking name us) (hmem : ∀ t ∈ us, t ∈ ts)
    (collection : String → List Document) (filter : Document) (docs : List Document) :
    Stage.runAll collection [matching filter, grouping .null (asking name ts)] docs =
      (Document.select filter docs).map (rowsOf name us) := by
  have hgrouping : grouping .null (asking name ts) =
      [("$group", .document ((Document.idKey, .null) :: asking name us))] := by
    rw [grouping, Document.insertAll_cons_of_ne, ← hdistinct, Document.ofEntries]
    intro entry hentry
    obtain ⟨t, ht, rfl⟩ := List.mem_map.mp hentry
    exact hname t ht
  have hgroup : ∀ selected, Stage.runDocument collection selected
      (grouping .null (asking name ts)) = .ok (rowsOf name us selected) := by
    intro selected
    rw [hgrouping, Stage.runDocument, Stage.ofDocument,
      readGroup_asking fun t ht => hname t (hmem t ht)]
    exact group_eq us selected
  exact runAll_matching hgroup filter docs

/-! ## Reading the row -/

theorem keys_asking (name : Total → String) (ts : List Total) :
    Document.keys (asking name ts) = ts.map name := List.map_map

/-- A total that is asked for again is no other entry. -/
theorem insert_asking (hus : us.Nodup) (t : Total) :
    ∃ vs : List Total, vs.Nodup ∧ (∀ u, u ∈ vs ↔ u ∈ us ∨ u = t) ∧
      Document.insert (asking Total.key us) t.key t.expression = asking Total.key vs := by
  by_cases ht : t ∈ us
  · refine ⟨us, hus, fun u => ⟨Or.inl, ?_⟩, Document.insert_of_get? ?_⟩
    · rintro (hu | rfl)
      · exact hu
      · exact ht
    · refine (Document.get?_eq_some_iff ?_).mpr (List.mem_map_of_mem ht)
      rw [keys_asking]
      exact hus.map Total.key_injective
  · refine ⟨us ++ [t], ?_, fun u => by rw [List.mem_append, List.mem_singleton], ?_⟩
    · exact List.nodup_append.mpr ⟨hus, List.nodup_singleton t, fun a ha b hb hab =>
        ht (List.mem_singleton.mp hb ▸ hab ▸ ha)⟩
    · rw [Document.insert_of_not_mem, asking, asking, List.map_append]
      · rfl
      · rw [keys_asking, List.mem_map]
        rintro ⟨u, hu, hkey⟩
        exact ht (Total.key_injective hkey ▸ hu)

/-- Each total that is asked for is an entry once. -/
theorem exists_distinct (ts : List Total) :
    ∃ us : List Total, us.Nodup ∧ (∀ t, t ∈ us ↔ t ∈ ts) ∧
      Document.ofEntries (asking Total.key ts) = asking Total.key us := by
  -- the entries that are there already are general: each step adds one to them
  suffices h : ∀ us : List Total, us.Nodup → ∃ vs : List Total, vs.Nodup ∧
      (∀ t, t ∈ vs ↔ t ∈ us ∨ t ∈ ts) ∧
      Document.insertAll (asking Total.key us) (asking Total.key ts) = asking Total.key vs by
    obtain ⟨vs, hvs, hmem, heq⟩ := h [] List.nodup_nil
    exact ⟨vs, hvs, fun t => by simpa using hmem t, heq⟩
  induction ts with
  | nil => exact fun us hus => ⟨us, hus, fun t => by simp, rfl⟩
  | cons t rest ih =>
    intro us hus
    obtain ⟨vs, hvs, hmem, hinsert⟩ := insert_asking hus t
    obtain ⟨ws, hws, hmem', heq⟩ := ih vs hvs
    refine ⟨ws, hws, fun u => ?_, ?_⟩
    · rw [hmem', hmem, List.mem_cons, or_assoc]
    · rw [← heq, ← hinsert]
      rfl

/-- What is read under the name of a total is the total over the documents, if there are any or
not. -/
theorem get?_rowsOf (hname : ∀ t ∈ us, Document.idKey ≠ name t) (hus : (us.map name).Nodup)
    {t : Total} (ht : t ∈ us) (docs : List Document) :
    (Document.get? ((rowsOf name us docs).head?.getD []) (name t)).getD t.ofNone =
      t.ofDocuments docs := by
  cases docs with
  | nil => exact (Total.ofDocuments_nil t).symm
  | cons d docs =>
    have hkeys : Document.keys (answering name (d :: docs) us) = us.map name := List.map_map
    have hget : Document.get? (answering name (d :: docs) us) (name t) =
        some (t.ofDocuments (d :: docs)) :=
      (Document.get?_eq_some_iff (hkeys ▸ hus)).mpr (List.mem_map_of_mem ht)
    rw [rowsOf, List.head?_cons, Option.getD_some, Document.get?_cons_of_ne (hname t ht), hget,
      Option.getD_some]

/-- Taking totals out of a row leaves what stands under other keys. -/
theorem get?_takeTotals_of_ne {key : String} (h : ∀ t ∈ ts, t.key ≠ key) (out row : Document) :
    Document.get? (takeTotals out row ts) key = Document.get? out key := by
  induction ts generalizing out row with
  | nil => rfl
  | cons t rest ih =>
    rw [takeTotals, ih fun u hu => h u (List.mem_cons_of_mem _ hu),
      Document.get?_insert_of_ne (h t List.mem_cons_self)]

/-- A total that is taken once is the one in the row. One that is taken again is the total of no
documents. -/
theorem get?_takeTotals {t : Total} (ht : t ∈ ts) (out row : Document) :
    Document.get? (takeTotals out row ts) t.key = some
      (if ts.count t = 1 then (Document.get? row t.key).getD t.ofNone else t.ofNone) := by
  -- the induction is on the totals asked for, since each takes its value out of the row
  induction ts generalizing out row with
  | nil => exact absurd ht List.not_mem_nil
  | cons u rest ih =>
    rw [takeTotals]
    by_cases hrest : t ∈ rest
    · rw [ih hrest]
      by_cases hut : u = t
      · subst hut
        -- asked for again: the later one finds its value gone, and writes that of none over it
        have hcount : (u :: rest).count u ≠ 1 := by
          rw [List.count_cons_self]
          have := List.count_pos_iff.mpr hrest
          omega
        have hgone : Document.get? (Document.erase row u.key) u.key = none :=
          Document.get?_eq_none_iff.mpr (Document.not_mem_keys_erase row u.key)
        rw [if_neg hcount, hgone, Option.getD_none, ite_self]
      · have hkey : t.key ≠ u.key := fun h => hut (Total.key_injective h).symm
        rw [List.count_cons_of_ne hut, Document.get?_erase_of_ne hkey]
    · obtain rfl : t = u := (List.mem_cons.mp ht).resolve_right hrest
      -- asked for the last time: what follows writes other keys
      have hne : ∀ v ∈ rest, v.key ≠ t.key := fun v hv h =>
        hrest (Total.key_injective h ▸ hv)
      rw [get?_takeTotals_of_ne hne, Document.get?_insert_self, List.count_cons_self,
        List.count_eq_zero.mpr hrest, if_pos rfl]

/-- The totals that are taken out stand under their keys, behind what was there. -/
theorem mem_keys_takeTotals {key : String} (ts : List Total) (out row : Document) :
    key ∈ Document.keys (takeTotals out row ts) ↔
      key ∈ Document.keys out ∨ ∃ t ∈ ts, key = t.key := by
  induction ts generalizing out row with
  | nil => simp [takeTotals]
  | cons t rest ih =>
    rw [takeTotals, ih, Document.mem_keys_insert, List.exists_mem_cons_iff, or_assoc]

theorem nodup_keys_takeTotals {out : Document} (hout : (Document.keys out).Nodup)
    (ts : List Total) (row : Document) : (Document.keys (takeTotals out row ts)).Nodup := by
  induction ts generalizing out row with
  | nil => exact hout
  | cons t rest ih => exact ih (Document.nodup_keys_insert hout _ _) _

end Pipeline

/-! ## Calls for totals -/

namespace Model

variable {m : Model} {collection : String → List Document} {t : Total} {ts : List Total}
  {kwargs filter row : Document} {selected : List Document} {s s' : Store}

/-- A call for one total gives the total over the selected documents. -/
theorem total_apply {f : Field} (hdeclared : m.schema.declared t.field = .ok f)
    (hfilter : m.filter kwargs = .ok filter)
    (hselect : Document.select filter s.documents = .ok selected) :
    m.total collection t kwargs s = (.ok (t.ofDocuments selected), s) := by
  have hname : ∀ u ∈ [t], Document.idKey ≠ Pipeline.totalKey := fun _ _ => by decide
  have hrun : Stage.runAll collection (Pipeline.total t filter) s.documents =
      .ok (Pipeline.rowsOf (fun _ => Pipeline.totalKey) [t] selected) := by
    refine (Pipeline.runAll_grouping hname rfl (fun _ h => h) collection filter _).trans ?_
    rw [hselect]
    rfl
  have hread : Pipeline.totalOf t (Pipeline.rowsOf (fun _ => Pipeline.totalKey) [t] selected) =
      t.ofDocuments selected := by
    rw [← Pipeline.get?_rowsOf hname (List.nodup_singleton _) List.mem_cons_self selected]
    cases selected <;> rfl
  rw [total, Action.check_bind_apply hdeclared, Action.check_bind_apply hfilter, Action.aggregate,
    Action.read_bind_apply hrun, ← hread]
  rfl

/-- A call for several totals that succeeds takes them out of the rows of one group of the selected
documents, in which each total stands once. -/
theorem totals_eq_ok (h : m.totals collection ts kwargs s = (.ok row, s')) :
    s' = s ∧ (∀ t ∈ ts, ∃ f, m.schema.declared t.field = .ok f) ∧
      ∃ filter selected us, m.filter kwargs = .ok filter ∧
        Document.select filter s.documents = .ok selected ∧
        us.Nodup ∧ (∀ t, t ∈ us ↔ t ∈ ts) ∧
        row = Pipeline.totalsOf ts (Pipeline.rowsOf Total.key us selected) := by
  -- nothing before the answer changes the store, and the group is of the distinct totals
  rw [totals] at h
  obtain ⟨⟨⟩, _, hcheck, h⟩ := Action.bind_apply_eq_ok.mp h
  obtain ⟨hrequired, rfl⟩ := Action.check_apply_eq_ok.mp hcheck
  obtain ⟨filter, _, hcheck, h⟩ := Action.bind_apply_eq_ok.mp h
  obtain ⟨hfilter, rfl⟩ := Action.check_apply_eq_ok.mp hcheck
  obtain ⟨rows, _, hrows, h⟩ := Action.bind_apply_eq_ok.mp h
  obtain ⟨hrun, rfl⟩ := Prod.mk.inj hrows
  obtain ⟨hrow, rfl⟩ := Prod.mk.inj h
  obtain ⟨us, hus, hmem, hdistinct⟩ := Pipeline.exists_distinct ts
  have hgroup := Pipeline.runAll_grouping (fun t _ => (Total.key_ne_idKey t).symm) hdistinct
    (fun t => (hmem t).mp) collection filter s.documents
  obtain ⟨selected, hselect, hrows⟩ := map_eq_ok.mp (hgroup.symm.trans hrun)
  refine ⟨rfl, fun t ht => ?_, filter, selected, us, hfilter, hselect, hus, hmem, ?_⟩
  · obtain ⟨⟨⟩, hdeclared, -⟩ := bind_eq_ok.mp hrequired
    obtain ⟨f, hf, -⟩ := bind_eq_ok.mp (forM_eq_ok.mp hdeclared _ (List.mem_map_of_mem ht))
    exact ⟨f, hf⟩
  · rw [hrows]
    exact (Except.ok.inj hrow).symm

/-- Several totals agree with the totals of calls for each of them alone, but for repetitions. A
call that succeeds answers with one value under the key of each total and with nothing else. A total
that is asked for once has the value that a call for it alone gives for the same keyword arguments,
also when nothing matches. One that is asked for more often has the value of no documents, whatever
matches: the two calls agree about it exactly when its total is that of no documents. -/
theorem totals_agree_with_single_iff (h : m.totals collection ts kwargs s = (.ok row, s')) :
    s' = s ∧ (Document.keys row).Nodup ∧
    (∀ key, key ∈ Document.keys row ↔ ∃ t ∈ ts, key = t.field ++ "__" ++ t.accumulator.name) ∧
    ∀ t ∈ ts, ∃ v, m.total collection t kwargs s = (.ok v, s) ∧
      Document.get? row t.key = some (if ts.count t = 1 then v else t.ofNone) ∧
      (Document.get? row t.key = some v ↔ ts.count t = 1 ∨ v = t.ofNone) := by
  obtain ⟨rfl, hdeclared, filter, selected, us, hfilter, hselect, hus, hmem, rfl⟩ :=
    totals_eq_ok h
  refine ⟨rfl, ?_, fun key => ?_, fun t ht => ?_⟩
  · exact Pipeline.nodup_keys_takeTotals (Document.keys_nil ▸ List.nodup_nil) ts _
  · rw [Pipeline.totalsOf, Pipeline.mem_keys_takeTotals, Document.keys_nil]
    exact or_iff_right List.not_mem_nil
  · obtain ⟨f, hf⟩ := hdeclared t ht
    -- the row of the group has the value of the total alone, to be taken by the first who asks
    have hvalue :
        Document.get? (Pipeline.totalsOf ts (Pipeline.rowsOf Total.key us selected)) t.key =
          some (if ts.count t = 1 then t.ofDocuments selected else t.ofNone) := by
      rw [Pipeline.totalsOf, Pipeline.get?_takeTotals ht,
        Pipeline.get?_rowsOf (fun t _ => (Total.key_ne_idKey t).symm)
          (hus.map Total.key_injective) ((hmem t).mpr ht)]
    refine ⟨_, total_apply hf hfilter hselect, hvalue, ?_⟩
    rw [hvalue, Option.some.injEq]
    by_cases hcount : ts.count t = 1
    · simp [hcount]
    · rw [if_neg hcount]
      exact ⟨fun he => Or.inr he.symm, fun he => (he.resolve_left hcount).symm⟩

/-- A model of instances with a number and a tag. -/
def taggedModel : Model :=
  { schema := ⟨⟨"t"⟩, [{ name := "n", type := .int }, { name := "tag", type := .string }]⟩ }

/-- The theorem at a sum and at two totals of another field, over three documents of which one has
neither. -/
theorem totals_agree_with_single_mixed :
    ∃ s : Store,
      s.documents = [[("_id", .string "a"), ("n", .int32 5), ("tag", .string "y")],
        [("_id", .string "b")], [("_id", .string "c"), ("n", .int32 6), ("tag", .string "x")]] ∧
      taggedModel.totals (fun _ => []) [⟨"n", .sum⟩, ⟨"tag", .max⟩, ⟨"tag", .min⟩] [] s =
        (.ok [("n__sum", .int32 11), ("tag__max", .string "y"), ("tag__min", .string "x")], s) ∧
      taggedModel.total (fun _ => []) ⟨"n", .sum⟩ [] s = (.ok (.int32 11), s) ∧
      taggedModel.total (fun _ => []) ⟨"tag", .min⟩ [] s = (.ok (.string "x"), s) := by
  let s : Store :=
    { documents := [[("_id", .string "a"), ("n", .int32 5), ("tag", .string "y")],
        [("_id", .string "b")], [("_id", .string "c"), ("n", .int32 6), ("tag", .string "x")]]
      ids := ⟨fun _ => ⟨0⟩, 0⟩ }
  have h : taggedModel.totals (fun _ => []) [⟨"n", .sum⟩, ⟨"tag", .max⟩, ⟨"tag", .min⟩] [] s =
      (.ok [("n__sum", .int32 11), ("tag__max", .string "y"), ("tag__min", .string "x")], s) :=
    rfl
  obtain ⟨-, -, -, hall⟩ := totals_agree_with_single_iff h
  obtain ⟨v, hsum, -, hv⟩ := hall ⟨"n", .sum⟩ (by simp)
  obtain ⟨w, hmin, -, hw⟩ := hall ⟨"tag", .min⟩ (by simp)
  cases hv.mpr (Or.inl rfl)
  cases hw.mpr (Or.inl rfl)
  exact ⟨s, rfl, h, hsum, hmin⟩

/-- A sum that is asked for again is lost: it is that of no documents, where the sum alone is
five. -/
theorem repeated_total_is_lost :
    ∃ s : Store,
      s.documents = [[("_id", .string "a"), ("n", .int32 5)]] ∧
      taggedModel.totals (fun _ => []) [⟨"n", .sum⟩, ⟨"n", .sum⟩] [] s =
        (.ok [("n__sum", .int32 0)], s) ∧
      taggedModel.total (fun _ => []) ⟨"n", .sum⟩ [] s = (.ok (.int32 5), s) :=
  ⟨{ documents := [[("_id", .string "a"), ("n", .int32 5)]], ids := ⟨fun _ => ⟨0⟩, 0⟩ },
    rfl, rfl, rfl⟩

end Model

end DocMapper
