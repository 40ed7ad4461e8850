import DocMapper.Proofs.Failures
import DocMapper.Proofs.Lowered
import DocMapper.Proofs.Selection

namespace DocMapper

/-! # Updates of what a find selects

An update reads its keyword arguments in one pass and parts the keys that write from those that
filter. Its filter is the filter of the filtering keys by themselves, wherever the others stand
between them. So an update of all matching documents changes those that a find by the filtering
keys gives, each where it stands, and leaves every other document alone.
-/

namespace Lowering

variable {l : Lowering} {kwargs : Document} {entry : String × Value}

/-- The keyword writes. A malformed keyword does not. -/
def writes (key : String) : Bool :=
  match Keyword.parse key with
  | .ok k => k.operator.isUpdate
  | .error _ => false

/-- The keyword arguments that filter: all but those that write. -/
def selecting (kwargs : Document) : Document := kwargs.filter fun entry => !writes entry.1

/-! ## The filter of an update -/

/-- A keyword argument of an update does to the filter what it does to the filter of a find, unless
it writes. -/
theorem foldlM_addFilter_of_addUpdate {draft draft' : UpdateDraft}
    (h : l.addUpdate draft entry = .ok draft') :
    (selecting [entry]).foldlM l.addFilter draft.filter = .ok draft'.filter := by
  obtain ⟨k, hk, hstep⟩ := updateStep_of_addUpdate h
  have hwrites : writes entry.1 = k.operator.isUpdate := by
    rw [writes, hk]
  have hselecting : selecting [entry] = if k.operator.isUpdate then [] else [entry] := by
    rw [selecting, List.filter_singleton, hwrites]
    cases k.operator.isUpdate <;> rfl
  rw [hselecting]
  cases hstep with
  | set hoperator | inc hoperator =>
    rw [hoperator]
    rfl
  | filter hoperator hadd =>
    rw [hoperator]
    change [entry].foldlM l.addFilter draft.filter = _
    rw [List.foldlM_cons, hadd]
    rfl

theorem foldlM_addFilter_selecting {draft draft' : UpdateDraft}
    (h : kwargs.foldlM l.addUpdate draft = .ok draft') :
    (selecting kwargs).foldlM l.addFilter draft.filter = .ok draft'.filter := by
  induction kwargs generalizing draft with
  | nil =>
    rw [List.foldlM_nil, pure_eq_ok] at h
    rw [h]
    rfl
  | cons entry rest ih =>
    rw [List.foldlM_cons] at h
    obtain ⟨next, hnext, hrest⟩ := bind_eq_ok.mp h
    have hparts : selecting (entry :: rest) = selecting [entry] ++ selecting rest :=
      List.filter_append [entry] rest
    rw [hparts, List.foldlM_append, foldlM_addFilter_of_addUpdate hnext, ok_bind]
    exact ih hrest

/-- The changes of an update are operators, and at least one. -/
theorem requireOperators_of_update {change : ScopedUpdate} (h : l.update kwargs = .ok change) :
    Document.requireOperators change.update = .ok () := by
  obtain ⟨draft, -, hsome, -, hchanges⟩ := update_eq_ok h
  have hoperators : (Document.keys change.update).all isOperatorKey = true := by
    refine List.all_eq_true.mpr fun key hkey => ?_
    obtain ⟨v, hv⟩ := Document.exists_of_mem_keys hkey
    rcases List.mem_pair.mp (writes_of_update h _ hv).1 with rfl | rfl <;> rfl
  have hnonempty : change.update.isEmpty = false := by simpa [hchanges] using hsome
  rw [Document.requireOperators, hoperators, hnonempty]
  rfl

/-- The filter of an update is the filter of the keys that do not write. -/
theorem filter_selecting {change : ScopedUpdate} (h : l.update kwargs = .ok change) :
    l.filter (selecting kwargs) = .ok change.filter := by
  obtain ⟨draft, hdraft, -, hfilter, -⟩ := update_eq_ok h
  rw [hfilter, Lowering.filter, foldlM_addFilter_selecting hdraft]
  rfl

end Lowering

namespace Document

variable {filter changes : Document} {docs docs' selected : List Document}

/-! ## Updating what is selected -/

/-- An update of all matching documents that succeeds has matched every document against the
filter, and passes over all of them. -/
theorem updateEach_many_eq_ok {outcome : UpdateReport}
    (h : updateEach filter changes true docs = (.ok outcome, docs')) :
    ∃ selected, select filter docs = .ok selected ∧ outcome.matched = selected.length ∧
      List.Forall₂ (Passes filter changes) docs docs' := by
  induction docs generalizing docs' outcome with
  | nil =>
    cases h
    exact ⟨[], rfl, rfl, .nil⟩
  | cons d rest ih =>
    rw [updateEach] at h
    rcases hrest : updateEach filter changes true rest with ⟨outcome', rest'⟩
    -- the matching of the document fails, spares it, or finds it, and then its update can fail
    split at h
    · cases h
    · rename_i hmatch
      rw [hrest] at h
      cases h
      obtain ⟨selected, hselect, hmatched, hpasses⟩ := ih hrest
      refine ⟨selected, ?_, hmatched, .cons (.spared hmatch) hpasses⟩
      rw [select, hmatch, ok_bind, hselect]
      rfl
    · rename_i hmatch
      split at h
      · cases h
      · rename_i next hnext
        rw [if_pos rfl, hrest] at h
        cases outcome' with
        | error e => cases h
        | ok outcome' =>
          cases h
          obtain ⟨selected, hselect, hmatched, hpasses⟩ := ih hrest
          refine ⟨d :: selected, ?_, ?_, .cons (.updated hmatch hnext) hpasses⟩
          · rw [select, hmatch, ok_bind, hselect]
            rfl
          · rw [List.length_cons, ← hmatched]
            rfl

/-- What an update passes over is updated if it is selected, and spared otherwise. -/
theorem touched_of_passes {d d' : Document} (h : Passes filter changes d d')
    (hselect : select filter docs = .ok selected) (hd : d ∈ docs) :
    (d ∈ selected → updated d changes = .ok d') ∧ (d ∉ selected → d' = d) := by
  cases h with
  | spared hsat =>
    constructor
    · intro hmem
      rw [((mem_select hselect).mp hmem).2] at hsat
      cases hsat
    · intro _
      rfl
  | updated hsat hupdated =>
    constructor
    · intro _
      exact hupdated
    · intro hmem
      exact absurd ((mem_select hselect).mpr ⟨hd, hsat⟩) hmem

end Document

namespace Model

variable {m : Model} {kwargs : Document}

/-! ## Updating by keyword arguments -/

/-- An update of all matching documents by keyword arguments is one in place. -/
theorem updateMany_apply {change : ScopedUpdate} (h : m.lowering.update kwargs = .ok change)
    (s : Store) :
    m.updateMany kwargs s =
      ((Document.updateEach change.filter change.update true s.documents).1,
        { s with documents :=
            (Document.updateEach change.filter change.update true s.documents).2 }) := by
  rw [updateMany, Action.check_bind_apply h]
  exact Action.update_false_apply (Lowering.requireOperators_of_update h)

/-- An update touches exactly what a find selects. The filter of an update is the filter of its
keys that do not write. An update of all matching documents that succeeds changes each document
that a find by these keys reads, leaves every other one as it is, all in their places, and reports
how many these keys count. -/
theorem updateMany_touches_found (m : Model) {kwargs : Document} {change : ScopedUpdate}
    (h : m.lowering.update kwargs = .ok change) :
    m.filter (Lowering.selecting kwargs) = .ok change.filter ∧
    ∀ (s s' : Store) (report : UpdateReport), m.updateMany kwargs s = (.ok report, s') →
      ∃ selected,
        s.find change.filter {} = .ok selected ∧
        m.find (Lowering.selecting kwargs) {} s =
          ((Document.sortBy ReadOptions.idSort selected).mapM m.decode, s) ∧
        m.count (Lowering.selecting kwargs) s = (.ok report.matched, s) ∧
        report.matched = selected.length ∧
        s' = { s with documents := s'.documents } ∧
        List.Forall₂ (fun d d' =>
            (d ∈ selected → Document.updated d change.update = .ok d') ∧
            (d ∉ selected → d' = d))
          s.documents s'.documents := by
  have hfilter : m.filter (Lowering.selecting kwargs) = .ok change.filter :=
    Lowering.filter_selecting h
  refine ⟨hfilter, ?_⟩
  intro s s' report hupdate
  rw [updateMany_apply h, Prod.mk.injEq] at hupdate
  obtain ⟨hreport, rfl⟩ := hupdate
  obtain ⟨selected, hselect, hmatched, hpasses⟩ :=
    Document.updateEach_many_eq_ok (Prod.ext hreport rfl)
  refine ⟨selected, Store.find_default hselect, find_apply hfilter hselect, ?_, hmatched, rfl, ?_⟩
  · rw [hmatched]
    exact count_apply hfilter hselect
  · -- what a pass did to a document depends on its being selected
    have hmembers : List.Forall₂ (fun d d' => d ∈ s.documents ∧
        Document.Passes change.filter change.update d d') s.documents _ :=
      (List.forall₂_and_left _ _).mpr ⟨fun _ hd => hd, hpasses⟩
    exact hmembers.imp fun d d' hpass => Document.touched_of_passes hpass.2 hselect hpass.1

/-- The theorem at an update whose keys stand between those of its filter, one of which addresses a
field that filters leave out of account. -/
theorem updateMany_touches_found_interleaved :
    ∃ (m : Model) (kwargs : Document) (change : ScopedUpdate) (s s' : Store)
      (report : UpdateReport) (selected : List Document),
      kwargs = [("n", .int32 9), ("n__set", .int32 5), ("name", .string "a")] ∧
      s.documents = [[("_id", .int32 1), ("name", .string "a"), ("n", .int32 1)],
        [("_id", .int32 2), ("name", .string "b"), ("n", .int32 9)]] ∧
      s'.documents = [[("_id", .int32 1), ("name", .string "a"), ("n", .int32 5)],
        [("_id", .int32 2), ("name", .string "b"), ("n", .int32 9)]] ∧
      m.lowering.update kwargs = .ok change ∧
      m.filter [("n", .int32 9), ("name", .string "a")] = .ok change.filter ∧
      m.updateMany kwargs s = (.ok report, s') ∧
      s.find change.filter {} = .ok selected ∧
      m.count [("n", .int32 9), ("name", .string "a")] s = (.ok report.matched, s) ∧
      List.Forall₂ (fun d d' =>
          (d ∈ selected → Document.updated d change.update = .ok d') ∧ (d ∉ selected → d' = d))
        s.documents s'.documents := by
  let m : Model :=
    { schema := ⟨⟨"t"⟩, [{ name := "name", type := .string },
        { name := "n", type := .int, queryable := false }]⟩ }
  let kwargs : Document := [("n", .int32 9), ("n__set", .int32 5), ("name", .string "a")]
  let change : ScopedUpdate :=
    { filter := [("name", .string "a")], update := [("$set", .document [("n", .int32 5)])] }
  let s : Store :=
    { documents := [[("_id", .int32 1), ("name", .string "a"), ("n", .int32 1)],
        [("_id", .int32 2), ("name", .string "b"), ("n", .int32 9)]], ids := ⟨fun _ => ⟨0⟩, 0⟩ }
  let s' : Store :=
    { s with documents := [[("_id", .int32 1), ("name", .string "a"), ("n", .int32 5)],
        [("_id", .int32 2), ("name", .string "b"), ("n", .int32 9)]] }
  -- `n` is not queryable, so only the name selects
  have hchange : m.lowering.update kwargs = .ok change := rfl
  have hupdate : m.updateMany kwargs s = (.ok { matched := 1, modified := 1 }, s') := by
    rw [updateMany_apply hchange]
    rfl
  obtain ⟨hfilter, htouches⟩ := updateMany_touches_found m hchange
  obtain ⟨selected, hselected, -, hcount, -, -, hpasses⟩ := htouches s s' _ hupdate
  exact ⟨m, kwargs, change, s, s', _, selected, rfl, rfl, rfl, hchange, hfilter, hupdate,
    hselected, hcount, hpasses⟩

end Model

end DocMapper
