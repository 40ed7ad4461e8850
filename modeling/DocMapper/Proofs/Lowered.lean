import DocMapper.Proofs.Drafts
import DocMapper.Proofs.Updates

namespace DocMapper

/-! # What keyword arguments are lowered to

One keyword argument does one thing to a draft, whatever the schema: it puts conditions on the path
that it addresses, or a value to be written there, or nothing where filters leave the field out of
account. So everything in a filter or an update comes from a keyword argument that addresses its
path, and has passed the checks for it.
-/

namespace FilterDraft

variable {draft : FilterDraft} {path : String} {change : Conditions → Conditions}

/-- A change on a path leaves every other entry as it is. -/
theorem mem_of_mem_modify {entry : String × Conditions} (h : entry ∈ draft.modify path change) :
    entry ∈ draft ∨
      ∃ c, (c = {} ∨ (path, c) ∈ draft) ∧ entry = (path, change c) := by
  induction draft with
  | nil => exact Or.inr ⟨{}, Or.inl rfl, List.mem_singleton.mp h⟩
  | cons first rest ih =>
    obtain ⟨p, c⟩ := first
    rw [modify] at h
    split at h
    · rename_i hp
      subst hp
      rcases List.mem_cons.mp h with rfl | hmem
      · exact Or.inr ⟨c, Or.inr List.mem_cons_self, rfl⟩
      · exact Or.inl (List.mem_cons_of_mem _ hmem)
    · rcases List.mem_cons.mp h with rfl | hmem
      · exact Or.inl List.mem_cons_self
      · rcases ih hmem with hrest | ⟨c', hc', rfl⟩
        · exact Or.inl (List.mem_cons_of_mem _ hrest)
        · exact Or.inr ⟨c', hc'.imp_right (List.mem_cons_of_mem _), rfl⟩

theorem mem_paths_modify {other : String} :
    other ∈ (draft.modify path change).paths ↔ other ∈ draft.paths ∨ other = path := by
  rw [paths_modify]
  split
  · rename_i hmem
    constructor
    · exact Or.inl
    · rintro (h | rfl)
      · exact h
      · exact hmem
  · simp

theorem keys_toDocument (draft : FilterDraft) : Document.keys draft.toDocument = draft.paths := by
  simp [toDocument, Document.keys, paths]

end FilterDraft

namespace Lowering

variable {l : Lowering} {kwargs : Document} {path key : String} {s : Subject} {c own : Conditions}

/-! ## One keyword argument -/

/-- A key addresses the subject. -/
def Finds (l : Lowering) (key : String) (s : Subject) : Prop :=
  ∃ k, Keyword.parse key = .ok k ∧ l.subject key k = .ok s

/-- What a keyword argument of a filter does to every draft, whatever its value: nothing, where its
subject is not queryable, and else it puts conditions of its own on the path of its subject. -/
theorem addFilter_cases {draft draft' : FilterDraft} {entry : String × Value}
    (h : l.addFilter draft entry = .ok draft') :
    ∃ s, l.Finds entry.1 s ∧
      ((s.queryable = false ∧ ∀ v D, l.addFilter D (entry.1, v) = .ok D) ∨
        (s.queryable = true ∧ ∃ own : Conditions, own.Single ∧ s.Asks entry.2 own ∧
          ∀ D, l.addFilter D entry = .ok (D.modify s.path (·.join own)))) := by
  obtain ⟨key, v⟩ := entry
  obtain ⟨k, hk, h⟩ := bind_eq_ok.mp h
  obtain ⟨s, hs, h⟩ := bind_eq_ok.mp h
  refine ⟨s, ⟨k, hk, hs⟩, ?_⟩
  cases hoperator : k.operator with
  | update operator =>
    rw [hoperator] at h
    cases h
  | filter operator =>
    -- whether the subject can be queried does not depend on the draft
    have hadd : ∀ v D, l.addFilter D (key, v) =
        if s.queryable then s.constrain operator v D else .ok D := by
      intro v D
      simp only [addFilter, hk, hs, ok_bind, hoperator]
    simp only [hoperator] at h
    by_cases hqueryable : s.queryable = true
    · rw [if_pos hqueryable] at h
      obtain ⟨own, hown, hasks, hconstrain⟩ := Subject.constrain_eq_ok h
      refine Or.inr ⟨hqueryable, own, hown, hasks, fun D => ?_⟩
      rw [hadd, if_pos hqueryable, hconstrain]
    · refine Or.inl ⟨by simpa using hqueryable, fun v D => ?_⟩
      rw [hadd, if_neg hqueryable]

/-- A keyword argument addresses something, and the draft has its path if it may be asked for. -/
def Covers (l : Lowering) (paths : List String) (entry : String × Value) : Prop :=
  ∃ s, l.Finds entry.1 s ∧ (s.queryable = true → s.path ∈ paths)

theorem Covers.mono {paths paths' : List String} {entry : String × Value}
    (h : l.Covers paths entry) (hsub : ∀ path ∈ paths, path ∈ paths') : l.Covers paths' entry := by
  obtain ⟨s, hs, hmem⟩ := h
  exact ⟨s, hs, fun hqueryable => hsub _ (hmem hqueryable)⟩

theorem covers_of_addFilter {draft draft' : FilterDraft} {entry : String × Value}
    (h : l.addFilter draft entry = .ok draft') : l.Covers draft'.paths entry := by
  obtain ⟨s, hs, hcases⟩ := addFilter_cases h
  refine ⟨s, hs, fun hqueryable => ?_⟩
  rcases hcases with ⟨hnone, -⟩ | ⟨-, own, -, -, hmodify⟩
  · rw [hqueryable] at hnone
    cases hnone
  · rw [hmodify draft, Except.ok.injEq] at h
    rw [← h]
    exact FilterDraft.mem_paths_modify.mpr (Or.inr rfl)

/-- No keyword argument takes a path out of a draft. -/
theorem paths_of_addFilter {draft draft' : FilterDraft} {entry : String × Value}
    (h : l.addFilter draft entry = .ok draft') (hpath : path ∈ draft.paths) :
    path ∈ draft'.paths := by
  obtain ⟨s, -, ⟨-, hkeep⟩ | ⟨-, own, -, -, hmodify⟩⟩ := addFilter_cases h
  · rw [hkeep entry.2 draft, Except.ok.injEq] at h
    exact h ▸ hpath
  · rw [hmodify draft, Except.ok.injEq] at h
    rw [← h]
    exact FilterDraft.mem_paths_modify.mpr (Or.inl hpath)

/-- What a keyword argument of an update does to a draft: its keyword sets a value or adds an amount
at the path of the subject, or it does what it does in a filter. -/
inductive UpdateStep (l : Lowering) (draft : UpdateDraft) (entry : String × Value) (k : Keyword) :
    UpdateDraft → Prop
  | set {s : Subject} {w : Value} (hoperator : k.operator = .update .set)
      (hs : l.subject entry.1 k = .ok s) (hw : s.stored entry.2 = .ok w) :
      UpdateStep l draft entry k { draft with set := Document.insert draft.set s.path w }
  | inc {s : Subject} {w : Value} (hoperator : k.operator = .update .inc)
      (hs : l.subject entry.1 k = .ok s) (hw : s.increment entry.1 entry.2 = .ok w) :
      UpdateStep l draft entry k { draft with inc := Document.insert draft.inc s.path w }
  | filter {operator : FilterOperator} {filter : FilterDraft}
      (hoperator : k.operator = .filter operator)
      (h : l.addFilter draft.filter entry = .ok filter) :
      UpdateStep l draft entry k { draft with filter }

theorem updateStep_of_addUpdate {draft draft' : UpdateDraft} {entry : String × Value}
    (h : l.addUpdate draft entry = .ok draft') :
    ∃ k, Keyword.parse entry.1 = .ok k ∧ l.UpdateStep draft entry k draft' := by
  obtain ⟨key, v⟩ := entry
  obtain ⟨k, hk, h⟩ := bind_eq_ok.mp h
  obtain ⟨s, hs, h⟩ := bind_eq_ok.mp h
  refine ⟨k, hk, ?_⟩
  rcases hoperator : k.operator with operator | operator
  · simp only [hoperator] at h
    -- a condition goes into the filter as it does without the updates
    have hadd : l.addFilter draft.filter (key, v) =
        if s.queryable then s.constrain operator v draft.filter else .ok draft.filter := by
      simp only [addFilter, hk, hs, ok_bind, hoperator]
    by_cases hqueryable : s.queryable = true
    · rw [if_pos hqueryable] at h hadd
      obtain ⟨filter, hfilter, h⟩ := bind_eq_ok.mp h
      exact pure_eq_ok.mp h ▸ .filter hoperator (hadd.trans hfilter)
    · rw [if_neg hqueryable] at h hadd
      exact pure_eq_ok.mp h ▸ .filter hoperator hadd
  · cases operator with
    | set =>
      simp only [hoperator] at h
      obtain ⟨w, hw, h⟩ := bind_eq_ok.mp h
      exact pure_eq_ok.mp h ▸ .set hoperator hs hw
    | inc =>
      simp only [hoperator] at h
      obtain ⟨w, hw, h⟩ := bind_eq_ok.mp h
      exact pure_eq_ok.mp h ▸ .inc hoperator hs hw

/-! ## Filters -/

/-- One of the keyword arguments addresses the subject, at this path. -/
def OnPath (l : Lowering) (kwargs : Document) (path : String) (s : Subject) : Prop :=
  (∃ entry ∈ kwargs, l.Finds entry.1 s) ∧ s.path = path

theorem OnPath.mono {kwargs' : Document} (h : l.OnPath kwargs path s)
    (hsub : ∀ entry ∈ kwargs, entry ∈ kwargs') : l.OnPath kwargs' path s := by
  obtain ⟨⟨entry, hentry, hs⟩, hpath⟩ := h
  exact ⟨⟨entry, hsub entry hentry, hs⟩, hpath⟩

/-- One of the keyword arguments gives the value to the subject, at this path. -/
def GivenOn (l : Lowering) (kwargs : Document) (path : String) (s : Subject) (v : Value) : Prop :=
  (∃ entry ∈ kwargs, l.Finds entry.1 s ∧ entry.2 = v) ∧ s.path = path

theorem GivenOn.onPath {v : Value} (h : l.GivenOn kwargs path s v) : l.OnPath kwargs path s := by
  obtain ⟨⟨entry, hentry, hs, -⟩, hpath⟩ := h
  exact ⟨⟨entry, hentry, hs⟩, hpath⟩

/-- What a filter asks for at a path: conditions, at least one, each from a keyword argument whose
subject has the path. -/
structure Lowered (l : Lowering) (kwargs : Document) (path : String) (c : Conditions) : Prop
    extends c.Proper where
  nonempty : c.equal? = none → c.operators ≠ []
  equal : ∀ w, c.equal? = some w →
    ∃ s v, l.GivenOn kwargs path s v ∧ s.queryable = true ∧ s.comparand v = .ok w
  operand : ∀ entry ∈ c.operators,
    ∃ s v, l.GivenOn kwargs path s v ∧ s.queryable = true ∧ s.Operand v entry.1 entry.2

/-- What a keyword argument asks for, written over what others on its path ask for. -/
theorem Lowered.join {v : Value} (hc : c = {} ∨ l.Lowered kwargs path c)
    (hs : l.GivenOn kwargs path s v) (hqueryable : s.queryable = true) (hown : own.Single)
    (hasks : s.Asks v own) : l.Lowered kwargs path (c.join own) where
  toProper := by
    rcases hc with rfl | hc
    · exact Conditions.proper_empty.join hown.toProper
    · exact hc.toProper.join hown.toProper
  nonempty := by
    intro hnone hnil
    -- a single condition is never empty, so joining it leaves something
    have hownnone : own.equal? = none := (Option.or_eq_none_iff.mp hnone).1
    have hownnil : own.operators = [] := by
      refine Document.eq_nil_of_get? fun key => Document.get?_eq_none_iff.mpr fun hkey => ?_
      have hmem : key ∈ Document.keys (c.join own).operators :=
        Document.mem_keys_insertAll.mpr (Or.inr hkey)
      rw [hnil] at hmem
      exact absurd hmem List.not_mem_nil
    have hsome := hown.one.mpr hownnil
    rw [hownnone] at hsome
    cases hsome
  equal := by
    intro w hw
    -- the equality is the new one, or else the old one
    rcases Option.or_eq_some_iff.mp hw with hw | ⟨-, hw⟩
    · exact ⟨s, v, hs, hqueryable, hasks.equal w hw⟩
    · rcases hc with rfl | hc
      · cases hw
      · exact hc.equal w hw
  operand := by
    intro entry hentry
    rcases Document.mem_of_mem_insertAll hentry with hentry | hentry
    · exact ⟨s, v, hs, hqueryable, hasks.operand entry hentry⟩
    · rcases hc with rfl | hc
      · cases hentry
      · exact hc.operand entry hentry

/-- The keyword arguments of a filter, one after the other, leave what they ask for. -/
theorem lowered_of_foldlM {draft : FilterDraft} (h : kwargs.foldlM l.addFilter [] = .ok draft) :
    ∀ entry ∈ draft, l.Lowered kwargs entry.1 entry.2 := by
  refine foldlM_induction (fun D : FilterDraft => ∀ e ∈ D, l.Lowered kwargs e.1 e.2) ?_
    (fun _ h => absurd h List.not_mem_nil) h
  intro entry hentry D D' hD hadd
  obtain ⟨s, hfinds, hcases⟩ := addFilter_cases hadd
  rcases hcases with ⟨-, hkeep⟩ | ⟨hqueryable, own, hown, hasks, hmodify⟩
  · rw [hkeep entry.2 D, Except.ok.injEq] at hadd
    exact hadd ▸ hD
  · rw [hmodify D, Except.ok.injEq] at hadd
    rw [← hadd]
    intro e he
    rcases FilterDraft.mem_of_mem_modify he with he | ⟨c, hc, rfl⟩
    · exact hD e he
    · exact .join (hc.imp_right (hD _)) ⟨⟨entry, hentry, hfinds, rfl⟩, rfl⟩ hqueryable hown hasks

/-- Every entry of a filter is what keyword arguments ask for at its path. -/
theorem lowered_of_filter {filter : Document} (h : l.filter kwargs = .ok filter) :
    ∀ entry ∈ filter, ∃ c, l.Lowered kwargs entry.1 c ∧ entry.2 = c.toValue := by
  obtain ⟨draft, hdraft, h⟩ := bind_eq_ok.mp h
  rw [← pure_eq_ok.mp h]
  intro entry hentry
  obtain ⟨⟨path, c⟩, hc, rfl⟩ := List.mem_map.mp hentry
  exact ⟨c, lowered_of_foldlM hdraft _ hc, rfl⟩

/-- Every keyword argument of a filter addresses something, and the filter has its path if it may
be asked for. -/
theorem covers_of_filter {filter : Document} (h : l.filter kwargs = .ok filter) :
    ∀ entry ∈ kwargs, l.Covers (Document.keys filter) entry := by
  obtain ⟨draft, hdraft, h⟩ := bind_eq_ok.mp h
  rw [← pure_eq_ok.mp h, FilterDraft.keys_toDocument]
  refine foldlM_each (fun entry D => l.Covers (FilterDraft.paths D) entry) ?_ ?_ hdraft
  · intro entry _ D D' hadd
    exact covers_of_addFilter hadd
  · intro entry _ other _ D D' hcovers hadd
    exact hcovers.mono fun _ => paths_of_addFilter hadd

/-- Something in a filter was asked for by a keyword argument. -/
theorem Lowered.exists_onPath (hc : l.Lowered kwargs path c) :
    ∃ s, l.OnPath kwargs path s ∧ s.queryable = true := by
  cases hequal : c.equal? with
  | some w =>
    obtain ⟨s, v, hs, hqueryable, -⟩ := hc.equal w hequal
    exact ⟨s, hs.onPath, hqueryable⟩
  | none =>
    obtain ⟨entry, hentry⟩ := List.exists_mem_of_ne_nil _ (hc.nonempty hequal)
    obtain ⟨s, v, hs, hqueryable, -⟩ := hc.operand entry hentry
    exact ⟨s, hs.onPath, hqueryable⟩

/-! ## Updates -/

/-- What an update writes at a path: a value or an amount of a keyword argument whose subject has
the path. -/
inductive Writes (l : Lowering) (kwargs : Document) : String → String → Value → Prop
  | set {s : Subject} {v w : Value} (hs : l.GivenOn kwargs s.path s v)
      (hw : s.stored v = .ok w) : Writes l kwargs "$set" s.path w
  | inc {key : String} {s : Subject} {v w : Value} (hs : l.GivenOn kwargs s.path s v)
      (hw : s.increment key v = .ok w) : Writes l kwargs "$inc" s.path w

/-- Something that an update writes was given by a keyword argument. -/
theorem Writes.exists_onPath {operator : String} {v : Value}
    (h : l.Writes kwargs operator path v) : ∃ s, l.OnPath kwargs path s := by
  cases h with
  | set hs _ | inc hs _ => exact ⟨_, hs.onPath⟩

/-- An update that is lowered has something to write. -/
theorem update_eq_ok {change : ScopedUpdate} (h : l.update kwargs = .ok change) :
    ∃ draft, kwargs.foldlM l.addUpdate {} = .ok draft ∧ draft.changes ≠ [] ∧
      change.filter = draft.filter.toDocument ∧ change.update = draft.changes := by
  obtain ⟨draft, hdraft, h⟩ := bind_eq_ok.mp h
  split at h
  · cases h
  rename_i hsome
  rw [← pure_eq_ok.mp h]
  exact ⟨draft, hdraft, by simpa using hsome, rfl, rfl⟩

/-- The keyword arguments of an update, one after the other, leave what they write. -/
theorem writes_of_foldlM {draft : UpdateDraft} (h : kwargs.foldlM l.addUpdate {} = .ok draft) :
    (∀ entry ∈ draft.set, l.Writes kwargs "$set" entry.1 entry.2) ∧
      ∀ entry ∈ draft.inc, l.Writes kwargs "$inc" entry.1 entry.2 := by
  refine foldlM_induction (fun D : UpdateDraft =>
    (∀ e ∈ D.set, l.Writes kwargs "$set" e.1 e.2) ∧ ∀ e ∈ D.inc, l.Writes kwargs "$inc" e.1 e.2)
    ?_ ⟨fun _ h => absurd h List.not_mem_nil, fun _ h => absurd h List.not_mem_nil⟩ h
  intro entry hentry D D' hD hadd
  obtain ⟨k, hk, hstep⟩ := updateStep_of_addUpdate hadd
  cases hstep with
  -- the new entry comes from this argument, and the others from those before it
  | set _ hs hw =>
    refine ⟨fun e he => ?_, hD.2⟩
    rcases Document.mem_of_mem_insert he with rfl | he
    · exact .set ⟨⟨entry, hentry, ⟨k, hk, hs⟩, rfl⟩, rfl⟩ hw
    · exact hD.1 e he
  | inc _ hs hw =>
    refine ⟨hD.1, fun e he => ?_⟩
    rcases Document.mem_of_mem_insert he with rfl | he
    · exact .inc ⟨⟨entry, hentry, ⟨k, hk, hs⟩, rfl⟩, rfl⟩ hw
    · exact hD.2 e he
  | filter => exact hD

/-- An update sets values or adds amounts, and whichever it does, it does at some path. -/
theorem UpdateDraft.mem_changes {draft : UpdateDraft} {entry : String × Value} :
    entry ∈ draft.changes ↔
      (draft.set ≠ [] ∧ entry = ("$set", .document draft.set)) ∨
        (draft.inc ≠ [] ∧ entry = ("$inc", .document draft.inc)) := by
  rw [changes, List.mem_append]
  cases draft.set <;> cases draft.inc <;> simp

/-- Every entry of an update sets values or adds amounts, at least one, and each comes from a
keyword argument. -/
theorem writes_of_update {change : ScopedUpdate} (h : l.update kwargs = .ok change) :
    ∀ entry ∈ change.update, entry.1 ∈ ["$set", "$inc"] ∧
      ∃ fields, entry.2 = .document fields ∧ fields ≠ [] ∧
        ∀ e ∈ fields, l.Writes kwargs entry.1 e.1 e.2 := by
  obtain ⟨draft, hdraft, -, -, hchanges⟩ := update_eq_ok h
  obtain ⟨hset, hinc⟩ := writes_of_foldlM hdraft
  rw [hchanges]
  intro entry hentry
  rcases UpdateDraft.mem_changes.mp hentry with ⟨hne, rfl⟩ | ⟨hne, rfl⟩
  · exact ⟨by simp, _, rfl, hne, hset⟩
  · exact ⟨by simp, _, rfl, hne, hinc⟩

/-- Every step of an update comes from a keyword argument. -/
theorem writes_of_mem_steps {change : ScopedUpdate} (h : l.update kwargs = .ok change)
    {step : String × String × Value} (hstep : step ∈ Document.steps change.update) :
    l.Writes kwargs step.1 step.2.1 step.2.2 := by
  obtain ⟨fields, hentry, hfield⟩ := Document.mem_steps.mp hstep
  obtain ⟨-, fields', hfields, -, hwrites⟩ := writes_of_update h _ hentry
  cases hfields
  exact hwrites _ hfield

/-- The paths at which an update draft asks or writes. -/
def UpdateDraft.paths (draft : UpdateDraft) : List String :=
  draft.filter.paths ++ (Document.keys draft.set ++ Document.keys draft.inc)

theorem covers_of_addUpdate {draft draft' : UpdateDraft} {entry : String × Value}
    (h : l.addUpdate draft entry = .ok draft') : l.Covers draft'.paths entry := by
  obtain ⟨k, hk, hstep⟩ := updateStep_of_addUpdate h
  cases hstep with
  | set _ hs _ =>
    refine ⟨_, ⟨k, hk, hs⟩, fun _ => ?_⟩
    simp [UpdateDraft.paths, Document.mem_keys_insert]
  | inc _ hs _ =>
    refine ⟨_, ⟨k, hk, hs⟩, fun _ => ?_⟩
    simp [UpdateDraft.paths, Document.mem_keys_insert]
  | filter _ hadd => exact (covers_of_addFilter hadd).mono fun _ => List.mem_append_left _

theorem paths_of_addUpdate {draft draft' : UpdateDraft} {entry : String × Value}
    (h : l.addUpdate draft entry = .ok draft') (hpath : path ∈ draft.paths) :
    path ∈ draft'.paths := by
  simp only [UpdateDraft.paths, List.mem_append] at hpath ⊢
  obtain ⟨k, -, hstep⟩ := updateStep_of_addUpdate h
  cases hstep with
  | set => exact hpath.imp_right (Or.imp_left fun h => Document.mem_keys_insert.mpr (Or.inl h))
  | inc => exact hpath.imp_right (Or.imp_right fun h => Document.mem_keys_insert.mpr (Or.inl h))
  | filter _ hadd => exact hpath.imp_left (paths_of_addFilter hadd)

theorem UpdateDraft.mem_writtenPaths {draft : UpdateDraft} :
    path ∈ Document.writtenPaths draft.changes ↔
      path ∈ Document.keys draft.set ∨ path ∈ Document.keys draft.inc := by
  rw [Document.mem_writtenPaths]
  constructor
  · rintro ⟨operator, fields, hentry, hpath⟩
    rcases mem_changes.mp hentry with ⟨-, heq⟩ | ⟨-, heq⟩
    · cases heq
      exact Or.inl hpath
    · cases heq
      exact Or.inr hpath
  · rintro (hpath | hpath)
    · have hne : draft.set ≠ [] := fun hnil => by rw [hnil] at hpath; cases hpath
      exact ⟨_, _, mem_changes.mpr (Or.inl ⟨hne, rfl⟩), hpath⟩
    · have hne : draft.inc ≠ [] := fun hnil => by rw [hnil] at hpath; cases hpath
      exact ⟨_, _, mem_changes.mpr (Or.inr ⟨hne, rfl⟩), hpath⟩

/-- Every keyword argument of an update addresses something, and the filter or the changes have its
path if it may be asked for. -/
theorem covers_of_update {change : ScopedUpdate} (h : l.update kwargs = .ok change) :
    ∀ entry ∈ kwargs,
      l.Covers (Document.keys change.filter ++ Document.writtenPaths change.update) entry := by
  obtain ⟨draft, hdraft, -, hfilter, hchanges⟩ := update_eq_ok h
  have hcovers : ∀ entry ∈ kwargs, l.Covers draft.paths entry := by
    refine foldlM_each (fun entry D => l.Covers (UpdateDraft.paths D) entry) ?_ ?_ hdraft
    · intro entry _ D D' hadd
      exact covers_of_addUpdate hadd
    · intro entry _ other _ D D' hcovers hadd
      exact hcovers.mono fun _ => paths_of_addUpdate hadd
  intro entry hentry
  refine (hcovers entry hentry).mono fun path hpath => ?_
  rw [hfilter, hchanges, FilterDraft.keys_toDocument, List.mem_append,
    UpdateDraft.mem_writtenPaths]
  simpa [UpdateDraft.paths] using hpath

end Lowering

end DocMapper
