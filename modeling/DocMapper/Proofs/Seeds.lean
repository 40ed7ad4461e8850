import DocMapper.Proofs.Updates

namespace DocMapper

/-! # What an upsert creates

The document of an upsert starts as nothing. What the filter fixes by equality is written into it,
and then the update is applied. Both are runs of writes: a run brings in the keys that its paths
start with and no others, and leaves a key alone that none of its paths starts with.
-/

namespace Document

variable {d d' : Document} {path key : String} {v : Value}

/-! ## Runs of writes -/

theorem get?_of_write (h : write d path v = .ok d') (hne : (Path.ofString path).head ≠ key) :
    get? d' key = get? d key := by
  obtain ⟨w, rfl, -⟩ := write_eq_ok h
  exact get?_insert_of_ne hne d w

theorem mem_keys_of_write (h : write d path v = .ok d') :
    key ∈ keys d' ↔ key ∈ keys d ∨ (Path.ofString path).head = key := by
  obtain ⟨w, rfl, -⟩ := write_eq_ok h
  rw [mem_keys_insert, eq_comm]

/-- A write puts its value under a key, or a document in place of a document or of nothing. -/
theorem write_cases (h : write d path v = .ok d') :
    ((Path.ofString path).rest = [] ∧ get? d' path = some v) ∨
      (Path.ofString path).rest ≠ [] ∧
        (∃ inner, get? d' (Path.ofString path).head = some (.document inner)) ∧
        ∀ old, get? d (Path.ofString path).head = some old → ∃ fields, old = .document fields := by
  obtain ⟨w, rfl, hwritten⟩ := write_eq_ok h
  have hget := get?_insert_self d (Path.ofString path).head w
  generalize hrest : (Path.ofString path).rest = rest at hwritten
  cases hwritten with
  | whole =>
    rw [Path.head_of_rest_eq_nil hrest] at hget ⊢
    exact Or.inl ⟨rfl, hget⟩
  | inside hne hbefore => exact Or.inr ⟨hne, ⟨_, hget⟩, hbefore⟩

/-- Every step writes one value at a path of its own, whatever the value is. -/
def WritesAt {α : Type} (f : Document → α → Except Error Document) (pathOf : α → String) : Prop :=
  ∀ a c c', f c a = .ok c' → ∃ v, write c (pathOf a) v = .ok c'

theorem writesAt_applyAt : WritesAt (fun c (step : String × String × Value) =>
    applyAt step.1 c step.2) (·.2.1) := by
  intro step c c' h
  obtain ⟨-, v, -, hwrite⟩ := applyAt_eq_ok h
  exact ⟨v, hwrite⟩

theorem writesAt_write : WritesAt (fun c (entry : String × Value) => write c entry.1 entry.2)
    (·.1) :=
  fun entry _ _ h => ⟨entry.2, h⟩

namespace WritesAt

variable {α : Type} {f : Document → α → Except Error Document} {pathOf : α → String} {l : List α}

/-- A run leaves the keys that were there and those that its paths start with. -/
theorem mem_keys (hf : WritesAt f pathOf) (h : l.foldlM f d = .ok d') :
    key ∈ keys d' ↔ key ∈ keys d ∨ ∃ a ∈ l, (Path.ofString (pathOf a)).head = key := by
  induction l generalizing d with
  | nil =>
    rw [List.foldlM_nil, pure_eq_ok] at h
    simp [h]
  | cons a rest ih =>
    rw [List.foldlM_cons] at h
    obtain ⟨c, hc, hrest⟩ := bind_eq_ok.mp h
    obtain ⟨v, hwrite⟩ := hf a d c hc
    rw [ih hrest, mem_keys_of_write hwrite, List.exists_mem_cons_iff, or_assoc]

/-- A run leaves a key alone that none of its paths starts with. -/
theorem get?_of_ne (hf : WritesAt f pathOf)
    (hne : ∀ a ∈ l, (Path.ofString (pathOf a)).head ≠ key) (h : l.foldlM f d = .ok d') :
    get? d' key = get? d key := by
  refine foldlM_induction (fun c => get? c key = get? d key) ?_ rfl h
  intro a ha c c' hc hstep
  obtain ⟨v, hwrite⟩ := hf a c c' hstep
  rw [get?_of_write hwrite (hne a ha), hc]

theorem nodup_keys (hf : WritesAt f pathOf) (hd : (keys d).Nodup) (h : l.foldlM f d = .ok d') :
    (keys d').Nodup := by
  refine foldlM_induction (fun c => (keys c).Nodup) ?_ hd h
  intro a _ c c' hc hstep
  obtain ⟨v, hwrite⟩ := hf a c c' hstep
  obtain ⟨w, rfl, -⟩ := write_eq_ok hwrite
  exact nodup_keys_insert hc _ w

end WritesAt

/-! ## What a filter fixes -/

end Document

/-- The value that a condition fixes: one that it asks to be equal to. -/
def Value.fixed? (condition : Value) : Option Value :=
  match condition with
  | .document operators =>
    if condition.isOperators then Document.get? operators "$eq" else some condition
  | _ => some condition

/-- What a condition fixes is the condition, unless that is a document. -/
theorem Value.fixed?_cases {condition v : Value} (h : condition.fixed? = some v) :
    v = condition ∨ ∃ fields, condition = .document fields := by
  cases condition with
  | document fields => exact Or.inr ⟨fields, rfl⟩
  | _ => exact Or.inl (Option.some.inj h).symm

namespace Document

variable {filter seed d d' : Document} {name : String} {v : Value}

/-- The values that a filter fixes, each under its path. -/
def fixedValues (filter : Document) : Document :=
  filter.filterMap fun (path, condition) =>
    if isOperatorKey path then none else condition.fixed?.map fun v => (path, v)

theorem mem_fixedValues {entry : String × Value} : entry ∈ fixedValues filter ↔
    ∃ condition, (entry.1, condition) ∈ filter ∧ isOperatorKey entry.1 = false ∧
      condition.fixed? = some entry.2 := by
  rw [fixedValues, List.mem_filterMap]
  constructor
  · rintro ⟨⟨path, condition⟩, hmem, h⟩
    dsimp only at h
    split at h
    · cases h
    · rename_i hplain
      obtain ⟨v, hv, rfl⟩ := Option.map_eq_some_iff.mp h
      exact ⟨condition, hmem, by simpa using hplain, hv⟩
  · rintro ⟨condition, hmem, hplain, hv⟩
    refine ⟨_, hmem, ?_⟩
    simp [hplain, hv]

theorem fixedValues_cons (entry : String × Value) (rest : Document) :
    fixedValues (entry :: rest) = fixedValues [entry] ++ fixedValues rest :=
  List.filterMap_append (l := [entry])

/-- The document that a filter fixes is made by a run that writes the fixed values. -/
theorem fixedBy_eq (filter : Document) :
    fixedBy filter = (fixedValues filter).foldlM (fun c entry => write c entry.1 entry.2) [] := by
  rw [fixedBy]
  generalize ([] : Document) = seed
  induction filter generalizing seed with
  | nil => rfl
  | cons entry rest ih =>
    obtain ⟨path, condition⟩ := entry
    rw [List.foldlM_cons, fixedValues_cons, List.foldlM_append]
    have hentry : (fixedValues [(path, condition)]).foldlM
        (fun c entry => write c entry.1 entry.2) seed =
          if isOperatorKey path then .ok seed
          else condition.fixed?.elim (.ok seed) (write seed path) := by
      cases hkey : isOperatorKey path <;> cases hfixed : condition.fixed? <;>
        simp [fixedValues, hkey, hfixed] <;> rfl
    -- each entry writes what it fixes, or nothing
    refine congrArg₂ (· >>= ·) ?_ (funext ih)
    rw [hentry]
    cases condition with
    | document operators =>
      simp only [Value.fixed?]
      cases (Value.document operators).isOperators with
      | false => rfl
      | true => cases get? operators "$eq" <;> rfl
    | _ => rfl

/-- What holds of every value fixed for a key, and of documents where something is fixed inside the
key, holds of what a seed has under the key. -/
theorem fixedBy_induction (Q : Value → Prop) (hwhole : ∀ v, (name, v) ∈ fixedValues filter → Q v)
    (hinside : ∀ entry ∈ fixedValues filter, (Path.ofString entry.1).head = name →
      (Path.ofString entry.1).rest ≠ [] → ∀ inner, Q (.document inner))
    (h : fixedBy filter = .ok seed) : ∀ v, get? seed name = some v → Q v := by
  rw [fixedBy_eq] at h
  refine foldlM_induction (fun c => ∀ v, get? c name = some v → Q v) ?_
    (fun _ hv => by cases hv) h
  intro entry hentry c c' hc hwrite v hv
  by_cases hhead : (Path.ofString entry.1).head = name
  · rcases write_cases hwrite with ⟨hrest, hget⟩ | ⟨hrest, ⟨inner, hget⟩, -⟩
    · have hpath : entry.1 = name := (Path.head_of_rest_eq_nil hrest).symm.trans hhead
      rw [hpath, hv, Option.some.injEq] at hget
      exact hwhole v (by rw [← hpath, hget]; exact hentry)
    · rw [hhead, hv, Option.some.injEq] at hget
      exact hget ▸ hinside entry hentry hhead hrest inner
  · rw [get?_of_write hwrite hhead] at hv
    exact hc v hv

/-- A filter in which every path occurs once fixes one value for a path. -/
theorem eq_of_mem_fixedValues (hdistinct : (keys filter).Nodup) {w : Value}
    (hv : (path, v) ∈ fixedValues filter) (hw : (path, w) ∈ fixedValues filter) : v = w := by
  obtain ⟨condition, hmem, -, hfixed⟩ := mem_fixedValues.mp hv
  obtain ⟨condition', hmem', -, hfixed'⟩ := mem_fixedValues.mp hw
  have hsame := ((get?_eq_some_iff hdistinct).mpr hmem).symm.trans
    ((get?_eq_some_iff hdistinct).mpr hmem')
  cases hsame
  exact Option.some.inj (hfixed.symm.trans hfixed')

/-- A value fixed for a key stands in the seed, unless it is a document and something is fixed
inside the key. -/
theorem get?_of_mem_fixedValues (hname : LegalName name) (hdistinct : (keys filter).Nodup)
    (hinside : ∀ entry ∈ fixedValues filter, (Path.ofString entry.1).head = name →
      (Path.ofString entry.1).rest ≠ [] → ∀ fields, v ≠ .document fields)
    (hv : (name, v) ∈ fixedValues filter) (h : fixedBy filter = .ok seed) :
    get? seed name = some v := by
  rw [fixedBy_eq] at h
  -- the value is there once it is written, and no later step of the fold removes it
  refine foldlM_each (fun entry c => entry = (name, v) → get? c name = some v) ?_ ?_ h _ hv rfl
  · rintro entry - c c' hwrite rfl
    rcases write_cases hwrite with ⟨-, hget⟩ | ⟨hrest, -⟩
    · exact hget
    · rw [hname.path] at hrest
      exact absurd rfl hrest
  · rintro entry - other hother c c' hbefore hwrite rfl
    have hget := hbefore rfl
    by_cases hhead : (Path.ofString other.1).head = name
    · rcases write_cases hwrite with ⟨hrest, hafter⟩ | ⟨hrest, -, hdocument⟩
      · -- another entry for the whole field has the same key, hence the same value
        have hpath : other.1 = name := (Path.head_of_rest_eq_nil hrest).symm.trans hhead
        have hmem : (name, other.2) ∈ fixedValues filter := by
          rw [← hpath]
          exact hother
        rw [hpath] at hafter
        rw [hafter, eq_of_mem_fixedValues hdistinct hv hmem]
      · -- an entry inside the field would need the value to be a document
        obtain ⟨fields, hfields⟩ := hdocument v (hhead ▸ hget)
        exact absurd hfields (hinside other hother hhead hrest fields)
    · rw [get?_of_write hwrite hhead, hget]

end Document

end DocMapper
