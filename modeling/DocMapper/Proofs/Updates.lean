import DocMapper.Proofs.Checks
import DocMapper.Proofs.Document
import DocMapper.Proofs.Names
import DocMapper.Update

namespace DocMapper

/-! # What updates do to a document

An operator at a path puts one value under the first segment of the path and leaves every other
key alone. Below the first segment it needs a document, and leaves a document. An update is a
sequence of such steps, so what each of them preserves, the update preserves.
-/

namespace Document

variable {d d' : Document} {path operator : String} {operand : Value}

/-! ## One step -/

/-- What stands under the first segment after a value was written at a path: the value itself, or
a document in place of a document or of nothing. -/
inductive Written (d : Document) (head : String) (operand : Value) : List String → Value → Prop
  | whole : Written d head operand [] operand
  | inside {rest : List String} {inner : Document} (hne : rest ≠ [])
      (hbefore : ∀ old, get? d head = some old → ∃ fields, old = .document fields) :
      Written d head operand rest (.document inner)

/-- Writing at a path puts one value under its first segment. -/
theorem setAt_eq_ok {head : String} {rest : List String}
    (h : setAt d head rest operand = .ok d') :
    ∃ w, d' = insert d head w ∧ Written d head operand rest w := by
  cases rest with
  | nil =>
    rw [setAt, Except.ok.injEq] at h
    exact ⟨operand, h.symm, .whole⟩
  | cons next after =>
    rw [setAt] at h
    split at h
    · rename_i hnone
      obtain ⟨inner, -, rfl⟩ := map_eq_ok.mp h
      refine ⟨_, rfl, .inside (List.cons_ne_nil _ _) fun old hold => ?_⟩
      rw [hnone] at hold
      cases hold
    · rename_i fields hsome
      obtain ⟨inner, -, rfl⟩ := map_eq_ok.mp h
      refine ⟨_, rfl, .inside (List.cons_ne_nil _ _) fun old hold => ?_⟩
      rw [hsome, Option.some.injEq] at hold
      exact ⟨fields, hold.symm⟩
    · cases h

theorem write_eq_ok (h : write d path operand = .ok d') :
    ∃ w, d' = insert d (Path.ofString path).head w ∧
      Written d (Path.ofString path).head operand (Path.ofString path).rest w := by
  unfold write at h
  split at h
  · rename_i after hafter
    rw [Except.ok.injEq] at h
    subst h
    exact setAt_eq_ok hafter
  · cases h

/-- The value that an operator writes: the operand of `$set`, or the sum of `$inc`. -/
inductive Operates (d : Document) (path : String) (operand : Value) : String → Value → Prop
  | set : Operates d path operand "$set" operand
  | inc {sum : Value} (hsum : increment d path operand = .ok sum) :
      Operates d path operand "$inc" sum

/-- An operator that succeeds writes its value, and an operand for the identifier equals the one
that is there. -/
theorem applyAt_eq_ok (h : applyAt operator d (path, operand) = .ok d') :
    (path = idKey → changesId d operand = false) ∧
      ∃ v, Operates d path operand operator v ∧ write d path v = .ok d' := by
  simp only [applyAt] at h
  split at h
  · cases h
  rename_i hguard
  refine ⟨fun hpath => by simpa [hpath] using hguard, ?_⟩
  split at h
  · exact ⟨operand, .set, h⟩
  · obtain ⟨sum, hsum, hwrite⟩ := bind_eq_ok.mp h
    exact ⟨sum, .inc hsum, hwrite⟩
  · cases h

/-- What an increment gives: the amount, where there was nothing or null, or a sum. -/
theorem increment_eq_ok {amount v : Value} (h : increment d path amount = .ok v) :
    ((getPath? d path = none ∨ getPath? d path = some .null) ∧ v = amount) ∨
      ∃ current, getPath? d path = some current ∧ current.add? amount = some v := by
  unfold increment at h
  split at h
  · rename_i hnone
    exact Or.inl ⟨Or.inl hnone, (Except.ok.inj h).symm⟩
  · rename_i hnull
    exact Or.inl ⟨Or.inr hnull, (Except.ok.inj h).symm⟩
  · rename_i current _ hcurrent
    split at h
    · rename_i sum hsum
      exact Or.inr ⟨current, hcurrent, hsum.trans (congrArg some (Except.ok.inj h))⟩
    · cases h

/-! ## A sequence of steps -/

/-- The steps of an update: its operators in order, each at its paths in order. -/
def steps (update : Document) : List (String × String × Value) :=
  update.flatMap fun (operator, operand) =>
    match operand with
    | .document fields => fields.map fun entry => (operator, entry)
    | _ => []

/-- The paths at which an update writes. -/
def writtenPaths (update : Document) : List String := (steps update).map (·.2.1)

theorem mem_steps {update : Document} {step : String × String × Value} :
    step ∈ steps update ↔
      ∃ fields, (step.1, .document fields) ∈ update ∧ step.2 ∈ fields := by
  rw [steps, List.mem_flatMap]
  constructor
  · rintro ⟨⟨operator, operand⟩, hentry, hstep⟩
    cases operand with
    | document fields =>
      obtain ⟨entry, hfield, rfl⟩ := List.mem_map.mp hstep
      exact ⟨fields, hentry, hfield⟩
    | _ => cases hstep
  · rintro ⟨fields, hentry, hfield⟩
    exact ⟨_, hentry, List.mem_map_of_mem hfield⟩

theorem mem_writtenPaths {update : Document} :
    path ∈ writtenPaths update ↔
      ∃ operator fields, (operator, .document fields) ∈ update ∧ path ∈ keys fields := by
  rw [writtenPaths, List.mem_map]
  constructor
  · rintro ⟨⟨operator, entry⟩, hstep, rfl⟩
    obtain ⟨fields, hentry, hfield⟩ := mem_steps.mp hstep
    exact ⟨operator, fields, hentry, mem_keys_of_mem hfield⟩
  · rintro ⟨operator, fields, hentry, hpath⟩
    obtain ⟨v, hv⟩ := exists_of_mem_keys hpath
    exact ⟨(operator, path, v), mem_steps.mpr ⟨fields, hentry, hv⟩, rfl⟩

/-- An update that succeeds takes its steps one after the other. -/
theorem updated_eq_ok {update : Document} (h : updated d update = .ok d') :
    (steps update).foldlM (fun c step => applyAt step.1 c step.2) d = .ok d' := by
  induction update generalizing d with
  | nil => exact h
  | cons entry rest ih =>
    obtain ⟨operator, operand⟩ := entry
    rw [updated, List.foldlM_cons] at h
    obtain ⟨c, hc, hrest⟩ := bind_eq_ok.mp h
    cases operand with
    | document fields =>
      have hsteps : steps ((operator, .document fields) :: rest) =
          (fields.map fun entry => (operator, entry)) ++ steps rest := rfl
      rw [hsteps, List.foldlM_append, List.foldlM_map]
      exact bind_eq_ok.mpr ⟨c, hc, ih hrest⟩
    | _ => cases hc

/-- What every operator of an update preserves at each of its paths, the update preserves. -/
theorem updated_induction {update : Document} (P : Document → Prop)
    (hstep : ∀ operator fields, (operator, .document fields) ∈ update → ∀ entry ∈ fields,
      ∀ c c', P c → applyAt operator c entry = .ok c' → P c')
    (hd : P d) (h : updated d update = .ok d') : P d' := by
  refine foldlM_induction P ?_ hd (updated_eq_ok h)
  intro step hmem
  obtain ⟨fields, hentry, hfield⟩ := mem_steps.mp hmem
  exact hstep step.1 fields hentry step.2 hfield

/-! ## Replacements -/

theorem refuseOperators_of_plain {replacement : Document}
    (h : ∀ key ∈ keys replacement, isOperatorKey key = false) :
    refuseOperators replacement = .ok () := by
  have hnone : (keys replacement).find? isOperatorKey = none := by
    refine List.find?_eq_none.mpr fun key hkey => ?_
    rw [h key hkey]
    exact Bool.false_ne_true
  rw [refuseOperators, hnone]

end Document

end DocMapper
