import Mathlib.Data.List.Perm.Subperm
import DocMapper.Proofs.Document
import DocMapper.Value.Order

namespace DocMapper

/-! # Equality of values is transitive

Equality in the store compares numbers by their places and ignores the order of keys, so it is
neither identity nor, because of NaN, reflexive. It is transitive, and equal values are nested
equally deep; in particular no value equals a part of itself. It is symmetric for documents that
have each key once.
-/

namespace Value

/-! ## Depth -/

mutual

/-- How deep lists and documents are nested in a value. No path leads into a scope. -/
def depth : Value → Nat
  | .array items => depthOfItems items + 1
  | .document fields => depthOfFields fields + 1
  | _ => 0

/-- The depth of the deepest item. -/
def depthOfItems : List Value → Nat
  | [] => 0
  | v :: rest => max v.depth (depthOfItems rest)

/-- The depth of the deepest entry. -/
def depthOfFields : List (String × Value) → Nat
  | [] => 0
  | (_, v) :: rest => max v.depth (depthOfFields rest)

end

theorem depth_le_depthOfItems {items : List Value} {v : Value} (h : v ∈ items) :
    v.depth ≤ depthOfItems items := by
  induction items with
  | nil => exact absurd h List.not_mem_nil
  | cons w rest ih =>
    rw [depthOfItems]
    rcases List.mem_cons.mp h with rfl | hrest
    · exact Nat.le_max_left _ _
    · exact Nat.le_trans (ih hrest) (Nat.le_max_right _ _)

theorem depth_le_depthOfFields {fields : Document} {key : String} {v : Value}
    (h : (key, v) ∈ fields) : v.depth ≤ depthOfFields fields := by
  induction fields with
  | nil => exact absurd h List.not_mem_nil
  | cons entry rest ih =>
    obtain ⟨k, w⟩ := entry
    rw [depthOfFields]
    rcases List.mem_cons.mp h with heq | hrest
    · cases heq
      exact Nat.le_max_left _ _
    · exact Nat.le_trans (ih hrest) (Nat.le_max_right _ _)

/-! ## Equality of type and content -/

/-- The ways in which two values have the same type and content. -/
inductive Alike : Value → Value → Prop
  | same (v : Value) : Alike v v
  | doubles {x y : Double} (h : x.equals y = true) : Alike (.double x) (.double y)
  | arrays {as bs : List Value} (h : beqItems as bs = true) : Alike (.array as) (.array bs)
  | documents {d e : Document} (hlength : d.length = e.length) (h : beqFields d e = true) :
      Alike (.document d) (.document e)
  | scopes (s : String) {d e : Document} (hlength : d.length = e.length)
      (h : beqFields d e = true) : Alike (.scopedCode s d) (.scopedCode s e)

theorem alike_of_beq {a b : Value} (h : a.beq b = true) : Alike a b := by
  fun_cases Value.beq a b with
  | case5 => exact .doubles (by simpa only [Value.beq] using h)
  | case7 => exact .arrays (by simpa only [Value.beq] using h)
  | case8 =>
    simp only [Value.beq, Bool.and_eq_true, beq_iff_eq] at h
    exact .documents h.1 h.2
  | case17 =>
    simp only [Value.beq, Bool.and_eq_true, beq_iff_eq] at h
    obtain ⟨rfl, hlength, hfields⟩ := h
    exact .scopes _ hlength hfields
  | case22 => simp [Value.beq] at h
  | case1 | case19 | case20 | case21 => exact .same _
  | _ =>
    -- every other kind of value has a lawful equality of its own
    simp only [Value.beq, Bool.and_eq_true, beq_iff_eq] at h
    simp only [h]
    exact .same _

/-- Each entry on the left finds an equal one under its key. -/
theorem beqFields_iff {d e : Document} :
    beqFields d e = true ↔
      ∀ entry ∈ d, ∃ w, Document.get? e entry.1 = some w ∧ entry.2.beq w = true := by
  induction d with
  | nil => simp [beqFields]
  | cons entry rest ih =>
    obtain ⟨k, v⟩ := entry
    rw [beqFields, Bool.and_eq_true, ih, List.forall_mem_cons]
    refine and_congr_left fun _ => ?_
    cases Document.get? e k with
    | none => simp
    | some w => simp

mutual

theorem beq_trans : ∀ {a b c : Value}, a.beq b = true → b.beq c = true → a.beq c = true
  | a, b, c, hab, hbc => by
    -- equal values are of one kind, and the middle one has the kind of both
    cases alike_of_beq hab with
    | same => exact hbc
    | doubles hxy =>
      cases alike_of_beq hbc with
      | same => exact hab
      | doubles hyz =>
        simp only [Double.equals, Bool.and_eq_true, beq_iff_eq] at hxy hyz
        simp only [Value.beq, Double.equals, Bool.and_eq_true, beq_iff_eq]
        exact ⟨⟨hxy.1.1, hyz.1.2⟩, hxy.2.trans hyz.2⟩
    | arrays has =>
      cases alike_of_beq hbc with
      | same => exact hab
      | arrays hbs =>
        rw [Value.beq]
        exact beqItems_trans has hbs
    | documents hlen hd =>
      cases alike_of_beq hbc with
      | same => exact hab
      | documents hlen' he =>
        rw [Value.beq, Bool.and_eq_true, beq_iff_eq]
        exact ⟨hlen.trans hlen', beqFields_trans hd he⟩
    | scopes s hlen hd =>
      cases alike_of_beq hbc with
      | same => exact hab
      | scopes _ hlen' he =>
        simp only [Value.beq, Bool.and_eq_true, beq_iff_eq]
        exact ⟨trivial, hlen.trans hlen', beqFields_trans hd he⟩

theorem beqItems_trans : ∀ {as bs cs : List Value},
    beqItems as bs = true → beqItems bs cs = true → beqItems as cs = true
  | [], [], [], _, _ => rfl
  | a :: as, b :: bs, c :: cs, hab, hbc => by
    simp only [beqItems, Bool.and_eq_true] at hab hbc ⊢
    exact ⟨beq_trans hab.1 hbc.1, beqItems_trans hab.2 hbc.2⟩

theorem beqFields_trans : ∀ {d e f : Document},
    beqFields d e = true → beqFields e f = true → beqFields d f = true
  | [], _, _, _, _ => rfl
  | (k, v) :: rest, e, f, hde, hef => by
    have hall := beqFields_iff.mp hde
    obtain ⟨w, hw, hvw⟩ := hall (k, v) List.mem_cons_self
    obtain ⟨u, hu, hwu⟩ := beqFields_iff.mp hef (k, w) (Document.mem_of_get?_eq_some hw)
    have hrest : beqFields rest e = true :=
      beqFields_iff.mpr fun entry h => hall entry (List.mem_cons_of_mem _ h)
    have htail := beqFields_iff.mp (beqFields_trans hrest hef)
    refine beqFields_iff.mpr fun entry h => ?_
    rcases List.mem_cons.mp h with rfl | h
    · exact ⟨u, hu, beq_trans hvw hwu⟩
    · exact htail entry h

end

mutual

/-- A value is nested no deeper than one that it equals. -/
theorem depth_le_of_beq : ∀ {a b : Value}, a.beq b = true → a.depth ≤ b.depth
  | a, b, h => by
    cases alike_of_beq h with
    | same => exact Nat.le_refl _
    | doubles _ | scopes _ _ _ => exact Nat.le_refl _
    | arrays has => exact Nat.succ_le_succ (depthOfItems_le_of_beq has)
    | documents _ hd => exact Nat.succ_le_succ (depthOfFields_le_of_beq hd)

theorem depthOfItems_le_of_beq : ∀ {as bs : List Value},
    beqItems as bs = true → depthOfItems as ≤ depthOfItems bs
  | [], [], _ => Nat.le_refl _
  | a :: as, b :: bs, h => by
    rw [beqItems, Bool.and_eq_true] at h
    have hhead := depth_le_of_beq h.1
    have htail := depthOfItems_le_of_beq h.2
    simp only [depthOfItems]
    omega

theorem depthOfFields_le_of_beq : ∀ {d e : Document},
    beqFields d e = true → depthOfFields d ≤ depthOfFields e
  | [], _, _ => Nat.zero_le _
  | (k, v) :: rest, e, h => by
    have hall := beqFields_iff.mp h
    obtain ⟨w, hw, hvw⟩ := hall (k, v) List.mem_cons_self
    have hhead : v.depth ≤ w.depth := depth_le_of_beq hvw
    have hwe := depth_le_depthOfFields (Document.mem_of_get?_eq_some hw)
    have htail : depthOfFields rest ≤ depthOfFields e :=
      depthOfFields_le_of_beq
        (beqFields_iff.mpr fun entry h => hall entry (List.mem_cons_of_mem _ h))
    simp only [depthOfFields]
    omega

end

/-! ## Equality in the store -/

theorem magnitude?_of_beq {a b : Value} (h : a.beq b = true) :
    a.magnitude? = none ↔ b.magnitude? = none := by
  cases alike_of_beq h <;> simp [magnitude?, toDouble?]

theorem equals_of_magnitude? {a b : Value} {m n : Magnitude} (ha : a.magnitude? = some m)
    (hb : b.magnitude? = some n) : a.equals b = m.equals n := by
  simp [Value.equals, ha, hb]

/-- Outside the numbers, equality in the store is equality of type and content. -/
theorem equals_eq_beq {a : Value} (ha : a.magnitude? = none) (b : Value) :
    a.equals b = a.beq b := by
  simp only [Value.equals, ha]
  rfl

/-- What equals a number is a number. -/
theorem magnitude?_of_equals {a b : Value} (h : a.equals b = true) :
    a.magnitude? = none ↔ b.magnitude? = none := by
  cases ha : a.magnitude? with
  | none =>
    rw [equals_eq_beq ha] at h
    rw [← magnitude?_of_beq h, ha]
  | some m =>
    cases hb : b.magnitude? with
    | some n => simp
    | none =>
      have hbeq : a.beq b = true := by
        simp only [Value.equals, ha, hb] at h
        exact h
      exact absurd ((magnitude?_of_beq hbeq).mpr hb) (by simp [ha])

theorem equals_trans {a b c : Value} (hab : a.equals b = true) (hbc : b.equals c = true) :
    a.equals c = true := by
  have hnum := magnitude?_of_equals hab
  have hnum' := magnitude?_of_equals hbc
  cases ha : a.magnitude? with
  | none =>
    have hb := hnum.mp ha
    rw [equals_eq_beq ha] at hab ⊢
    rw [equals_eq_beq hb] at hbc
    exact beq_trans hab hbc
  | some m =>
    have hbne : b.magnitude? ≠ none := fun hb => by simp [hnum.mpr hb] at ha
    have hcne : c.magnitude? ≠ none := fun hc => hbne (hnum'.mpr hc)
    obtain ⟨n, hb⟩ := Option.ne_none_iff_exists'.mp hbne
    obtain ⟨k, hc⟩ := Option.ne_none_iff_exists'.mp hcne
    rw [equals_of_magnitude? ha hb] at hab
    rw [equals_of_magnitude? hb hc] at hbc
    rw [equals_of_magnitude? ha hc]
    cases m <;> cases n <;> cases k <;> simp_all [Magnitude.equals]

/-- A list or a document is nested no deeper than what it equals in the store. -/
theorem depth_le_of_equals {a b : Value} (ha : a.magnitude? = none) (h : a.equals b = true) :
    a.depth ≤ b.depth :=
  depth_le_of_beq (equals_eq_beq ha b ▸ h)

/-! ## Symmetry -/

mutual

/-- Every document inside the value has each of its keys once. -/
def DistinctKeys : Value → Prop
  | .array items => DistinctKeysOfItems items
  | .document fields | .scopedCode _ fields =>
    (Document.keys fields).Nodup ∧ DistinctKeysOfFields fields
  | _ => True

/-- Every document inside the items has each of its keys once. -/
def DistinctKeysOfItems : List Value → Prop
  | [] => True
  | v :: rest => v.DistinctKeys ∧ DistinctKeysOfItems rest

/-- Every document inside the values of the entries has each of its keys once. -/
def DistinctKeysOfFields : List (String × Value) → Prop
  | [] => True
  | (_, v) :: rest => v.DistinctKeys ∧ DistinctKeysOfFields rest

end

/-- Entries under distinct keys that find equal ones under as many keys are found by these. -/
theorem beqFields_symm {d e : Document} (hnodup : (Document.keys d).Nodup)
    (hsymm : ∀ entry ∈ d, ∀ w, entry.2.beq w = true → w.beq entry.2 = true)
    (hlength : d.length = e.length) (h : beqFields d e = true) : beqFields e d = true := by
  have hall := beqFields_iff.mp h
  -- every key of the one is a key of the other,
  have hsubset : Document.keys d ⊆ Document.keys e := by
    intro k hk
    obtain ⟨v, hv⟩ := Document.exists_of_mem_keys hk
    obtain ⟨w, hw, -⟩ := hall (k, v) hv
    exact Document.mem_keys_of_mem (Document.mem_of_get?_eq_some hw)
  -- and as they have equally many, the keys are the same
  have hperm : (Document.keys d).Perm (Document.keys e) :=
    (hnodup.subperm hsubset).perm_of_length_le (by simp [Document.keys, hlength])
  have hnodup' : (Document.keys e).Nodup := hperm.nodup hnodup
  refine beqFields_iff.mpr fun entry hentry => ?_
  obtain ⟨k, w⟩ := entry
  obtain ⟨v, hv⟩ := Document.exists_of_mem_keys
    (hperm.mem_iff.mpr (Document.mem_keys_of_mem hentry))
  obtain ⟨w', hw', hvw⟩ := hall (k, v) hv
  have hw : Document.get? e k = some w := (Document.get?_eq_some_iff hnodup').mpr hentry
  cases hw.symm.trans hw'
  exact ⟨v, (Document.get?_eq_some_iff hnodup).mpr hv, hsymm (k, v) hv w hvw⟩

mutual

/-- Equality is symmetric where the keys are distinct. With a repeated key, a document may have
all its entries in one that has more keys. -/
theorem beq_symm : ∀ {a b : Value}, a.DistinctKeys → a.beq b = true → b.beq a = true
  | a, b, hkeys, h => by
    cases alike_of_beq h with
    | same => exact h
    | doubles hxy =>
      simp only [Double.equals, Bool.and_eq_true, beq_iff_eq] at hxy
      simp only [Value.beq, Double.equals, Bool.and_eq_true, beq_iff_eq]
      exact ⟨⟨hxy.1.2, hxy.1.1⟩, hxy.2.symm⟩
    | arrays has =>
      rw [Value.beq]
      exact beqItems_symm hkeys has
    | documents hlength hd =>
      rw [Value.beq, Bool.and_eq_true, beq_iff_eq]
      exact ⟨hlength.symm, beqFields_symm hkeys.1 (beq_symm_of_mem_fields hkeys.2) hlength hd⟩
    | scopes s hlength hd =>
      simp only [Value.beq, Bool.and_eq_true, beq_iff_eq]
      exact ⟨trivial, hlength.symm,
        beqFields_symm hkeys.1 (beq_symm_of_mem_fields hkeys.2) hlength hd⟩

theorem beqItems_symm : ∀ {as bs : List Value},
    DistinctKeysOfItems as → beqItems as bs = true → beqItems bs as = true
  | [], [], _, _ => rfl
  | a :: as, b :: bs, hkeys, h => by
    rw [beqItems, Bool.and_eq_true] at h ⊢
    exact ⟨beq_symm hkeys.1 h.1, beqItems_symm hkeys.2 h.2⟩

theorem beq_symm_of_mem_fields : ∀ {d : Document}, DistinctKeysOfFields d →
    ∀ entry ∈ d, ∀ w, entry.2.beq w = true → w.beq entry.2 = true
  | (k, v) :: rest, hkeys, entry, hentry, w, h => by
    rcases List.mem_cons.mp hentry with rfl | hentry
    · exact beq_symm hkeys.1 h
    · exact beq_symm_of_mem_fields hkeys.2 entry hentry w h

end

theorem equals_symm {a b : Value} (ha : a.DistinctKeys) (h : a.equals b = true) :
    b.equals a = true := by
  have hnumber := magnitude?_of_equals h
  cases hma : a.magnitude? with
  | none =>
    rw [equals_eq_beq hma] at h
    rw [equals_eq_beq (hnumber.mp hma)]
    exact beq_symm ha h
  | some m =>
    obtain ⟨n, hmb⟩ : ∃ n, b.magnitude? = some n :=
      Option.ne_none_iff_exists'.mp fun hmb => by simp [hnumber.mpr hmb] at hma
    rw [equals_of_magnitude? hma hmb] at h
    rw [equals_of_magnitude? hmb hma]
    cases m <;> cases n <;> simp_all [Magnitude.equals]

end Value

end DocMapper
