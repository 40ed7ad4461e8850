import Mathlib.Data.List.Basic
import Mathlib.Data.List.Nodup
import DocMapper.Value.Basic

namespace DocMapper

/-! # Documents as finite maps

A document is a list of entries; these lemmas let later proofs read it as a map from keys to
values that remembers its order. Nothing outside this module unfolds `get?`, `insert` or `erase`.
-/

namespace Document

/-! ## Reading -/

@[simp] theorem get?_nil (key : String) : get? [] key = none := rfl

theorem get?_cons (k : String) (v : Value) (d : Document) (key : String) :
    get? ((k, v) :: d) key = if k = key then some v else get? d key := by
  by_cases h : k = key
  · simp [get?, h]
  · simp [get?, h]

@[simp] theorem get?_cons_self (k : String) (v : Value) (d : Document) :
    get? ((k, v) :: d) k = some v := by
  simp [get?_cons]

theorem get?_cons_of_ne {k key : String} (h : k ≠ key) (v : Value) (d : Document) :
    get? ((k, v) :: d) key = get? d key := by
  simp [get?_cons, h]

@[simp] theorem keys_cons (k : String) (v : Value) (d : Document) :
    keys ((k, v) :: d) = k :: keys d := rfl

@[simp] theorem keys_nil : keys [] = [] := rfl

theorem mem_keys_of_mem {d : Document} {entry : String × Value} (h : entry ∈ d) :
    entry.1 ∈ keys d :=
  List.mem_map_of_mem h

theorem exists_of_mem_keys {d : Document} {key : String} (h : key ∈ keys d) :
    ∃ v, (key, v) ∈ d := by
  obtain ⟨⟨k, v⟩, hmem, rfl⟩ := List.mem_map.mp h
  exact ⟨v, hmem⟩

theorem hasKey_iff {d : Document} {key : String} : hasKey d key = true ↔ key ∈ keys d := by
  simp [hasKey, keys]

theorem mem_of_get?_eq_some {d : Document} {key : String} {v : Value}
    (h : get? d key = some v) : (key, v) ∈ d := by
  induction d with
  | nil => simp at h
  | cons entry rest ih =>
    obtain ⟨k, w⟩ := entry
    rw [get?_cons] at h
    split at h
    · rename_i hk
      cases h
      rw [hk]
      exact List.mem_cons_self
    · exact List.mem_cons_of_mem _ (ih h)

theorem get?_eq_none_iff {d : Document} {key : String} : get? d key = none ↔ key ∉ keys d := by
  induction d with
  | nil => simp
  | cons entry rest ih =>
    obtain ⟨k, w⟩ := entry
    rw [get?_cons, keys_cons, List.mem_cons, not_or]
    by_cases hk : k = key
    · simp [hk]
    · rw [if_neg hk, ih]
      exact ⟨fun h => ⟨fun he => hk he.symm, h⟩, fun h => h.2⟩

theorem exists_get?_of_mem_keys {d : Document} {key : String} (h : key ∈ keys d) :
    ∃ v, get? d key = some v := by
  cases hget : get? d key with
  | none => exact absurd h (get?_eq_none_iff.mp hget)
  | some v => exact ⟨v, rfl⟩

/-- A document without a value under any key is empty. -/
theorem eq_nil_of_get? {d : Document} (h : ∀ key, get? d key = none) : d = [] :=
  List.eq_nil_iff_forall_not_mem.mpr fun entry hentry =>
    get?_eq_none_iff.mp (h entry.1) (mem_keys_of_mem hentry)

/-- When every key occurs once, membership of an entry is what reading its key gives. -/
theorem get?_eq_some_iff {d : Document} (hd : (keys d).Nodup) {key : String} {v : Value} :
    get? d key = some v ↔ (key, v) ∈ d := by
  refine ⟨mem_of_get?_eq_some, fun h => ?_⟩
  induction d with
  | nil => simp at h
  | cons entry rest ih =>
    obtain ⟨k, w⟩ := entry
    rw [keys_cons, List.nodup_cons] at hd
    rcases List.mem_cons.mp h with heq | hrest
    · cases heq
      exact get?_cons_self key v rest
    · have hne : k ≠ key := by
        rintro rfl
        exact hd.1 (mem_keys_of_mem hrest)
      rw [get?_cons_of_ne hne]
      exact ih hd.2 hrest

/-- Documents with the same values under the same keys are the same but for the order. -/
theorem perm_of_get? {d e : Document} (hd : (keys d).Nodup) (he : (keys e).Nodup)
    (h : ∀ key, get? d key = get? e key) : d.Perm e := by
  rw [List.perm_ext_iff_of_nodup (List.Nodup.of_map _ hd) (List.Nodup.of_map _ he)]
  rintro ⟨key, v⟩
  rw [← get?_eq_some_iff hd, ← get?_eq_some_iff he, h]

/-! ## Inserting -/

@[simp] theorem insert_nil (key : String) (v : Value) : insert [] key v = [(key, v)] := rfl

theorem insert_cons (k : String) (w : Value) (d : Document) (key : String) (v : Value) :
    insert ((k, w) :: d) key v = if k = key then (k, v) :: d else (k, w) :: insert d key v := rfl

theorem get?_insert (d : Document) (key : String) (v : Value) (k : String) :
    get? (insert d key v) k = if key = k then some v else get? d k := by
  induction d with
  | nil => simp [get?_cons]
  | cons entry rest ih =>
    obtain ⟨k', w⟩ := entry
    rw [insert_cons]
    by_cases hk : k' = key
    · rw [if_pos hk, get?_cons, hk]
      split
      · rfl
      · rename_i hne
        rw [get?_cons_of_ne hne]
    · rw [if_neg hk, get?_cons, ih, get?_cons]
      by_cases hk' : k' = k
      · have hne : key ≠ k := fun h => hk (hk'.trans h.symm)
        rw [if_pos hk', if_pos hk', if_neg hne]
      · rw [if_neg hk', if_neg hk']

@[simp] theorem get?_insert_self (d : Document) (key : String) (v : Value) :
    get? (insert d key v) key = some v := by
  rw [get?_insert, if_pos rfl]

theorem get?_insert_of_ne {key k : String} (h : key ≠ k) (d : Document) (v : Value) :
    get? (insert d key v) k = get? d k := by
  rw [get?_insert, if_neg h]

/-- A new key goes to the end. -/
theorem insert_of_not_mem {d : Document} {key : String} (h : key ∉ keys d) (v : Value) :
    insert d key v = d ++ [(key, v)] := by
  induction d with
  | nil => rfl
  | cons entry rest ih =>
    obtain ⟨k, w⟩ := entry
    rw [keys_cons, List.mem_cons, not_or] at h
    have hk : k ≠ key := fun he => h.1 he.symm
    rw [insert_cons, if_neg hk, ih h.2, List.cons_append]

/-- A key that is there keeps its place. -/
theorem keys_insert_of_mem {d : Document} {key : String} (h : key ∈ keys d) (v : Value) :
    keys (insert d key v) = keys d := by
  induction d with
  | nil => simp at h
  | cons entry rest ih =>
    obtain ⟨k, w⟩ := entry
    rw [insert_cons]
    by_cases hk : k = key
    · rw [if_pos hk, keys_cons, keys_cons]
    · have hrest : key ∈ keys rest := by
        rcases List.mem_cons.mp h with he | hrest
        · exact absurd he.symm hk
        · exact hrest
      rw [if_neg hk, keys_cons, keys_cons, ih hrest]

/-- An entry that is there is put in without a change. -/
theorem insert_of_get? {d : Document} {key : String} {v : Value} (h : get? d key = some v) :
    insert d key v = d := by
  induction d with
  | nil => cases h
  | cons entry rest ih =>
    obtain ⟨k, w⟩ := entry
    rw [get?_cons] at h
    rw [insert_cons]
    split
    · rename_i hk
      rw [if_pos hk] at h
      cases h
      rfl
    · rename_i hk
      rw [if_neg hk] at h
      rw [ih h]

/-- Writing a key twice is writing it the second time. -/
theorem insert_insert (d : Document) (key : String) (v w : Value) :
    insert (insert d key v) key w = insert d key w := by
  induction d with
  | nil => exact if_pos rfl
  | cons entry rest ih =>
    obtain ⟨k, u⟩ := entry
    rw [insert_cons, insert_cons]
    by_cases hk : k = key
    · rw [if_pos hk, if_pos hk, insert_cons, if_pos hk]
    · rw [if_neg hk, if_neg hk, insert_cons, if_neg hk, ih]

theorem keys_insert (d : Document) (key : String) (v : Value) :
    keys (insert d key v) = if key ∈ keys d then keys d else keys d ++ [key] := by
  by_cases h : key ∈ keys d
  · rw [if_pos h, keys_insert_of_mem h]
  · rw [if_neg h, insert_of_not_mem h, keys, List.map_append]
    rfl

theorem mem_keys_insert {d : Document} {key k : String} {v : Value} :
    k ∈ keys (insert d key v) ↔ k ∈ keys d ∨ k = key := by
  rw [keys_insert]
  split
  · rename_i h
    constructor
    · exact Or.inl
    · rintro (hk | rfl)
      · exact hk
      · exact h
  · simp

theorem nodup_keys_insert {d : Document} (hd : (keys d).Nodup) (key : String) (v : Value) :
    (keys (insert d key v)).Nodup := by
  rw [keys_insert]
  split
  · exact hd
  · rename_i h
    rw [List.nodup_append]
    refine ⟨hd, List.nodup_singleton key, ?_⟩
    intro a ha b hb hab
    rw [List.mem_singleton] at hb
    exact h (hb ▸ hab ▸ ha)

/-- An entry after an insertion is the inserted one or was there before. -/
theorem mem_of_mem_insert {d : Document} {key : String} {v : Value} {entry : String × Value}
    (h : entry ∈ insert d key v) : entry = (key, v) ∨ entry ∈ d := by
  induction d with
  | nil =>
    rw [insert_nil, List.mem_singleton] at h
    exact Or.inl h
  | cons first rest ih =>
    obtain ⟨k, w⟩ := first
    rw [insert_cons] at h
    by_cases hk : k = key
    · rw [if_pos hk] at h
      rcases List.mem_cons.mp h with he | hrest
      · exact Or.inl (he.trans (by rw [hk]))
      · exact Or.inr (List.mem_cons_of_mem _ hrest)
    · rw [if_neg hk] at h
      rcases List.mem_cons.mp h with he | hrest
      · exact Or.inr (he ▸ List.mem_cons_self)
      · rcases ih hrest with he | hin
        · exact Or.inl he
        · exact Or.inr (List.mem_cons_of_mem _ hin)

/-! ## Inserting many -/

@[simp] theorem insertAll_nil (d : Document) : insertAll d [] = d := rfl

@[simp] theorem insertAll_cons (d : Document) (entry : String × Value) (rest : Document) :
    insertAll d (entry :: rest) = insertAll (insert d entry.1 entry.2) rest := rfl

/-- The inserted entries come before those that were there. -/
theorem get?_insertAll {other : Document} (hother : (keys other).Nodup) (d : Document)
    (key : String) : get? (insertAll d other) key = (get? other key).or (get? d key) := by
  -- later entries win over the document, and no key is given twice
  induction other generalizing d with
  | nil => simp
  | cons entry rest ih =>
    obtain ⟨k, v⟩ := entry
    rw [keys_cons, List.nodup_cons] at hother
    rw [insertAll_cons, ih hother.2, get?_insert, get?_cons]
    by_cases hk : k = key
    · subst hk
      rw [if_pos rfl, if_pos rfl, get?_eq_none_iff.mpr hother.1]
      rfl
    · rw [if_neg hk, if_neg hk]

theorem mem_keys_insertAll {d other : Document} {key : String} :
    key ∈ keys (insertAll d other) ↔ key ∈ keys d ∨ key ∈ keys other := by
  induction other generalizing d with
  | nil => simp
  | cons entry rest ih =>
    rw [insertAll_cons, ih, mem_keys_insert, keys_cons, List.mem_cons, or_assoc]

theorem nodup_keys_insertAll {d : Document} (hd : (keys d).Nodup) (other : Document) :
    (keys (insertAll d other)).Nodup := by
  induction other generalizing d with
  | nil => exact hd
  | cons entry rest ih => exact ih (nodup_keys_insert hd entry.1 entry.2)

/-- Fields of another document, put in, leave every field with its value there or as it was. -/
theorem get?_insertAll_of_own {fields other : Document} (hdistinct : (keys fields).Nodup)
    (hown : ∀ entry ∈ fields, get? other entry.1 = some entry.2) (d : Document) (key : String) :
    get? (insertAll d fields) key = get? other key ∨
      get? (insertAll d fields) key = get? d key := by
  rw [get?_insertAll hdistinct]
  cases hfield : get? fields key with
  | none => exact Or.inr rfl
  | some v => exact Or.inl (hown _ (mem_of_get?_eq_some hfield)).symm

/-- Other keys leave the first entry alone. -/
theorem insertAll_cons_of_ne {k : String} {v : Value} {other : Document}
    (h : ∀ entry ∈ other, k ≠ entry.1) (d : Document) :
    insertAll ((k, v) :: d) other = (k, v) :: insertAll d other := by
  induction other generalizing d with
  | nil => rfl
  | cons entry rest ih =>
    rw [insertAll_cons, insert_cons, if_neg (h entry List.mem_cons_self), insertAll_cons,
      ih fun e he => h e (List.mem_cons_of_mem _ he)]

/-- New keys that each occur once go to the end, in their order. -/
theorem insertAll_of_disjoint {d other : Document} (hother : (keys other).Nodup)
    (h : ∀ key ∈ keys other, key ∉ keys d) : insertAll d other = d ++ other := by
  induction other generalizing d with
  | nil => simp
  | cons entry rest ih =>
    obtain ⟨k, v⟩ := entry
    rw [keys_cons, List.nodup_cons] at hother
    rw [insertAll_cons, insert_of_not_mem (h k List.mem_cons_self) v, ih hother.2]
    · simp
    · intro key hkey hmem
      rw [keys, List.map_append, List.mem_append] at hmem
      rcases hmem with hmem | hmem
      · exact h key (List.mem_cons_of_mem _ hkey) hmem
      · rw [List.map_singleton, List.mem_singleton] at hmem
        subst hmem
        exact hother.1 hkey

/-- An entry after insertions is an inserted one or was there before. -/
theorem mem_of_mem_insertAll {d other : Document} {entry : String × Value}
    (h : entry ∈ insertAll d other) : entry ∈ other ∨ entry ∈ d := by
  induction other generalizing d with
  | nil => exact Or.inr h
  | cons first rest ih =>
    rw [insertAll_cons] at h
    rcases ih h with hrest | hinsert
    · exact Or.inl (List.mem_cons_of_mem _ hrest)
    · rcases mem_of_mem_insert hinsert with rfl | hd
      · exact Or.inl List.mem_cons_self
      · exact Or.inr hd

/-! ## Erasing -/

theorem erase_cons (k : String) (v : Value) (d : Document) (key : String) :
    erase ((k, v) :: d) key = if k = key then erase d key else (k, v) :: erase d key := by
  by_cases h : k = key
  · simp [erase, h]
  · simp [erase, h]

/-- Erasing undoes writing a key. -/
theorem erase_insert_self (d : Document) (key : String) (v : Value) :
    erase (insert d key v) key = erase d key := by
  induction d with
  | nil => simp [erase]
  | cons entry rest ih =>
    obtain ⟨k, w⟩ := entry
    rw [insert_cons]
    by_cases hk : k = key
    · rw [if_pos hk, erase_cons, erase_cons, if_pos hk, if_pos hk]
    · rw [if_neg hk, erase_cons, erase_cons, if_neg hk, if_neg hk, ih]

theorem get?_erase_of_ne {key k : String} (h : k ≠ key) (d : Document) :
    get? (erase d key) k = get? d k := by
  induction d with
  | nil => rfl
  | cons entry rest ih =>
    obtain ⟨k', v⟩ := entry
    rw [erase_cons, get?_cons]
    by_cases hk : k' = key
    · have hne : k' ≠ k := fun he => h (he.symm.trans hk)
      rw [if_pos hk, if_neg hne, ih]
    · rw [if_neg hk, get?_cons, ih]

theorem mem_keys_erase {d : Document} {key k : String} :
    k ∈ keys (erase d key) ↔ k ≠ key ∧ k ∈ keys d := by
  constructor
  · intro h
    obtain ⟨v, hv⟩ := exists_of_mem_keys h
    obtain ⟨hmem, hne⟩ := List.mem_filter.mp hv
    exact ⟨by simpa using hne, mem_keys_of_mem hmem⟩
  · rintro ⟨hne, h⟩
    obtain ⟨v, hv⟩ := exists_of_mem_keys h
    have hin : (k, v) ∈ erase d key := List.mem_filter.mpr ⟨hv, by simpa using hne⟩
    exact mem_keys_of_mem hin

theorem not_mem_keys_erase (d : Document) (key : String) : key ∉ keys (erase d key) :=
  fun h => (mem_keys_erase.mp h).1 rfl

theorem erase_of_not_mem {d : Document} {key : String} (h : key ∉ keys d) : erase d key = d := by
  refine List.filter_eq_self.mpr fun entry hentry => ?_
  have hne : entry.1 ≠ key := fun he => h (he ▸ mem_keys_of_mem hentry)
  simpa using hne

theorem erase_erase (d : Document) (key : String) : erase (erase d key) key = erase d key :=
  erase_of_not_mem (not_mem_keys_erase d key)

end Document

end DocMapper
