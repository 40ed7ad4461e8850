import DocMapper.Proofs.Conditions
import DocMapper.Proofs.Subjects

namespace DocMapper

/-! # Gathering conditions by path

Each keyword argument of a filter puts conditions of its own on one path, whatever stands in the
draft already. A draft therefore has, at each path, the conditions of the keys on that path
written over each other.
-/

namespace FilterDraft

variable {draft : FilterDraft} {path : String}

/-- The paths in order. -/
def paths (draft : FilterDraft) : List String := draft.map (·.1)

@[simp] theorem paths_nil : paths [] = [] := rfl

@[simp] theorem paths_cons (p : String) (c : Conditions) (rest : FilterDraft) :
    paths ((p, c) :: rest) = p :: paths rest := rfl

theorem mem_paths {c : Conditions} (h : (path, c) ∈ draft) : path ∈ draft.paths :=
  List.mem_map_of_mem h

theorem lookup_modify (draft : FilterDraft) (path : String) (change : Conditions → Conditions)
    (other : String) :
    (modify draft path change).lookup other =
      if path = other then some (change ((draft.lookup path).getD {}))
      else draft.lookup other := by
  induction draft with
  | nil =>
    rw [modify, List.lookup_cons]
    by_cases h : path = other
    · simp [h]
    · have hne : (other == path) = false := beq_eq_false_iff_ne.mpr fun he => h he.symm
      simp [h, hne]
  | cons entry rest ih =>
    obtain ⟨p, c⟩ := entry
    rw [modify]
    -- the entry is at the path, and is changed, or the change is further down
    by_cases hp : p = path
    · subst hp
      by_cases h : p = other
      · simp [h]
      · have hne : (other == p) = false := beq_eq_false_iff_ne.mpr fun he => h he.symm
        simp [List.lookup_cons, h, hne]
    · have hne : (path == p) = false := beq_eq_false_iff_ne.mpr fun he => hp he.symm
      rw [if_neg hp, List.lookup_cons, List.lookup_cons, List.lookup_cons, hne, ih]
      by_cases h : other = p
      · subst h
        have hpath : path ≠ other := fun he => hp he.symm
        simp [hpath]
      · have hne' : (other == p) = false := beq_eq_false_iff_ne.mpr h
        simp [hne']

/-- Two changes on one path are one change. -/
theorem modify_modify (draft : FilterDraft) (path : String) (f g : Conditions → Conditions) :
    modify (modify draft path f) path g = modify draft path fun c => g (f c) := by
  induction draft with
  | nil => simp [modify]
  | cons entry rest ih =>
    obtain ⟨p, c⟩ := entry
    by_cases hp : p = path
    · simp [modify, hp]
    · simp [modify, hp, ih]

theorem paths_modify (draft : FilterDraft) (path : String) (change : Conditions → Conditions) :
    paths (modify draft path change) =
      if path ∈ paths draft then paths draft else paths draft ++ [path] := by
  induction draft with
  | nil => simp [modify]
  | cons entry rest ih =>
    obtain ⟨p, c⟩ := entry
    by_cases hp : p = path
    · simp [modify, hp]
    · have hne : path ≠ p := fun he => hp he.symm
      rw [modify, if_neg hp, paths_cons, paths_cons, ih]
      by_cases hmem : path ∈ paths rest
      · rw [if_pos hmem, if_pos (List.mem_cons_of_mem _ hmem)]
      · have hnone : path ∉ p :: paths rest := by simp [hne, hmem]
        rw [if_neg hmem, if_neg hnone, List.cons_append]

/-- Where each path occurs once, looking a path up finds its conditions. -/
theorem mem_iff_lookup (h : draft.paths.Nodup) {c : Conditions} :
    (path, c) ∈ draft ↔ draft.lookup path = some c := by
  induction draft with
  | nil => simp
  | cons entry rest ih =>
    obtain ⟨p, c'⟩ := entry
    rw [paths_cons, List.nodup_cons] at h
    rw [List.mem_cons, List.lookup_cons]
    by_cases hp : path = p
    · subst hp
      have hrest : (path, c) ∉ rest := fun hmem => h.1 (mem_paths hmem)
      simp [hrest, eq_comm]
    · have hne : (path == p) = false := beq_eq_false_iff_ne.mpr hp
      rw [hne]
      simp [hp, ih h.2]

/-- Each path occurs once, and none is an operator. -/
structure Proper (draft : FilterDraft) : Prop where
  distinct : draft.paths.Nodup
  plain : ∀ path ∈ draft.paths, isOperatorKey path = false

theorem proper_nil : Proper [] := ⟨List.nodup_nil, fun _ h => absurd h List.not_mem_nil⟩

theorem Proper.modify (h : draft.Proper) (hpath : isOperatorKey path = false)
    (change : Conditions → Conditions) : (draft.modify path change).Proper := by
  by_cases hmem : path ∈ draft.paths
  · have hsame : paths (FilterDraft.modify draft path change) = draft.paths := by
      rw [paths_modify, if_pos hmem]
    exact ⟨hsame ▸ h.distinct, hsame ▸ h.plain⟩
  · have hnew : paths (FilterDraft.modify draft path change) = draft.paths ++ [path] := by
      rw [paths_modify, if_neg hmem]
    refine ⟨?_, ?_⟩
    · rw [hnew, List.nodup_append]
      refine ⟨h.distinct, List.nodup_singleton path, ?_⟩
      intro p hp q hq heq
      rw [List.mem_singleton.mp hq] at heq
      exact hmem (heq ▸ hp)
    · intro p hp
      rw [hnew, List.mem_append, List.mem_singleton] at hp
      rcases hp with hp | rfl
      · exact h.plain p hp
      · exact hpath

/-- A document satisfies the filter of a draft when its values meet the conditions at all
paths. -/
theorem satisfies_toDocument (h : draft.Proper) (d : Document) :
    Document.satisfies d draft.toDocument = .ok true ↔
      ∀ path c, draft.lookup path = some c →
        Value.meets (Document.getPath? d path) c.toValue = .ok true := by
  rw [Document.satisfies_eq_true, toDocument, List.forall_mem_map]
  constructor
  · intro hall path c hlookup
    have hmem := (mem_iff_lookup h.distinct).mpr hlookup
    have hplain := h.plain path (mem_paths hmem)
    have hholds := hall (path, c) hmem
    rwa [Document.holds_of_path hplain] at hholds
  · rintro hall ⟨path, c⟩ hmem
    have hplain := h.plain path (mem_paths hmem)
    rw [Document.holds_of_path hplain]
    exact hall path c ((mem_iff_lookup h.distinct).mp hmem)

end FilterDraft

/-! ## One key -/

namespace Conditions

theorem single_equal (v : Value) : Single { equal? := some v } where
  toProper := ⟨List.nodup_nil, fun _ h => absurd h List.not_mem_nil,
    fun h => absurd h List.not_mem_nil⟩
  one := by simp

/-- An operator by itself, which is not the one that only stands beside another. -/
theorem single_operator (key : String) (w : Value) (hkey : isOperatorKey key = true)
    (heq : key ≠ "$eq") (hoptions : key ≠ "$options") : Single { operators := [(key, w)] } where
  distinct := List.nodup_singleton key
  plain := by
    intro k hk
    rw [List.mem_singleton.mp hk]
    exact ⟨hkey, heq⟩
  options := fun h => absurd (List.mem_singleton.mp h).symm hoptions
  one := by simp

theorem single_range (low high : Value) :
    Single { operators := [("$gte", low), ("$lte", high)] } where
  distinct := by simp [Document.keys]
  plain := by
    intro key hkey
    have heither : key = "$gte" ∨ key = "$lte" := List.mem_pair.mp hkey
    rcases heither with rfl | rfl
    · exact ⟨rfl, by decide⟩
    · exact ⟨rfl, by decide⟩
  options := by simp [Document.keys]
  one := by simp

theorem single_pattern (pattern options : Value) :
    Single { operators := [("$regex", pattern), ("$options", options)] } where
  distinct := by simp [Document.keys]
  plain := by
    intro key hkey
    have heither : key = "$regex" ∨ key = "$options" := List.mem_pair.mp hkey
    rcases heither with rfl | rfl
    · exact ⟨rfl, by decide⟩
    · exact ⟨rfl, by decide⟩
  options := fun _ => List.mem_cons_self
  one := by simp

end Conditions

namespace Subject

variable {s : Subject} {draft draft' : FilterDraft} {v w : Value} {key : String}

/-- What a key can put beside an operator for the value it is given: the checked value or a checked
item of it, a list of these, a flag, or a pattern and its letters. -/
inductive Operand (s : Subject) (given : Value) : String → Value → Prop
  | compared {key : String} {w : Value} (hkey : key ∈ ["$ne", "$gt", "$gte", "$lt", "$lte"])
      (hw : s.comparand given = .ok w) : Operand s given key w
  | bound {key : String} {items : List Value} {v w : Value} (hgiven : given = .array items)
      (hv : v ∈ items) (hkey : key ∈ ["$gte", "$lte"]) (hw : s.comparand v = .ok w) :
      Operand s given key w
  | members {key : String} {items ws : List Value} (hgiven : given = .array items)
      (hkey : key ∈ ["$in", "$nin"]) (hws : items.mapM s.comparand = .ok ws) :
      Operand s given key (.array ws)
  | present (b : Bool) : Operand s given "$exists" (.bool b)
  | pattern (text : String) : Operand s given "$regex" (.string text)
  | letters : Operand s given "$options" (.string "i")

/-- The conditions ask for what keys on the subject can ask for with the value they are given:
equality with the checked value, and operators with their operands. -/
structure Asks (s : Subject) (given : Value) (c : Conditions) : Prop where
  equal : ∀ w, c.equal? = some w → s.comparand given = .ok w
  operand : ∀ entry ∈ c.operators, s.Operand given entry.1 entry.2

theorem asks_equal (hw : s.comparand v = .ok w) : s.Asks v { equal? := some w } where
  equal := fun w' hw' => by rw [hw, Option.some.inj hw']
  operand := fun _ h => absurd h List.not_mem_nil

theorem asks_operators {operators : Document}
    (h : ∀ entry ∈ operators, s.Operand v entry.1 entry.2) : s.Asks v { operators } where
  equal := fun _ hnone => by cases hnone
  operand := h

theorem asks_operator (hw : s.Operand v key w) : s.Asks v { operators := [(key, w)] } :=
  asks_operators fun entry hentry => by rwa [List.mem_singleton.mp hentry]

/-- A checked operand goes with its operator into every draft. -/
theorem addOperator_eq_ok {α : Type} {operand : Except Error α} {path : String} (key : String)
    (f : α → Value) (hkey : isOperatorKey key = true) (heq : key ≠ "$eq")
    (hoptions : key ≠ "$options") (hoperand : ∀ a, operand = .ok a → s.Operand v key (f a))
    (h : (operand >>= fun a => pure (draft.addOperator path key (f a))) = .ok draft') :
    ∃ own : Conditions, own.Single ∧ s.Asks v own ∧ ∀ D : FilterDraft,
      (operand >>= fun a => pure (D.addOperator path key (f a))) =
        .ok (D.modify path (·.join own)) := by
  obtain ⟨a, ha, -⟩ := bind_eq_ok.mp h
  refine ⟨_, Conditions.single_operator key (f a) hkey heq hoptions,
    asks_operator (hoperand a ha), fun D => ?_⟩
  rw [ha]
  rfl

/-- An operator and its operand put the same conditions on the path of the subject in every
draft. -/
theorem constrain_eq_ok {operator : FilterOperator}
    (h : s.constrain operator v draft = .ok draft') :
    ∃ own : Conditions, own.Single ∧ s.Asks v own ∧
      ∀ D, s.constrain operator v D = .ok (D.modify s.path (·.join own)) := by
  have hcompared : ∀ key, key ∈ ["$ne", "$gt", "$gte", "$lt", "$lte"] →
      ∀ w, s.comparand v = .ok w → s.Operand v key w :=
    fun _ hkey _ hw => .compared hkey hw
  cases operator with
  | eq =>
    obtain ⟨w, hw, -⟩ := bind_eq_ok.mp h
    refine ⟨_, Conditions.single_equal w, asks_equal hw, fun D => ?_⟩
    change (do return D.setEqual s.path (← s.comparand v)) = _
    rw [hw]
    rfl
  | ne =>
    exact addOperator_eq_ok "$ne" (fun w => w) rfl (by decide) (by decide)
      (hcompared _ (by decide)) h
  | gt =>
    exact addOperator_eq_ok "$gt" (fun w => w) rfl (by decide) (by decide)
      (hcompared _ (by decide)) h
  | gte =>
    exact addOperator_eq_ok "$gte" (fun w => w) rfl (by decide) (by decide)
      (hcompared _ (by decide)) h
  | lt =>
    exact addOperator_eq_ok "$lt" (fun w => w) rfl (by decide) (by decide)
      (hcompared _ (by decide)) h
  | lte =>
    exact addOperator_eq_ok "$lte" (fun w => w) rfl (by decide) (by decide)
      (hcompared _ (by decide)) h
  | inList =>
    cases v with
    | array items =>
      exact addOperator_eq_ok "$in" .array rfl (by decide) (by decide)
        (fun _ hws => .members rfl (by decide) hws) h
    | _ => cases h
  | notIn =>
    cases v with
    | array items =>
      exact addOperator_eq_ok "$nin" .array rfl (by decide) (by decide)
        (fun _ hws => .members rfl (by decide) hws) h
    | _ => cases h
  | range =>
    simp only [constrain] at h
    split at h
    · rename_i low high
      obtain ⟨low', hlow, h⟩ := bind_eq_ok.mp h
      obtain ⟨high', hhigh, -⟩ := bind_eq_ok.mp h
      have hgte : s.Operand (.array [low, high]) "$gte" low' :=
        .bound rfl List.mem_cons_self (by decide) hlow
      have hlte : s.Operand (.array [low, high]) "$lte" high' :=
        .bound rfl (List.mem_cons_of_mem _ List.mem_cons_self) (by decide) hhigh
      have hasks : s.Asks (.array [low, high])
          { operators := [("$gte", low'), ("$lte", high')] } := by
        refine asks_operators fun entry hentry => ?_
        rcases List.mem_pair.mp hentry with rfl | rfl
        · exact hgte
        · exact hlte
      refine ⟨_, Conditions.single_range low' high', hasks, fun D => ?_⟩
      -- both bounds go to one path, so adding them is one change
      simp only [constrain, hlow, hhigh, ok_bind, FilterDraft.addOperator,
        FilterDraft.modify_modify]
      rfl
    · cases h
    · cases h
  | present =>
    cases v with
    | bool b =>
      exact ⟨_, Conditions.single_operator "$exists" (.bool b) rfl (by decide) (by decide),
        asks_operator (.present b), fun D => rfl⟩
    | _ => cases h
  | iregex =>
    cases v with
    | string text =>
      have hasks : s.Asks (.string text)
          { operators := [("$regex", .string text), ("$options", .string "i")] } := by
        refine asks_operators fun entry hentry => ?_
        rcases List.mem_pair.mp hentry with rfl | rfl
        · exact .pattern text
        · exact .letters
      refine ⟨_, Conditions.single_pattern (.string text) (.string "i"), hasks, fun D => ?_⟩
      simp only [constrain, if_true, FilterDraft.addOperator, FilterDraft.modify_modify]
      rfl
    | _ => cases h
  | regex | startsWith | endsWith =>
    cases v with
    | string text =>
      exact ⟨_, Conditions.single_operator "$regex" _ rfl (by decide) (by decide),
        asks_operator (.pattern _), fun D => rfl⟩
    | _ => cases h

end Subject

end DocMapper
