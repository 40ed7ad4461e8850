import DocMapper.Proofs.Document
import DocMapper.Schema.Conformance

namespace DocMapper

/-! # Operators that run code, inside of values

The search for operators that run code goes through lists and documents. That is not all of a value:
code can come with a scope, which is a document, and the search does not go there. So what passes
the search is vetted, and it is harmless exactly when the scopes in it are.
-/

namespace Value

variable {key : String} {part v w : Value} {fields : Document} {items : List Value}

/-! ## Parts -/

/-- A value is a part of another one through lists and documents. -/
inductive StandsIn (part : Value) : Value → Prop
  | itself : StandsIn part part
  | entry {fields : Document} {e : String × Value} (hmem : e ∈ fields)
      (h : StandsIn part e.2) : StandsIn part (.document fields)
  | item {items : List Value} {v : Value} (hmem : v ∈ items) (h : StandsIn part v) :
      StandsIn part (.array items)

theorem standsIn_document :
    part.StandsIn (.document fields) ↔
      part = .document fields ∨ ∃ e ∈ fields, part.StandsIn e.2 := by
  constructor
  · intro h
    cases h with
    | itself => exact Or.inl rfl
    | entry hmem h => exact Or.inr ⟨_, hmem, h⟩
  · rintro (rfl | ⟨e, hmem, h⟩)
    · exact .itself
    · exact .entry hmem h

theorem standsIn_array :
    part.StandsIn (.array items) ↔ part = .array items ∨ ∃ v ∈ items, part.StandsIn v := by
  constructor
  · intro h
    cases h with
    | itself => exact Or.inl rfl
    | item hmem h => exact Or.inr ⟨_, hmem, h⟩
  · rintro (rfl | ⟨v, hmem, h⟩)
    · exact .itself
    · exact .item hmem h

/-- Reading identifiers brings in no parts but identifiers and lists of them. -/
theorem standsIn_of_readId (hid : ∀ id, part ≠ .objectId id) (harray : ∀ items, part ≠ .array items)
    (h : part.StandsIn v.readId) : part.StandsIn v := by
  -- reading goes into lists only; what it changes are texts, which become identifiers
  refine readId.induct (fun v => part.StandsIn v.readId → part.StandsIn v)
    (fun items => (∃ w ∈ readIds items, part.StandsIn w) → ∃ w ∈ items, part.StandsIn w)
    ?hex ?text ?array ?other ?nil ?cons v h
  case hex =>
    intro s id hparse h
    simp only [readId, hparse] at h
    cases h
    exact absurd rfl (hid id)
  case text =>
    intro s hparse h
    simpa only [readId, hparse] using h
  case array =>
    intro items ih h
    rw [readId] at h
    rcases standsIn_array.mp h with rfl | hitems
    · exact absurd rfl (harray _)
    · exact standsIn_array.mpr (Or.inr (ih hitems))
  case other =>
    intro v hstring harray h
    have hv : v.readId = v := by rw [readId] <;> assumption
    rwa [hv] at h
  case nil =>
    rintro ⟨w, hw, -⟩
    exact absurd hw List.not_mem_nil
  case cons =>
    rintro v rest ih ihrest ⟨w, hw, h⟩
    rw [readIds] at hw
    rcases List.mem_cons.mp hw with rfl | hw
    · exact ⟨v, List.mem_cons_self, ih h⟩
    · obtain ⟨u, hu, h⟩ := ihrest ⟨w, hw, h⟩
      exact ⟨u, List.mem_cons_of_mem _ hu, h⟩

/-! ## What the search finds -/

/-- No document of the value has an operator that runs code as a key. -/
def Vetted (v : Value) : Prop :=
  ∀ fields, (document fields).StandsIn v → ∀ key ∈ Document.keys fields, key ∉ dangerousOperators

theorem vetted_document : (Value.document fields).Vetted ↔
    ∀ entry ∈ fields, entry.1 ∉ dangerousOperators ∧ entry.2.Vetted := by
  constructor
  · intro h entry hentry
    exact ⟨h fields .itself _ (Document.mem_keys_of_mem hentry),
      fun inner hin => h inner (.entry hentry hin)⟩
  · intro h inner hin key hkey
    rcases standsIn_document.mp hin with heq | ⟨entry, hentry, hin⟩
    · cases heq
      obtain ⟨v, hv⟩ := Document.exists_of_mem_keys hkey
      exact (h _ hv).1
    · exact (h _ hentry).2 inner hin key hkey

theorem vetted_array : (Value.array items).Vetted ↔ ∀ v ∈ items, v.Vetted := by
  constructor
  · intro h v hv fields hin
    exact h fields (.item hv hin)
  · intro h fields hin
    rcases standsIn_array.mp hin with heq | ⟨v, hv, hin⟩
    · cases heq
    · exact h v hv fields hin

mutual

/-- The search for dangerous operators finds none exactly when the value is vetted. -/
theorem dangerousKey?_eq_none : ∀ v : Value, v.dangerousKey? = none ↔ v.Vetted
  | .document fields => by
    rw [dangerousKey?, dangerousKeyOfFields?_eq_none fields, vetted_document]
  | .array items => by
    rw [dangerousKey?, dangerousKeyOfItems?_eq_none items, vetted_array]
  | .null | .bool _ | .int32 _ | .int64 _ | .double _ | .string _ | .objectId _ | .dateTime _
  | .binary _ _ | .decimal _ | .regex _ _ | .timestamp _ _ | .symbol _ | .code _
  | .scopedCode _ _ | .pointer _ _ | .minKey | .maxKey | .undefined =>
    ⟨fun _ _ h => (by cases h), fun _ => rfl⟩

theorem dangerousKeyOfItems?_eq_none : ∀ items : List Value,
    dangerousKeyOfItems? items = none ↔ ∀ v ∈ items, v.Vetted
  | [] => ⟨fun _ _ h => absurd h List.not_mem_nil, fun _ => rfl⟩
  | v :: rest => by
    rw [dangerousKeyOfItems?, Option.or_eq_none_iff, dangerousKey?_eq_none v,
      dangerousKeyOfItems?_eq_none rest, List.forall_mem_cons]

theorem dangerousKeyOfFields?_eq_none : ∀ fields : List (String × Value),
    dangerousKeyOfFields? fields = none ↔
      ∀ entry ∈ fields, entry.1 ∉ dangerousOperators ∧ entry.2.Vetted
  | [] => ⟨fun _ _ h => absurd h List.not_mem_nil, fun _ => rfl⟩
  | (key, v) :: rest => by
    rw [dangerousKeyOfFields?, List.forall_mem_cons]
    split
    · rename_i hkey
      exact ⟨fun h => (by cases h), fun h => absurd hkey h.1.1⟩
    · rename_i hkey
      rw [Option.or_eq_none_iff, dangerousKey?_eq_none v, dangerousKeyOfFields?_eq_none rest]
      simp [hkey]

end

theorem rejectDangerous_eq_ok : v.rejectDangerous = .ok () ↔ v.Vetted := by
  rw [rejectDangerous, ← dangerousKey?_eq_none]
  cases v.dangerousKey? <;> simp

theorem Vetted.readId (h : v.Vetted) : v.readId.Vetted := fun fields hin =>
  h fields (standsIn_of_readId (fun _ => by simp) (fun _ => by simp) hin)

/-! ## What there is -/

/-- The key occurs in the value at any depth, in a document or in the scope of code. -/
inductive HasKey (key : String) : Value → Prop
  | here {fields : Document} {v : Value} (hin : (document fields).StandsIn v)
      (hkey : key ∈ Document.keys fields) : HasKey key v
  | inScope {s : String} {scope : Document} {v : Value} (hin : (scopedCode s scope).StandsIn v)
      (h : HasKey key (.document scope)) : HasKey key v

/-- No operator that runs code occurs in the value as a key. -/
def Harmless (v : Value) : Prop := ∀ key ∈ dangerousOperators, ¬ v.HasKey key

/-- The scopes of the code in the value are harmless. -/
def ScopesHarmless (v : Value) : Prop :=
  ∀ s scope, (scopedCode s scope).StandsIn v → (Value.document scope).Harmless

/-- A value is harmless exactly when the search finds nothing and there is nothing in its scopes. -/
theorem harmless_iff : v.Harmless ↔ v.Vetted ∧ v.ScopesHarmless := by
  constructor
  · intro h
    exact ⟨fun fields hin key hkey hdangerous => h key hdangerous (.here hin hkey),
      fun s scope hin key hdangerous hscope => h key hdangerous (.inScope hin hscope)⟩
  · rintro ⟨hvetted, hscopes⟩ key hdangerous hkey
    cases hkey with
    | here hin hkey => exact hvetted _ hin key hkey hdangerous
    | inScope hin hkey => exact hscopes _ _ hin key hdangerous hkey

end Value

/-- A document is vetted when the search for dangerous operators finds none in it. -/
theorem Document.rejectDangerous_eq_ok {d : Document} :
    d.rejectDangerous = .ok () ↔ (Value.document d).Vetted :=
  Value.rejectDangerous_eq_ok

end DocMapper
