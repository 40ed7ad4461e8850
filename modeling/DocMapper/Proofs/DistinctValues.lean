import Mathlib.Data.List.Induction
import DocMapper.Proofs.Groups
import DocMapper.Proofs.Selection

namespace DocMapper

/-! # Distinct values

The distinct values of a path are collected in one run over the matching documents, and what equals
a value collected before is left out. Equality is transitive, so what is left out equals the first
value of its kind, and what is collected stands at the places where no value before equals it. A NaN
equals nothing, and is collected wherever it stands.
-/

namespace Value

variable {values out : List Value} {places : List Nat} {v w : Value}

/-! ## First occurrences -/

/-- The values that stand at the places where no value before equals them, in order. -/
structure FirstOccurrences (values out : List Value) (places : List Nat) : Prop where
  increasing : places.Pairwise (· < ·)
  standing : places.map (values[·]?) = out.map some
  first : ∀ i v, values[i]? = some v →
    (i ∈ places ↔ ∀ j < i, ∀ w, values[j]? = some w → w.equals v = false)

namespace FirstOccurrences

theorem mem_iff (h : FirstOccurrences values out places) :
    v ∈ out ↔ ∃ i ∈ places, values[i]? = some v := by
  rw [← List.mem_map (f := (values[·]?)), h.standing]
  simp

theorem getElem?_of_mem (h : FirstOccurrences values out places) {i : Nat} (hi : i ∈ places) :
    ∃ v ∈ out, values[i]? = some v := by
  have hmem : values[i]? ∈ out.map some := h.standing ▸ List.mem_map_of_mem hi
  obtain ⟨v, hv, heq⟩ := List.mem_map.mp hmem
  exact ⟨v, hv, heq.symm⟩

/-- Every value is collected or equals one that is. -/
theorem covers (h : FirstOccurrences values out places) (hv : v ∈ values) :
    v ∈ out ∨ ∃ w ∈ out, w.equals v = true := by
  obtain ⟨i, hi⟩ := List.getElem?_of_mem hv
  -- a value that is left out equals one before it, which is collected or equals one that is
  induction i using Nat.strongRecOn generalizing v with
  | ind i ih =>
    by_cases hplace : i ∈ places
    · exact Or.inl (h.mem_iff.mpr ⟨i, hplace, hi⟩)
    · have hearlier := mt (h.first i v hi).mpr hplace
      push Not at hearlier
      obtain ⟨j, hj, w, hw, hequals⟩ := hearlier
      have hequals := eq_true_of_ne_false hequals
      right
      rcases ih j hj (List.mem_of_getElem? hw) hw with hout | ⟨u, hu, huw⟩
      · exact ⟨w, hout, hequals⟩
      · exact ⟨u, hu, equals_trans huw hequals⟩

/-- Of two collected values the later does not equal the earlier. -/
theorem pairwise (h : FirstOccurrences values out places) :
    out.Pairwise fun a b => a.equals b = false := by
  have hplaces : places.Pairwise fun i j =>
      ∀ a ∈ values[i]?, ∀ b ∈ values[j]?, a.equals b = false := by
    refine h.increasing.imp_of_mem fun {i j} _ hj hlt a ha b hb => ?_
    exact (h.first j b hb).mp hj i hlt a ha
  have hsome : (places.map (values[·]?)).Pairwise fun x y =>
      ∀ a ∈ x, ∀ b ∈ y, a.equals b = false := List.pairwise_map.mpr hplaces
  rw [h.standing, List.pairwise_map] at hsome
  exact hsome.imp fun h => h _ rfl _ rfl

/-- A value equals a collected one if some value does. -/
theorem any_equals_iff (h : FirstOccurrences values out places) :
    out.any (·.equals v) = true ↔ ∃ w ∈ values, w.equals v = true := by
  rw [List.any_eq_true]
  constructor
  · rintro ⟨w, hw, hequals⟩
    obtain ⟨i, -, hi⟩ := h.mem_iff.mp hw
    exact ⟨w, List.mem_of_getElem? hi, hequals⟩
  · rintro ⟨w, hw, hequals⟩
    rcases h.covers hw with hout | ⟨u, hu, huw⟩
    · exact ⟨w, hout, hequals⟩
    · exact ⟨u, hu, equals_trans huw hequals⟩

theorem lt_length (h : FirstOccurrences values out places) {i : Nat} (hi : i ∈ places) :
    i < values.length := by
  obtain ⟨w, -, hw⟩ := h.getElem?_of_mem hi
  exact (List.getElem?_eq_some_iff.mp hw).1

theorem standing_append (h : FirstOccurrences values out places) (v : Value) :
    places.map ((values ++ [v])[·]?) = out.map some := by
  rw [← h.standing]
  exact List.map_congr_left fun i hi => List.getElem?_append_left (h.lt_length hi)

/-- A value at the end changes nothing for the places before it. -/
theorem first_append (h : FirstOccurrences values out places) (v : Value) {i : Nat}
    (hi : i < values.length) (hw : (values ++ [v])[i]? = some w) :
    i ∈ places ↔ ∀ j < i, ∀ u, (values ++ [v])[j]? = some u → u.equals w = false := by
  rw [List.getElem?_append_left hi] at hw
  rw [h.first i w hw]
  refine forall_congr' fun j => imp_congr_right fun hj => ?_
  rw [List.getElem?_append_left (Nat.lt_trans hj hi)]

/-- What stands in a list with a value at its end stands before the end, or is that value. -/
theorem lt_or_eq_of_getElem?_append {i : Nat} (hw : (values ++ [v])[i]? = some w) :
    i < values.length ∨ i = values.length ∧ w = v := by
  have hlength := (List.getElem?_eq_some_iff.mp hw).1
  rw [List.length_append, List.length_singleton] at hlength
  rcases Nat.lt_succ_iff_lt_or_eq.mp hlength with hi | rfl
  · exact Or.inl hi
  · rw [List.getElem?_concat_length] at hw
    exact Or.inr ⟨rfl, (Option.some.inj hw).symm⟩

/-- One more value is collected if it equals none of those collected. -/
theorem append (h : FirstOccurrences values out places) (v : Value) :
    FirstOccurrences (values ++ [v]) (if out.any (·.equals v) then out else out ++ [v])
      (if out.any (·.equals v) then places else places ++ [values.length]) := by
  by_cases hany : out.any (·.equals v) = true
  · rw [if_pos hany, if_pos hany]
    refine ⟨h.increasing, h.standing_append v, fun i w hw => ?_⟩
    rcases lt_or_eq_of_getElem?_append hw with hi | ⟨rfl, rfl⟩
    · exact h.first_append v hi hw
    · -- the new place is left out, and a value before equals the one there
      obtain ⟨u, hu, hequals⟩ := h.any_equals_iff.mp hany
      obtain ⟨j, hj⟩ := List.getElem?_of_mem hu
      have hlt := (List.getElem?_eq_some_iff.mp hj).1
      refine iff_of_false (fun hmem => Nat.lt_irrefl _ (h.lt_length hmem)) fun hnone => ?_
      have hapart := hnone j hlt u ((List.getElem?_append_left hlt).trans hj)
      rw [hequals] at hapart
      cases hapart
  · rw [if_neg hany, if_neg hany]
    refine ⟨?_, ?_, fun i w hw => ?_⟩
    · rw [List.pairwise_append]
      refine ⟨h.increasing, List.pairwise_singleton _ _, fun i hi j hj => ?_⟩
      exact List.mem_singleton.mp hj ▸ h.lt_length hi
    · rw [List.map_append, h.standing_append, List.map_append, List.map_singleton,
        List.getElem?_concat_length]
      rfl
    · rw [List.mem_append, List.mem_singleton]
      rcases lt_or_eq_of_getElem?_append hw with hi | ⟨rfl, rfl⟩
      · rw [or_iff_left (Nat.ne_of_lt hi)]
        exact h.first_append v hi hw
      · refine iff_of_true (Or.inr rfl) fun j hj u hu => ?_
        rw [List.getElem?_append_left hj] at hu
        refine eq_false_of_ne_true fun hequals => hany ?_
        exact h.any_equals_iff.mpr ⟨u, List.mem_of_getElem? hu, hequals⟩

end FirstOccurrences

/-- The distinct values are those that stand where no value before equals them. -/
theorem exists_firstOccurrences (values : List Value) :
    ∃ places, FirstOccurrences values (Document.distinctValues values) places := by
  induction values using List.reverseRecOn with
  | nil => exact ⟨[], List.Pairwise.nil, rfl, nofun⟩
  | append_singleton values v ih =>
    obtain ⟨places, h⟩ := ih
    have hstep : Document.distinctValues (values ++ [v]) =
        if (Document.distinctValues values).any (·.equals v) then Document.distinctValues values
        else Document.distinctValues values ++ [v] := by
      rw [Document.distinctValues, List.foldl_append]
      rfl
    rw [hstep]
    exact ⟨_, h.append v⟩

end Value

namespace Document

variable {path : String} {d : Document} {v : Value}

/-! ## The values of documents -/

/-- A document has a value at a path: the value there, or an item of the list there. -/
inductive HasValue (path : String) (d : Document) : Value → Prop
  | alone {v : Value} (hget : getPath? d path = some v) (hlist : ∀ items, v ≠ .array items) :
      HasValue path d v
  | item {items : List Value} {v : Value} (hget : getPath? d path = some (.array items))
      (hitem : v ∈ items) : HasValue path d v

theorem mem_valuesAt : v ∈ valuesAt path d ↔ HasValue path d v := by
  rw [valuesAt]
  constructor
  · intro h
    split at h
    · rename_i items hget
      exact .item hget h
    · rename_i value hlist hget
      rw [List.mem_singleton.mp h]
      exact .alone hget hlist
    · exact absurd h List.not_mem_nil
  · rintro (⟨hget, hlist⟩ | ⟨hget, hitem⟩)
    · rw [hget]
      cases v with
      | array items => exact absurd rfl (hlist items)
      | _ => exact List.mem_singleton_self _
    · rw [hget]
      exact hitem

/-- The values of a document without repeated keys have none either. -/
theorem HasValue.distinctKeys (h : HasValue path d v) (hd : (Value.document d).DistinctKeys) :
    v.DistinctKeys := by
  have hfound : ∀ w, getPath? d path = some w → w.DistinctKeys := by
    intro w hw
    have hfollow : (Value.document d).follow (Path.ofString path).segments = some w := hw
    exact Value.distinctKeys_follow hd hfollow
  cases h with
  | alone hget _ => exact hfound v hget
  | item hget hitem => exact Value.distinctKeys_of_mem_items (hfound _ hget) hitem

end Document

namespace Store

variable {s : Store} {path : String} {filter : Document}

/-- The values that a distinct reading answers. They are those that the matching documents have at
the path, in the order of storage and inside a list in its order, without those that equal one
before. -/
structure ListsOnce (s : Store) (path : String) (filter : Document) (values : List Value) :
    Prop where
  apart : values.Pairwise fun a b => a.equals b = false ∧ b.equals a = false
  sound : ∀ v ∈ values, ∃ d ∈ s.documents, Document.satisfies d filter = .ok true ∧
    Document.HasValue path d v
  complete : ∀ d ∈ s.documents, Document.satisfies d filter = .ok true →
    ∀ v, Document.HasValue path d v → v ∈ values ∨ ∃ w ∈ values, w.equals v = true
  inOrder : ∃ selected places, Document.select filter s.documents = .ok selected ∧
    Value.FirstOccurrences (selected.flatMap (Document.valuesAt path)) values places

theorem distinct_eq_ok {values : List Value} : s.distinct path filter = .ok values ↔
    ∃ selected, Document.select filter s.documents = .ok selected ∧
      Document.distinctValues (selected.flatMap (Document.valuesAt path)) = values := by
  rw [distinct, bind_eq_ok]
  simp only [pure_eq_ok]

/-- A reading of distinct values succeeds when the filter has an answer for every document, and then
lists every value of the matching documents once, in the order of first occurrence. -/
theorem distinct_lists_once (hkeys : ∀ d ∈ s.documents, (Value.document d).DistinctKeys) :
    ((∃ values, s.distinct path filter = .ok values) ↔
        ∀ d ∈ s.documents, ∃ b, Document.satisfies d filter = .ok b) ∧
      ∀ values, s.distinct path filter = .ok values → s.ListsOnce path filter values := by
  refine ⟨⟨?_, fun hanswers => ?_⟩, fun values h => ?_⟩
  · rintro ⟨values, h⟩ d hd
    obtain ⟨selected, hselect, -⟩ := distinct_eq_ok.mp h
    exact Document.exists_satisfies_of_select hselect hd
  · obtain ⟨selected, hselect⟩ := Document.exists_select hanswers
    exact ⟨_, distinct_eq_ok.mpr ⟨selected, hselect, rfl⟩⟩
  · obtain ⟨selected, hselect, rfl⟩ := distinct_eq_ok.mp h
    -- the values are those that occur first at the path, over all selected documents
    obtain ⟨places, hfirst⟩ :=
      Value.exists_firstOccurrences (selected.flatMap (Document.valuesAt path))
    have hsound : ∀ v ∈ Document.distinctValues (selected.flatMap (Document.valuesAt path)),
        ∃ d ∈ s.documents, Document.satisfies d filter = .ok true ∧
          Document.HasValue path d v := by
      intro v hv
      obtain ⟨i, -, hi⟩ := hfirst.mem_iff.mp hv
      obtain ⟨d, hd, hvalue⟩ := List.mem_flatMap.mp (List.mem_of_getElem? hi)
      obtain ⟨hstored, hmatches⟩ := (Document.mem_select hselect).mp hd
      exact ⟨d, hstored, hmatches, Document.mem_valuesAt.mp hvalue⟩
    refine ⟨?_, hsound, ?_, selected, places, hselect, hfirst⟩
    · refine hfirst.pairwise.imp_of_mem fun {a b} _ hb hab => ⟨hab, ?_⟩
      -- equality of values with distinct keys is symmetric, so it fails both ways
      obtain ⟨d, hd, -, hvalue⟩ := hsound b hb
      refine eq_false_of_ne_true fun hba => ne_true_of_eq_false hab ?_
      exact Value.equals_symm (hvalue.distinctKeys (hkeys d hd)) hba
    · intro d hd hmatches v hv
      refine hfirst.covers (List.mem_flatMap.mpr ⟨d, ?_, Document.mem_valuesAt.mpr hv⟩)
      exact (Document.mem_select hselect).mpr ⟨hd, hmatches⟩

/-- The theorem for lists and single values, where an integer comes in two widths, a text twice and
a NaN twice. -/
theorem distinct_lists_mixed_once :
    let s : Store :=
      { documents := [[("_id", .int32 0), ("n", .array [.int32 1, .string "a", .double .nan])],
          [("_id", .int32 1), ("n", .int64 1)], [("_id", .int32 2)],
          [("_id", .int32 3), ("n", .array [.double .nan, .string "b", .string "a"])]]
        ids := ⟨fun _ => ⟨0⟩, 0⟩ }
    let values := [Value.int32 1, .string "a", .double .nan, .double .nan, .string "b"]
    (∀ d ∈ s.documents, (Value.document d).DistinctKeys) ∧ s.distinct "n" [] = .ok values ∧
      s.ListsOnce "n" [] values := by
  intro s values
  have hkeys : ∀ d ∈ s.documents, (Value.document d).DistinctKeys := by
    simp [s, Value.DistinctKeys, Value.DistinctKeysOfFields, Value.DistinctKeysOfItems]
  have hvalues : s.documents.flatMap (Document.valuesAt "n") =
      [.int32 1, .string "a", .double .nan, .int64 1, .double .nan, .string "b", .string "a"] := rfl
  have hdistinct : s.distinct "n" [] = .ok values := by
    refine distinct_eq_ok.mpr ⟨s.documents, rfl, ?_⟩
    have hone : [Value.string "a", .double .nan, .int64 1, .string "b"].map
        (Value.int32 1).equals = [false, false, true, false] := by decide +kernel
    have htext : [Value.double .nan, .int64 1, .string "b", .string "a"].map
        (Value.string "a").equals = [false, false, false, true] := by decide +kernel
    have hnan : [Value.double .nan, .int64 1, .string "b"].map (Value.double .nan).equals =
        [false, false, false] := by decide +kernel
    simp only [List.map_cons, List.map_nil, List.cons.injEq, and_true] at hone htext hnan
    rw [hvalues]
    simp [Document.distinctValues, values, hone, htext, hnan]
  exact ⟨hkeys, hdistinct, (distinct_lists_once hkeys).2 values hdistinct⟩

end Store

end DocMapper
