import DocMapper.Proofs.SortKeys
import DocMapper.Proofs.Sums

namespace DocMapper

/-! # Largest and smallest values

A largest value is found in one run over the values, and is replaced by whatever is strictly after
it. The order in which this is meant is not transitive: a NaN ties with all numbers. But what is
strictly after something stays so when that is replaced, and therefore a value that was turned down
once is not after the last one either.
-/

namespace Accumulator

variable {side : Ordering} {values seen : List Value} {v : Value} {best : Option Value}

/-- A value replaces the best so far if it lies on the side of it. -/
def better (side : Ordering) (best : Option Value) (v : Value) : Option Value :=
  match best with
  | none => some v
  | some b => if Value.order (some v) (some b) = side then some v else some b

theorem extreme_eq (side : Ordering) (values : List Value) :
    extreme side values = (values.foldl (better side) none).getD .null := rfl

/-- The best of the values seen so far is one of them, and none of them lies on the side of it. -/
def IsBest (side : Ordering) (seen : List Value) : Option Value → Prop
  | none => seen = []
  | some b => b ∈ seen ∧ ∀ v ∈ seen, Value.order (some v) (some b) ≠ side

theorem order_trans_of_ne {a b c : Option Value} (hside : side ≠ .eq)
    (hab : Value.order a b = side) (hbc : Value.order b c = side) : Value.order a c = side := by
  cases side with
  | lt => exact Value.order_lt_trans hab hbc
  | eq => exact absurd rfl hside
  | gt => exact Value.order_gt_trans hab hbc

/-- One more value keeps the best of the values the best. -/
theorem IsBest.better (hside : side ≠ .eq) (h : IsBest side seen best) (v : Value) :
    IsBest side (seen ++ [v]) (better side best v) := by
  have hself : Value.order (some v) (some v) ≠ side := by
    rw [Value.order_self]
    exact hside.symm
  cases best with
  | none =>
    rw [show seen = [] from h]
    refine ⟨List.mem_singleton_self v, fun w hw => ?_⟩
    rwa [List.mem_singleton.mp hw]
  | some b =>
    obtain ⟨hb, hbest⟩ := h
    rw [Accumulator.better]
    split
    · rename_i hreplaced
      refine ⟨List.mem_append_right _ (List.mem_singleton_self v), fun w hw hbeaten => ?_⟩
      rcases List.mem_append.mp hw with hw | hw
      · -- what beats the new one would have beaten the old one, which the new one beats
        exact hbest w hw (order_trans_of_ne hside hbeaten hreplaced)
      · rw [List.mem_singleton.mp hw] at hbeaten
        exact hself hbeaten
    · rename_i hkept
      refine ⟨List.mem_append_left _ hb, fun w hw => ?_⟩
      rcases List.mem_append.mp hw with hw | hw
      · exact hbest w hw
      · rwa [List.mem_singleton.mp hw]

/-- A run over values ends with the best of them. -/
theorem IsBest.foldl (hside : side ≠ .eq) (h : IsBest side seen best) (values : List Value) :
    IsBest side (seen ++ values) (values.foldl (Accumulator.better side) best) := by
  induction values generalizing seen best with
  | nil => rwa [List.append_nil]
  | cons v rest ih =>
    rw [List.foldl_cons, List.append_cons]
    exact ih (h.better hside v)

end Accumulator

namespace Document

variable {field : String} {docs : List Document} {v w : Value}

/-- The value is that of a document, and no other document has a value on the side of it. Nulls do
not count, so that it is null where nothing else is held. -/
structure Unbeaten (side : Ordering) (field : String) (docs : List Document) (v : Value) :
    Prop where
  null_iff : v = .null ↔ ∀ d ∈ docs, ∀ w, getPath? d field = some w → w = .null
  held : v ≠ .null → ∃ d ∈ docs, getPath? d field = some v
  unbeaten : ∀ d ∈ docs, ∀ w, getPath? d field = some w → w ≠ .null →
    Value.order (some w) (some v) ≠ side

theorem mem_valuesOf : w ∈ Accumulator.valuesOf (.ofField field) docs ↔
    w ≠ .null ∧ ∃ d ∈ docs, getPath? d field = some w := by
  have hnull : ∀ v : Value, (!v.isNull) = true ↔ v ≠ .null := fun v => by
    cases v <;> simp [Value.isNull]
  simp only [Accumulator.valuesOf, List.mem_filterMap, evalIn_ofField, Option.filter_eq_some_iff,
    hnull]
  constructor
  · rintro ⟨d, hd, hget, hne⟩
    exact ⟨hne, d, hd, hget⟩
  · rintro ⟨hne, d, hd, hget⟩
    exact ⟨d, hd, hget, hne⟩

/-- The last of the best values is unbeaten. -/
theorem unbeaten_extreme {side : Ordering} (hside : side ≠ .eq) (field : String)
    (docs : List Document) :
    Unbeaten side field docs
      (Accumulator.extreme side (Accumulator.valuesOf (.ofField field) docs)) := by
  -- what the fold runs over are the values at the field, without null
  have hmem_values : ∀ {d w}, d ∈ docs → getPath? d field = some w → w ≠ .null →
      w ∈ Accumulator.valuesOf (.ofField field) docs :=
    fun hd hget hne => mem_valuesOf.mpr ⟨hne, _, hd, hget⟩
  obtain ⟨best, hrun⟩ : ∃ best, (Accumulator.valuesOf (.ofField field) docs).foldl
      (Accumulator.better side) none = best := ⟨_, rfl⟩
  have hbest : Accumulator.IsBest side (Accumulator.valuesOf (.ofField field) docs) best :=
    hrun ▸ Accumulator.IsBest.foldl hside (show Accumulator.IsBest side [] none from rfl) _
  rw [Accumulator.extreme_eq, hrun]
  cases best with
  | none =>
    -- with nothing to compare, every document has null there or nothing
    have hnull : ∀ d ∈ docs, ∀ w, getPath? d field = some w → w = .null := by
      intro d hd w hget
      by_contra hne
      have hmem := hmem_values hd hget hne
      rw [show Accumulator.valuesOf (.ofField field) docs = [] from hbest] at hmem
      exact List.not_mem_nil hmem
    exact ⟨iff_of_true rfl hnull, fun hne => absurd rfl hne,
      fun d hd w hget hne => absurd (hnull d hd w hget) hne⟩
  | some b =>
    obtain ⟨hmem, hunbeaten⟩ := hbest
    obtain ⟨hne, d, hd, hget⟩ := mem_valuesOf.mp hmem
    exact ⟨iff_of_false hne fun hall => hne (hall d hd b hget), fun _ => ⟨d, hd, hget⟩,
      fun e he w hw hne' => hunbeaten w (hmem_values he hw hne')⟩

end Document

namespace Model

variable {m : Model} {kwargs filter : Document} {field : String} {selected : List Document}
  {s : Store}

/-- The largest and the smallest value of a field over the matching documents are null when no
document holds anything else, and otherwise each of them is held by a document and no other value
lies beyond it, whatever types the values have, and with NaN among them. -/
theorem extremes_are_unbeaten (collection : String → List Document) {f : Field}
    (hdeclared : m.schema.declared field = .ok f) (hfilter : m.filter kwargs = .ok filter)
    (hselect : Document.select filter s.documents = .ok selected) :
    (∃ v, m.total collection ⟨field, .max⟩ kwargs s = (.ok v, s) ∧
      Document.Unbeaten .gt field selected v) ∧
    ∃ v, m.total collection ⟨field, .min⟩ kwargs s = (.ok v, s) ∧
      Document.Unbeaten .lt field selected v := by
  have hgt : Ordering.gt ≠ .eq := by decide
  have hlt : Ordering.lt ≠ .eq := by decide
  have hmax := Document.unbeaten_extreme hgt field selected
  have hmin := Document.unbeaten_extreme hlt field selected
  exact ⟨⟨_, total_apply hdeclared hfilter hselect, hmax⟩,
    ⟨_, total_apply hdeclared hfilter hselect, hmin⟩⟩

/-- The theorem for a NaN and a null between two numbers: neither replaces the first, and the second
does. -/
theorem extremes_are_unbeaten_by_nan :
    let s := numberStore [.int32 2, .double .nan, .null, .double (.ofInt 3)]
    taggedModel.schema.declared "n" = .ok { name := "n", type := .int } ∧
      taggedModel.filter [] = .ok [] ∧ Document.select [] s.documents = .ok s.documents ∧
      taggedModel.total (fun _ => []) ⟨"n", .max⟩ [] s = (.ok (.double (.ofInt 3)), s) ∧
      Document.Unbeaten .gt "n" s.documents (.double (.ofInt 3)) ∧
      taggedModel.total (fun _ => []) ⟨"n", .min⟩ [] s = (.ok (.int32 2), s) ∧
      Document.Unbeaten .lt "n" s.documents (.int32 2) := by
  intro s
  have hdeclared : taggedModel.schema.declared "n" = .ok { name := "n", type := .int } := rfl
  have hfilter : taggedModel.filter [] = .ok [] := rfl
  have hselect : Document.select [] s.documents = .ok s.documents := rfl
  have hnan : Value.order (some (.double .nan)) (some (.int32 2)) = .eq := by decide +kernel
  have hthree : Value.order (some (.double (.ofInt 3))) (some (.int32 2)) = .gt := by
    decide +kernel
  have hrun : ∀ side, Accumulator.extreme side (Accumulator.valuesOf (.ofField "n") s.documents) =
      ([.int32 2, .double .nan, .double (.ofInt 3)].foldl (Accumulator.better side) none).getD
        .null := fun _ => rfl
  have hmax : (⟨"n", .max⟩ : Total).ofDocuments s.documents = .double (.ofInt 3) :=
    (hrun .gt).trans (by simp [Accumulator.better, hnan, hthree])
  have hmin : (⟨"n", .min⟩ : Total).ofDocuments s.documents = .int32 2 :=
    (hrun .lt).trans (by simp [Accumulator.better, hnan, hthree])
  obtain ⟨⟨v, hv, hlargest⟩, w, hw, hsmallest⟩ :=
    extremes_are_unbeaten (fun _ => []) hdeclared hfilter hselect
  cases (hv.symm.trans (total_apply hdeclared hfilter hselect)).trans (by rw [hmax])
  cases (hw.symm.trans (total_apply hdeclared hfilter hselect)).trans (by rw [hmin])
  exact ⟨hdeclared, hfilter, hselect, hv, hlargest, hw, hsmallest⟩

end Model

end DocMapper
