import DocMapper.Pipeline.Stage
import DocMapper.Proofs.IntegerComparisons
import DocMapper.Proofs.Selection
import DocMapper.Proofs.SortKeys

namespace DocMapper

/-! # Where the order of sorting is a preorder

Every value ties with itself, and two values are in opposite orders seen from their two sides. What
is not after a second value, which is not after a third, is not after the third, with one exception:
between two numbers a NaN ties with both, whichever of them is larger. So a sort can leave a larger
number before a smaller one when a NaN keeps them apart.
-/

namespace Value

variable {a b c : Option Value}

/-- A NaN stands between two numbers of which the first is larger. -/
structure NaNBetween (a b c : Option Value) : Prop where
  nan : IsNaN b
  larger : ∃ m n, a.bind magnitude? = some (.exact m) ∧ c.bind magnitude? = some (.exact n) ∧ n < m

/-- What is not after something has no later type. -/
theorem rank_le_of_order_ne_gt (h : order a b ≠ .gt) : rank a ≤ rank b := by
  by_contra hlater
  have hlt := Nat.lt_of_not_le hlater
  rw [order_of_rank_ne (Nat.ne_of_gt hlt)] at h
  exact h (Nat.compare_eq_gt.mpr hlt)

theorem rank_of_bind_magnitude? {m : Magnitude} (h : a.bind magnitude? = some m) : rank a = 1 := by
  obtain ⟨v, rfl, hv⟩ := Option.bind_eq_some_iff.mp h
  exact rank_of_magnitude? hv

/-- A number that is no NaN has a place. -/
theorem exists_exact (hrank : rank a = 1) (hnan : ¬IsNaN a) :
    ∃ m, a.bind magnitude? = some (.exact m) ∧ place a = m := by
  obtain ⟨v, m, rfl, hv⟩ := exists_magnitude? hrank
  cases m with
  | nan => exact absurd hv hnan
  | exact m => exact ⟨m, hv, (place_of_magnitude? hv).1⟩

namespace NaNBetween

/-- A NaN ties with the numbers on both of its sides, and they are in the wrong order. -/
theorem order_eq (h : NaNBetween a b c) :
    order a b = .eq ∧ order b c = .eq ∧ order a c = .gt := by
  obtain ⟨m, n, hm, hn, hlt⟩ := h.larger
  have ha := rank_of_bind_magnitude? hm
  have hb := rank_of_bind_magnitude? h.nan
  have hc := rank_of_bind_magnitude? hn
  refine ⟨?_, ?_, ?_⟩
  · rw [order_of_isNaN (Or.inr h.nan), Nat.compare_eq_eq.mpr (ha.trans hb.symm)]
  · rw [order_of_isNaN (Or.inl h.nan), Nat.compare_eq_eq.mpr (hb.trans hc.symm)]
  · obtain ⟨v, rfl, hv⟩ := Option.bind_eq_some_iff.mp hm
    obtain ⟨w, rfl, hw⟩ := Option.bind_eq_some_iff.mp hn
    rw [order_of_magnitude? hv hw]
    exact Int.compare_eq_gt.mpr hlt

/-- Where transitivity fails, a NaN stands between two numbers. -/
theorem of_order (hab : order a b ≠ .gt) (hbc : order b c ≠ .gt) (hac : order a c = .gt) :
    NaNBetween a b c := by
  have hranks := (rank_le_of_order_ne_gt hab).trans (rank_le_of_order_ne_gt hbc)
  have hne : ¬(IsNaN a ∨ IsNaN c) := by
    -- beside a NaN the types alone decide, and they are not in descending order
    intro hnan
    rw [order_of_isNaN hnan] at hac
    exact Nat.not_lt_of_le hranks (Nat.compare_eq_gt.mp hac)
  obtain ⟨ha, hc⟩ := not_or.mp hne
  by_cases hb : IsNaN b
  · obtain ⟨x, rfl, -⟩ := isNaN_iff.mp hb
    have hback : rank c ≤ rank a := by
      rw [← order_swap, Ordering.swap_eq_gt] at hac
      exact rank_le_of_order_ne_gt (by rw [hac]; decide)
    have hbefore : rank a ≤ 1 := rank_le_of_order_ne_gt hab
    have hafter : 1 ≤ rank c := rank_le_of_order_ne_gt hbc
    have hranka : rank a = 1 := Nat.le_antisymm hbefore (hafter.trans hback)
    have hrankc : rank c = 1 := Nat.le_antisymm (hback.trans hbefore) hafter
    obtain ⟨m, hm, hplace⟩ := exists_exact hranka ha
    obtain ⟨n, hn, hplace'⟩ := exists_exact hrankc hc
    rw [(order_numbers hranka hrankc ha hc).1, hplace, hplace'] at hac
    exact ⟨hb, m, n, hm, hn, Int.compare_eq_gt.mp hac⟩
  · -- without a NaN the order is that of keys
    rw [order_eq_keyOrder ha hb] at hab
    rw [order_eq_keyOrder hb hc] at hbc
    rw [order_eq_keyOrder ha hc] at hac
    have htrans := Std.TransCmp.isLE_trans (Ordering.ne_gt_iff_isLE.mp hab)
      (Ordering.ne_gt_iff_isLE.mp hbc)
    exact absurd hac (Ordering.ne_gt_iff_isLE.mpr htrans)

end NaNBetween

/-- The order of sorting is reflexive and antisymmetric, for values of all types and missing ones.
It is transitive at three values exactly unless a NaN stands between two numbers of which the first
is larger. -/
theorem order_is_preorder_iff (a b c : Option Value) :
    order a a = .eq ∧ order b a = (order a b).swap ∧
      ((order a b ≠ .gt → order b c ≠ .gt → order a c ≠ .gt) ↔ ¬NaNBetween a b c) := by
  refine ⟨order_self a, (order_swap a b).symm, ?_, ?_⟩
  · intro htrans hnan
    obtain ⟨hab, hbc, hac⟩ := hnan.order_eq
    exact htrans (by rw [hab]; decide) (by rw [hbc]; decide) hac
  · intro hnan hab hbc hac
    exact hnan (.of_order hab hbc hac)

end Value

/-- Two NaN between 1 and 0 tie with both, although 1 is after 0. A sort that meets them in this
order leaves them so, and what remains without the NaN is not in order. -/
theorem sorting_stops_at_nan :
    let row (id : Int32) (x : Value) : Document := [("_id", .int32 id), ("x", x)]
    let docs := [row 1 (.int32 1), row 2 (.double .nan), row 3 (.double .nan), row 4 (.int32 0)]
    Value.order (some (.int32 1)) (some (.double .nan)) = .eq ∧
      Value.order (some (.double .nan)) (some (.int32 0)) = .eq ∧
      Value.order (some (.int32 1)) (some (.int32 0)) = .gt ∧
      Stage.runAll (fun _ => []) [[("$sort", .document [("x", .int32 1)])],
          [("$match", .document [("x", .document [("$gte", .int32 0)])])]] docs =
        .ok [row 1 (.int32 1), row 4 (.int32 0)] := by
  intro row docs
  have hnan : Value.order (some (.int32 1)) (some (.double .nan)) = .eq := by decide +kernel
  have hzero : Value.order (some (.double .nan)) (some (.int32 0)) = .eq := by decide +kernel
  have hone : Value.order (some (.int32 1)) (some (.int32 0)) = .gt := by decide +kernel
  -- neighbours never compare as greater, so the merge leaves the rows as they are
  have hsorted : Document.sortBy [("x", .int32 1)] docs = docs := by
    have hdirection : Document.isNegative (.int32 1) = false := by decide +kernel
    have hrows : ∀ id id' x y, Document.sortOrder [("x", .int32 1)] (row id x) (row id' y) =
        Value.order (some x) (some y) := by
      intro id id' x y
      simp only [Document.sortOrder, hdirection]
      exact Ordering.then_eq
    simp [Document.sortBy, docs, List.mergeSort, List.MergeSort.Internal.splitInTwo, hrows, hnan,
      hzero, Value.order_self]
  have hmatch : ∀ d ∈ docs, Document.satisfies d [("x", .document [("$gte", .int32 0)])] =
      .ok (Value.liesAt [.gt, .eq] (.int32 0) (Document.getPath? d "x")) := fun _ _ =>
    Document.satisfies_operator (by decide) (by decide) fun _ => rfl
  -- only the numbers pass the bound: what equals NaN for the sort does not for a filter
  have hpasses : [Value.int32 1, .double .nan, .int32 0].map
      (fun x => Value.liesAt [.gt, .eq] (.int32 0) (some x)) = [true, false, true] := by
    decide +kernel
  refine ⟨hnan, hzero, hone, ?_⟩
  change Document.select _ (Document.sortBy [("x", .int32 1)] docs) >>= pure = _
  rw [hsorted, Document.select_of_satisfies hmatch]
  have hread : ∀ id x, Document.getPath? (row id x) "x" = some x := fun _ _ => rfl
  simp only [List.map_cons, List.map_nil, List.cons.injEq] at hpasses
  simp only [docs, List.filter_cons, List.filter_nil, hread, hpasses]
  rfl

end DocMapper
