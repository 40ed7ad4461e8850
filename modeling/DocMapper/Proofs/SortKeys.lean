import DocMapper.Proofs.Numbers

namespace DocMapper

/-! # The order of sorting as an order of keys

Values are sorted by their types, and those of one type by their places, where the type has any. A
NaN has no place, and ties with every number. Apart from NaN the order is the lexicographic order of
keys, so it is total and transitive. With NaN it is still antisymmetric, and what comes strictly
before is still transitive: a NaN is strictly before or after values of other types only.
-/

theorem compare_natCast (m n : Nat) : compare (m : Int) (n : Int) = compare m n := by
  cases hcompare : compare m n with
  | lt => exact Int.compare_eq_lt.mpr (Int.ofNat_lt.mpr (Nat.compare_eq_lt.mp hcompare))
  | eq => exact Int.compare_eq_eq.mpr (congrArg Nat.cast (Nat.compare_eq_eq.mp hcompare))
  | gt => exact Int.compare_eq_gt.mpr (Int.ofNat_lt.mpr (Nat.compare_eq_gt.mp hcompare))

namespace Value

variable {a b c : Option Value} {v w : Value} {m n : Magnitude} {i : Int}

/-! ## Keys -/

/-- The type of the value orders its values. -/
def isOrdered : Option Value → Bool
  | some (.int32 _) | some (.int64 _) | some (.double _) | some (.string _) => true
  | some (.objectId _) | some (.bool _) | some (.dateTime _) => true
  | _ => false

/-- The place of a value among the values of its type, where these are ordered as integers. -/
def place : Option Value → Int
  | some (.objectId i) => i.bits.toNat
  | some (.bool b) => b.toNat
  | some (.dateTime millis) => millis.toInt
  | some v =>
    match v.magnitude? with
    | some (.exact n) => n
    | _ => 0
  | none => 0

/-- The text by which texts are ordered. -/
def sortText : Option Value → String
  | some (.string s) => s
  | _ => ""

/-- The value is a number without a place. -/
def IsNaN (v : Option Value) : Prop := v.bind magnitude? = some .nan

/-- The order of values by type, place and text. -/
def keyOrder : Option Value → Option Value → Ordering :=
  compareLex (compareOn rank) (compareLex (compareOn place) (compareOn sortText))

instance : Std.TransCmp keyOrder :=
  inferInstanceAs (Std.TransCmp (compareLex _ _))

/-- Only doubles are NaN. -/
theorem isNaN_iff : IsNaN a ↔ ∃ x, a = some (.double x) ∧ x.isNaN = true := by
  have hplace : ∀ x : Double, Magnitude.ofDouble x = .nan ↔ x.isNaN = true := by
    intro x
    rw [Magnitude.ofDouble]
    cases x.isNaN <;> simp
  constructor
  · intro h
    obtain ⟨v, rfl, hv⟩ := Option.bind_eq_some_iff.mp h
    cases v with
    | double x => exact ⟨x, rfl, (hplace x).mp (Option.some.inj hv)⟩
    | int32 n | int64 n =>
      have hnan := (hplace _).mp (Option.some.inj hv)
      rw [Double.isNaN_ofInt] at hnan
      cases hnan
    | _ => cases hv
  · rintro ⟨x, rfl, hx⟩
    exact congrArg some ((hplace x).mpr hx)

/-! ## Values of different types, and of types without an order -/

theorem rank_of_magnitude? (h : v.magnitude? = some m) : rank (some v) = 1 := by
  cases v with
  | int32 | int64 | double => rfl
  | _ => cases h

theorem exists_magnitude? (h : rank a = 1) : ∃ v m, a = some v ∧ v.magnitude? = some m := by
  rcases a with _ | v
  · cases h
  · cases v with
    | int32 | int64 | double => exact ⟨_, _, rfl, rfl⟩
    | _ => cases h

theorem isOrdered_eq (a : Option Value) : isOrdered a = decide (rank a ∈ [1, 2, 5, 6, 7]) := by
  rcases a with _ | v
  · rfl
  · cases v <;> rfl

/-- Values that have an order have one type. -/
theorem rank_eq_of_compare? {o : Ordering} (h : v.compare? w = some o) :
    rank (some v) = rank (some w) := by
  unfold compare? at h
  split at h
  · rename_i hv hw
    rw [rank_of_magnitude? hv, rank_of_magnitude? hw]
  · split at h
    · rfl
    · rfl
    · rfl
    · rfl
    · cases h

/-- Values of different types are ordered by their types. -/
theorem order_of_rank_ne (h : rank a ≠ rank b) : order a b = compare (rank a) (rank b) := by
  rcases a with _ | v
  · rfl
  · rcases b with _ | w
    · rfl
    · rw [order]
      cases hcompare : v.compare? w with
      | none => rfl
      | some o => exact absurd (rank_eq_of_compare? hcompare) h

theorem order_of_not_isOrdered (h : isOrdered a = false) (b : Option Value) :
    order a b = compare (rank a) (rank b) := by
  rcases a with _ | v
  · rfl
  · rcases b with _ | w
    · rfl
    · have hcompare : v.compare? w = none := by
        cases v with
        | int32 | int64 | double | string | objectId | bool | dateTime => cases h
        | _ => rfl
      rw [order, hcompare, Option.getD_none]

theorem key_of_not_isOrdered (h : isOrdered a = false) : place a = 0 ∧ sortText a = "" := by
  rcases a with _ | v
  · exact ⟨rfl, rfl⟩
  · cases v with
    | int32 | int64 | double | string | objectId | bool | dateTime => cases h
    | _ => exact ⟨rfl, rfl⟩

/-! ## Values of one type -/

theorem keyOrder_of_rank_ne (h : rank a ≠ rank b) : keyOrder a b = compare (rank a) (rank b) := by
  rw [keyOrder, compareLex, compareOn]
  cases hcompare : compare (rank a) (rank b) with
  | eq => exact absurd (Nat.compare_eq_eq.mp hcompare) h
  | lt | gt => rfl

theorem keyOrder_of_rank_eq (h : rank a = rank b) :
    keyOrder a b = (compare (place a) (place b)).then (compare (sortText a) (sortText b)) := by
  rw [keyOrder, compareLex, compareOn, Nat.compare_eq_eq.mpr h]
  rfl

theorem order_of_magnitude? (hv : v.magnitude? = some m) (hw : w.magnitude? = some n) :
    order (some v) (some w) = (m.compare? n).getD .eq := by
  have hranks : compare (rank (some v)) (rank (some w)) = .eq := by
    rw [rank_of_magnitude? hv, rank_of_magnitude? hw]
    rfl
  simp only [order, compare?, hv, hw, hranks]

theorem place_of_magnitude? (hv : v.magnitude? = some (.exact i)) :
    place (some v) = i ∧ sortText (some v) = "" := by
  cases v with
  | int32 | int64 | double =>
    refine ⟨?_, rfl⟩
    simp only [place, hv]
  | _ => cases hv

/-- A NaN ties with every number. -/
theorem order_of_isNaN (h : IsNaN a ∨ IsNaN b) : order a b = compare (rank a) (rank b) := by
  by_cases hranks : rank a = rank b
  · have hnumber : ∀ {c}, IsNaN c → rank c = 1 := by
      rintro c hc
      obtain ⟨x, rfl, -⟩ := isNaN_iff.mp hc
      rfl
    have ha : rank a = 1 := h.elim hnumber fun hb => hranks.trans (hnumber hb)
    obtain ⟨v, m, rfl, hv⟩ := exists_magnitude? ha
    obtain ⟨w, n, rfl, hw⟩ := exists_magnitude? (hranks.symm.trans ha)
    rw [order_of_magnitude? hv hw, Nat.compare_eq_eq.mpr hranks]
    rcases h with h | h
    · cases hv.symm.trans h
      rfl
    · cases hw.symm.trans h
      cases m <;> rfl
  · exact order_of_rank_ne hranks

/-- Numbers with a place are ordered by it. -/
theorem order_numbers (ha : rank a = 1) (hb : rank b = 1) (hna : ¬IsNaN a) (hnb : ¬IsNaN b) :
    order a b = compare (place a) (place b) ∧ sortText a = "" ∧ sortText b = "" := by
  obtain ⟨v, m, rfl, hv⟩ := exists_magnitude? ha
  obtain ⟨w, n, rfl, hw⟩ := exists_magnitude? hb
  rcases m with i | _
  swap
  · exact absurd hv hna
  rcases n with j | _
  swap
  · exact absurd hw hnb
  obtain ⟨hplace, htext⟩ := place_of_magnitude? hv
  obtain ⟨hplace', htext'⟩ := place_of_magnitude? hw
  rw [order_of_magnitude? hv hw, hplace, hplace']
  exact ⟨rfl, htext, htext'⟩

/-- Apart from NaN, values are ordered by their keys. -/
theorem order_eq_keyOrder (ha : ¬IsNaN a) (hb : ¬IsNaN b) : order a b = keyOrder a b := by
  -- Different ranks decide on both sides; below them only a type with an order looks at the values.
  by_cases hranks : rank a = rank b
  swap
  · rw [order_of_rank_ne hranks, keyOrder_of_rank_ne hranks]
  rw [keyOrder_of_rank_eq hranks]
  have hordered : isOrdered b = isOrdered a := by rw [isOrdered_eq, isOrdered_eq, hranks]
  cases hcase : isOrdered a with
  | false =>
    obtain ⟨hplace, htext⟩ := key_of_not_isOrdered hcase
    obtain ⟨hplace', htext'⟩ := key_of_not_isOrdered (hordered.trans hcase)
    rw [order_of_not_isOrdered hcase, Nat.compare_eq_eq.mpr hranks, hplace, hplace', htext,
      htext']
    rfl
  | true =>
    rw [hcase] at hordered
    rcases a with _ | v
    · cases hcase
    rcases b with _ | w
    · cases hordered
    cases v with
    -- The three numeric types share a rank, so they are compared across types.
    | int32 | int64 | double =>
      obtain ⟨horder, htext, htext'⟩ := order_numbers rfl hranks.symm ha hb
      rw [horder, htext, htext']
      exact Ordering.then_eq.symm
    | string s =>
      cases w with
      | string t => rfl
      | _ => cases hranks
    | bool p =>
      cases w with
      | bool q => cases p <;> cases q <;> rfl
      | _ => cases hranks
    | dateTime m =>
      cases w with
      | dateTime n => exact Ordering.then_eq.symm
      | _ => cases hranks
    | objectId i =>
      cases w with
      | objectId j =>
        exact (compare_natCast i.bits.toNat j.bits.toNat).symm.trans Ordering.then_eq.symm
      | _ => cases hranks
    | _ => cases hcase

/-! ## The order -/

/-- The order is antisymmetric, with NaN too. -/
theorem order_swap (a b : Option Value) : (order a b).swap = order b a := by
  by_cases hnan : IsNaN a ∨ IsNaN b
  · rw [order_of_isNaN hnan, order_of_isNaN hnan.symm]
    exact Std.OrientedCmp.eq_swap.symm
  · obtain ⟨ha, hb⟩ := not_or.mp hnan
    rw [order_eq_keyOrder ha hb, order_eq_keyOrder hb ha]
    exact Std.OrientedCmp.eq_swap.symm

theorem order_self (a : Option Value) : order a a = .eq := by
  have hswap := order_swap a a
  cases horder : order a a with
  | eq => rfl
  | lt | gt =>
    rw [horder] at hswap
    cases hswap

/-- What is strictly before has an earlier type, or an earlier key of the same type. -/
theorem rank_le_of_order (h : order a b = .lt) :
    rank a < rank b ∨ rank a = rank b ∧ ¬IsNaN a ∧ ¬IsNaN b := by
  by_cases hranks : rank a = rank b
  · refine Or.inr ⟨hranks, not_or.mp fun hnan => ?_⟩
    rw [order_of_isNaN hnan, Nat.compare_eq_eq.mpr hranks] at h
    cases h
  · rw [order_of_rank_ne hranks] at h
    exact Or.inl (Nat.compare_eq_lt.mp h)

/-- What is strictly before stays so over a third value, with NaN too. -/
theorem order_lt_trans (hab : order a b = .lt) (hbc : order b c = .lt) : order a c = .lt := by
  have hearlier : rank a < rank c → order a c = .lt := fun h => by
    rw [order_of_rank_ne (Nat.ne_of_lt h), Nat.compare_eq_lt.mpr h]
  rcases rank_le_of_order hab with hab' | ⟨hab', ha, hb⟩
  · rcases rank_le_of_order hbc with hbc' | ⟨hbc', -, -⟩
    · exact hearlier (hab'.trans hbc')
    · exact hearlier (hbc' ▸ hab')
  · rcases rank_le_of_order hbc with hbc' | ⟨hbc', -, hc⟩
    · exact hearlier (hab' ▸ hbc')
    · rw [order_eq_keyOrder ha hb] at hab
      rw [order_eq_keyOrder hb hc] at hbc
      rw [order_eq_keyOrder ha hc]
      exact Std.TransCmp.lt_trans hab hbc

/-- The same on the other side. -/
theorem order_gt_trans (hab : order a b = .gt) (hbc : order b c = .gt) : order a c = .gt := by
  rw [← order_swap, Ordering.swap_eq_gt] at hab hbc ⊢
  exact order_lt_trans hbc hab

end Value

end DocMapper
