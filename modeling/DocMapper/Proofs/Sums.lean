import Mathlib.Algebra.BigOperators.Group.List.Basic
import Mathlib.Algebra.Ring.Int.Defs
import Mathlib.Data.List.Perm.Basic
import DocMapper.Proofs.Deletions
import DocMapper.Proofs.Totals

namespace DocMapper

/-! # Sums of integers

Integers are added exactly or not at all: a sum of more than 64 bits does not exist, and a total
goes on without the addend. What is left out depends on the order of the addends, so a total is
exact in every order only if no order can leave the range: the positive addends fit without the
negative ones, and the negative ones without the positive ones.
-/

/-- The integer has 64 bits. -/
def Fits64 (n : Int) : Prop := Int64.minValue.toInt ≤ n ∧ n ≤ Int64.maxValue.toInt

instance (n : Int) : Decidable (Fits64 n) := inferInstanceAs (Decidable (_ ∧ _))

theorem fits64_iff {n : Int} :
    Fits64 n ↔ -9223372036854775808 ≤ n ∧ n ≤ 9223372036854775807 := Iff.rfl

/-! ## The sum of two integers -/

namespace Value

variable {v w : Value} {m n : Int}

theorem fits64_of_toInt? (h : v.toInt? = some n) : Fits64 n := by
  cases v with
  | int32 n =>
    cases h
    have hlow : -2147483648 ≤ n.toInt := n.minValue_le_toInt
    have hhigh : n.toInt ≤ 2147483647 := n.toInt_le
    rw [fits64_iff]
    omega
  | int64 n =>
    cases h
    exact ⟨n.minValue_le_toInt, n.toInt_le⟩
  | _ => cases h

theorem exists_toInt? (h : v.isInteger = true) : ∃ n, v.toInt? = some n := by
  cases v with
  | int32 n | int64 n => exact ⟨_, rfl⟩
  | _ => cases h

theorem toInt?_int64 (h : Fits64 n) : (Value.int64 (Int64.ofInt n)).toInt? = some n :=
  congrArg some (Int64.toInt_ofInt_of_le h.1 (Int.lt_add_one_of_le h.2))

/-- The sum of two integers is exact, or does not exist because it does not fit. -/
theorem add?_cases (hv : v.toInt? = some m) (hw : w.toInt? = some n) :
    (Fits64 (m + n) ∧ ∃ u, v.add? w = some u ∧ u.toInt? = some (m + n)) ∨
      (¬Fits64 (m + n) ∧ v.add? w = none) := by
  have hwide : (Fits64 (m + n) ∧ ∃ u, ofInt64? (m + n) = some u ∧ u.toInt? = some (m + n)) ∨
      (¬Fits64 (m + n) ∧ ofInt64? (m + n) = none) := by
    by_cases h : Fits64 (m + n)
    · exact Or.inl ⟨h, _, if_pos h, toInt?_int64 h⟩
    · exact Or.inr ⟨h, if_neg h⟩
  cases v with
  | int32 a =>
    cases w with
    | int32 b =>
      -- two integers of 32 bits have a sum of 33 bits
      cases hv
      cases hw
      have ha : -2147483648 ≤ a.toInt ∧ a.toInt ≤ 2147483647 := ⟨a.minValue_le_toInt, a.toInt_le⟩
      have hb : -2147483648 ≤ b.toInt ∧ b.toInt ≤ 2147483647 := ⟨b.minValue_le_toInt, b.toInt_le⟩
      have hfits : Fits64 (a.toInt + b.toInt) := by
        rw [fits64_iff]
        omega
      refine Or.inl ⟨hfits, ?_⟩
      rw [add?]
      split
      · rename_i hnarrow
        exact ⟨_, rfl, congrArg some
          (Int32.toInt_ofInt_of_le hnarrow.1 (Int.lt_add_one_of_le hnarrow.2))⟩
      · exact ⟨_, rfl, toInt?_int64 hfits⟩
    | int64 b =>
      cases hv
      cases hw
      exact hwide
    | _ => cases hw
  | int64 a =>
    cases w with
    | int32 b | int64 b =>
      cases hv
      cases hw
      exact hwide
    | _ => cases hw
  | _ => cases hv

/-- An integer is added to a total or left out of it. -/
theorem toInt?_addTo (hv : v.toInt? = some m) (hw : w.toInt? = some n) :
    (Accumulator.addTo v w).toInt? = some (if Fits64 (m + n) then m + n else m) := by
  rw [Accumulator.addTo]
  rcases add?_cases hv hw with ⟨hfits, u, hadd, hu⟩ | ⟨hout, hadd⟩
  · rw [hadd, Option.getD_some, hu, if_pos hfits]
  · rw [hadd, Option.getD_none, hv, if_neg hout]

end Value

/-! ## Totals that leave out -/

/-- Adds integers one after the other, and leaves out each with which the total would not fit. -/
def tally (total : Int) : List Int → Int
  | [] => total
  | n :: rest => if Fits64 (total + n) then tally (total + n) rest else tally total rest

/-- The sum of the positive integers in a list. -/
def gains (l : List Int) : Int := (l.filter (0 < ·)).sum

/-- The sum of the negative integers in a list. -/
def losses (l : List Int) : Int := (l.filter (· < 0)).sum

section Tally

variable {total n : Int} {l : List Int}

theorem gains_cons (n : Int) (l : List Int) : gains (n :: l) = max n 0 + gains l := by
  rw [gains, List.filter_cons]
  split
  · rename_i h
    rw [List.sum_cons, Int.max_eq_left (Int.le_of_lt (of_decide_eq_true h)), gains]
  · rename_i h
    rw [Int.max_eq_right (Int.not_lt.mp (mt decide_eq_true h)), Int.zero_add, gains]

theorem losses_cons (n : Int) (l : List Int) : losses (n :: l) = min n 0 + losses l := by
  rw [losses, List.filter_cons]
  split
  · rename_i h
    rw [List.sum_cons, Int.min_eq_left (Int.le_of_lt (of_decide_eq_true h)), losses]
  · rename_i h
    rw [Int.min_eq_right (Int.not_lt.mp (mt decide_eq_true h)), Int.zero_add, losses]

theorem gains_nonneg (l : List Int) : 0 ≤ gains l := by
  induction l with
  | nil => exact Int.le_refl 0
  | cons n rest ih =>
    rw [gains_cons]
    omega

theorem losses_nonpos (l : List Int) : losses l ≤ 0 := by
  induction l with
  | nil => exact Int.le_refl 0
  | cons n rest ih =>
    rw [losses_cons]
    omega

theorem gains_add_losses (l : List Int) : gains l + losses l = l.sum := by
  induction l with
  | nil => rfl
  | cons n rest ih =>
    rw [gains_cons, losses_cons, List.sum_cons]
    omega

theorem gains_perm {l' : List Int} (h : l'.Perm l) : gains l' = gains l := (h.filter _).sum_eq

theorem losses_perm {l' : List Int} (h : l'.Perm l) : losses l' = losses l := (h.filter _).sum_eq

theorem fits64_tally (h : Fits64 total) (l : List Int) : Fits64 (tally total l) := by
  induction l generalizing total with
  | nil => exact h
  | cons n rest ih =>
    rw [tally]
    split
    · rename_i hfits
      exact ih hfits
    · exact ih h

/-- Nothing is left out when neither the gains nor the losses lead out of the range alone. -/
theorem tally_of_bounds (hgains : total + gains l ≤ 9223372036854775807)
    (hlosses : -9223372036854775808 ≤ total + losses l) : tally total l = total + l.sum := by
  induction l generalizing total with
  | nil => exact (Int.add_zero total).symm
  | cons n rest ih =>
    have hnonneg := gains_nonneg rest
    have hnonpos := losses_nonpos rest
    rw [gains_cons] at hgains
    rw [losses_cons] at hlosses
    rw [tally, if_pos (fits64_iff.mpr (by omega)), ih (by omega) (by omega), List.sum_cons,
      Int.add_assoc]

/-- An addend that leads towards zero fits. -/
theorem fits64_add (htotal : Fits64 total) (hn : Fits64 n)
    (h : total < 0 ∧ 0 < n ∨ 0 ≤ total ∧ n ≤ 0) : Fits64 (total + n) := by
  rw [fits64_iff] at *
  omega

/-- While the whole sum fits there is an addend that fits, or nothing is left to be added. -/
theorem exists_fits64 (htotal : Fits64 total) (hsum : Fits64 (total + l.sum))
    (hall : ∀ n ∈ l, Fits64 n) (hne : l ≠ []) : ∃ n ∈ l, Fits64 (total + n) := by
  by_contra hnone
  obtain ⟨n, rest, rfl⟩ := List.exists_cons_of_ne_nil hne
  -- no addend leads towards zero, so the others take the total farther out
  have haway : ∀ i ∈ n :: rest, ¬(total < 0 ∧ 0 < i ∨ 0 ≤ total ∧ i ≤ 0) := fun i hi h =>
    hnone ⟨i, hi, fits64_add htotal (hall i hi) h⟩
  have hout : ¬Fits64 (total + n) := fun hfits => hnone ⟨n, List.mem_cons_self, hfits⟩
  have hn := haway n List.mem_cons_self
  have hrest : ∀ i ∈ rest, ¬(total < 0 ∧ 0 < i ∨ 0 ≤ total ∧ i ≤ 0) := fun i hi =>
    haway i (List.mem_cons_of_mem _ hi)
  have hparts := gains_add_losses rest
  rw [List.sum_cons] at hsum
  rw [fits64_iff] at htotal hsum hout
  rcases Int.lt_or_le total 0 with hneg | hnonneg
  · have hgains : gains rest = 0 := by
      have hnil : rest.filter (0 < ·) = [] := List.filter_eq_nil_iff.mpr fun i hi hpos =>
        hrest i hi (Or.inl ⟨hneg, of_decide_eq_true hpos⟩)
      rw [gains, hnil, List.sum_nil]
    have hlosses := losses_nonpos rest
    omega
  · have hlosses : losses rest = 0 := by
      have hnil : rest.filter (· < 0) = [] := List.filter_eq_nil_iff.mpr fun i hi hneg =>
        hrest i hi (Or.inr ⟨hnonneg, Int.le_of_lt (of_decide_eq_true hneg)⟩)
      rw [losses, hnil, List.sum_nil]
    have hgains := gains_nonneg rest
    omega

/-- Addends whose sum fits can be put into an order in which none is left out. -/
theorem exists_exact_order (htotal : Fits64 total) (hsum : Fits64 (total + l.sum))
    (hall : ∀ n ∈ l, Fits64 n) : ∃ l', l'.Perm l ∧ tally total l' = total + l.sum := by
  -- the induction is on the length, since the next summand may stand anywhere in the list
  generalize hlength : l.length = length
  induction length generalizing total l with
  | zero =>
    obtain rfl := List.length_eq_zero_iff.mp hlength
    exact ⟨[], List.Perm.refl _, (Int.add_zero total).symm⟩
  | succ length ih =>
    have hne : l ≠ [] := by
      rintro rfl
      cases hlength
    -- some summand leaves the total in range, because the whole sum is
    obtain ⟨n, hn, hfits⟩ := exists_fits64 htotal hsum hall hne
    have hperm : l.Perm (n :: l.erase n) := List.perm_cons_erase hn
    have hsplit : l.sum = n + (l.erase n).sum := by rw [hperm.sum_eq, List.sum_cons]
    rw [hsplit, ← Int.add_assoc] at hsum
    obtain ⟨l', hl', htally⟩ := ih hfits hsum
      (fun i hi => hall i (List.mem_of_mem_erase hi)) (by
        rw [List.length_erase_of_mem hn, hlength]
        rfl)
    refine ⟨n :: l', (hl'.cons n).trans hperm.symm, ?_⟩
    rw [tally, if_pos hfits, htally, hsplit, Int.add_assoc]

/-- A sum that does not fit has a first addend with which it leaves the range. -/
theorem exists_first_out (htotal : Fits64 total) (hsum : ¬Fits64 (total + l.sum)) :
    ∃ before n after, l = before ++ n :: after ∧ Fits64 (total + before.sum) ∧
      ¬Fits64 (total + before.sum + n) ∧
      ∀ rest, tally total (before ++ n :: rest) = tally (total + before.sum) rest := by
  induction l generalizing total with
  | nil => exact absurd ((Int.add_zero total).symm ▸ htotal) hsum
  | cons n rest ih =>
    by_cases hfits : Fits64 (total + n)
    · rw [List.sum_cons, ← Int.add_assoc] at hsum
      obtain ⟨before, i, after, hsplit, hbefore, hout, htally⟩ := ih hfits hsum
      refine ⟨n :: before, i, after, by rw [hsplit, List.cons_append], ?_⟩
      rw [List.sum_cons, ← Int.add_assoc]
      refine ⟨hbefore, hout, fun others => ?_⟩
      rw [List.cons_append, tally, if_pos hfits, htally]
    · refine ⟨[], n, rest, rfl, ?_⟩
      rw [List.sum_nil, Int.add_zero]
      refine ⟨htotal, hfits, fun others => ?_⟩
      rw [List.nil_append, tally, if_neg hfits]

/-- Addends that lead out of the range without the others give an order with another total, when
the sum fits without any one of them. -/
theorem exists_lossy_order (test : Int → Bool) (hout : ¬Fits64 (l.filter test).sum)
    (hall : ∀ n ∈ l, Fits64 n)
    (hwithout : ∀ n ∈ l, test n = true → n ≠ 0 ∧ Fits64 (l.sum - n)) :
    ∃ l', l'.Perm l ∧ tally 0 l' ≠ l.sum := by
  have hzero : Fits64 0 := by decide
  -- these addends come first, until one is left out; then the others in an order that keeps all
  obtain ⟨before, n, after, hsplit, hbefore, -, htally⟩ :=
    exists_first_out hzero (by rwa [Int.zero_add])
  have hperm : (before ++ n :: (after ++ l.filter fun i => !test i)).Perm l := by
    have happend : before ++ n :: (after ++ l.filter fun i => !test i) =
        l.filter test ++ l.filter fun i => !test i := by
      rw [hsplit, List.append_assoc, List.cons_append]
    exact happend ▸ List.filter_append_perm test l
  have hn : n ∈ l.filter test := hsplit ▸ List.mem_append_right _ List.mem_cons_self
  obtain ⟨hn, htest⟩ := List.mem_filter.mp hn
  obtain ⟨hne, hfits⟩ := hwithout n hn htest
  have hsum : 0 + before.sum + (after ++ l.filter fun i => !test i).sum = l.sum - n := by
    have hwhole := hperm.sum_eq
    rw [List.sum_append, List.sum_cons] at hwhole
    omega
  have hmem : ∀ i ∈ after ++ l.filter fun i => !test i, Fits64 i := fun i hi =>
    hall i (hperm.subset (List.mem_append_right _ (List.mem_cons_of_mem _ hi)))
  obtain ⟨rest, hrest, hexact⟩ := exists_exact_order hbefore (hsum ▸ hfits) hmem
  refine ⟨before ++ n :: rest, ((hrest.cons n).append_left before).trans hperm, ?_⟩
  rw [htally, hexact, hsum]
  omega

/-- A sum is exact in every order exactly when the gains alone and the losses alone fit. -/
theorem tally_eq_sum_iff (hall : ∀ n ∈ l, Fits64 n) :
    (∀ l', l'.Perm l → tally 0 l' = l.sum) ↔
      gains l ≤ 9223372036854775807 ∧ -9223372036854775808 ≤ losses l := by
  have hparts := gains_add_losses l
  have hgains := gains_nonneg l
  have hlosses := losses_nonpos l
  constructor
  · intro h
    have hsum : Fits64 l.sum := h l (List.Perm.refl l) ▸ fits64_tally (by decide) l
    by_contra hbounds
    -- the addends of the sign of the sum lead out of the range
    suffices hlossy : ∃ l', l'.Perm l ∧ tally 0 l' ≠ l.sum by
      obtain ⟨l', hl', hne⟩ := hlossy
      exact hne (h l' hl')
    rw [fits64_iff] at hsum
    rcases Int.lt_or_le l.sum 0 with hneg | hnonneg
    · refine exists_lossy_order (· < 0) ?_ hall fun n hn htest => ?_
      · change ¬Fits64 (losses l)
        rw [fits64_iff]
        omega
      · have hfits := hall n hn
        have htest' := of_decide_eq_true htest
        rw [fits64_iff] at *
        omega
    · refine exists_lossy_order (0 < ·) ?_ hall fun n hn htest => ?_
      · change ¬Fits64 (gains l)
        rw [fits64_iff]
        omega
      · have hfits := hall n hn
        have htest' := of_decide_eq_true htest
        rw [fits64_iff] at *
        omega
  · rintro ⟨hhigh, hlow⟩ l' hl'
    rw [tally_of_bounds, Int.zero_add, hl'.sum_eq]
    · rw [Int.zero_add, gains_perm hl']
      exact hhigh
    · rw [Int.zero_add, losses_perm hl']
      exact hlow

/-- If the sum fits, all orders agree under the same condition: one of them is exact. -/
theorem tally_agree_iff (hall : ∀ n ∈ l, Fits64 n) (hsum : Fits64 l.sum) :
    (∀ l' l'', l'.Perm l → l''.Perm l → tally 0 l' = tally 0 l'') ↔
      gains l ≤ 9223372036854775807 ∧ -9223372036854775808 ≤ losses l := by
  rw [← tally_eq_sum_iff hall]
  constructor
  · intro h l' hl'
    have hzero : Fits64 0 := by decide
    obtain ⟨l'', hl'', hexact⟩ := exists_exact_order hzero ((Int.zero_add _).symm ▸ hsum) hall
    rw [h l' l'' hl' hl'', hexact, Int.zero_add]
  · intro h l' l'' hl' hl''
    rw [h l' hl', h l'' hl'']

end Tally

/-! ## Sums of a field -/

namespace Document

variable {field : String} {docs : List Document} {filter : Document}

/-- The field is missing or null, or holds an integer. -/
def AddsInteger (field : String) (d : Document) : Prop :=
  ∀ v, getPath? d field = some v → v = .null ∨ v.isInteger = true

/-- The integer that a document adds to a sum: zero if the field is missing or null. -/
def amount (field : String) (d : Document) : Int :=
  ((getPath? d field).bind Value.toInt?).getD 0

theorem fits64_amount (field : String) (d : Document) : Fits64 (amount field d) := by
  unfold amount
  cases hamount : (getPath? d field).bind Value.toInt? with
  | none => decide
  | some n =>
    obtain ⟨v, -, hv⟩ := Option.bind_eq_some_iff.mp hamount
    exact Value.fits64_of_toInt? hv

theorem evalIn_ofField (d : Document) (field : String) :
    (Value.ofField field).evalIn d = getPath? d field := by
  have hlist : ("$" ++ field).toList = '$' :: field.toList := by simp
  simp only [Value.ofField, Value.evalIn, hlist, String.ofList_toList]

/-- A sum of integers is their tally. -/
theorem toInt?_sum (h : ∀ d ∈ docs, AddsInteger field d) :
    (Total.ofDocuments ⟨field, .sum⟩ docs).toInt? = some (tally 0 (docs.map (amount field))) := by
  -- general over the total that is reached, for the induction on the documents
  suffices hrun : ∀ (total : Value) (n : Int), total.toInt? = some n →
      ((Accumulator.valuesOf (.ofField field) docs).foldl Accumulator.addTo total).toInt? =
        some (tally n (docs.map (amount field))) from hrun (.int32 0) 0 rfl
  induction docs with
  | nil => exact fun total n htotal => htotal
  | cons d rest ih =>
    intro total n htotal
    have ih := ih fun e he => h e (List.mem_cons_of_mem _ he)
    -- a missing value or a null adds nothing, on either side
    have hskip : amount field d = 0 →
        tally n ((d :: rest).map (amount field)) = tally n (rest.map (amount field)) := by
      intro hamount
      rw [List.map_cons, tally, hamount, Int.add_zero, if_pos (Value.fits64_of_toInt? htotal)]
    rw [Accumulator.valuesOf, List.filterMap_cons, evalIn_ofField]
    cases hget : getPath? d field with
    | none =>
      rw [hskip (by rw [amount, hget]; rfl)]
      exact ih total n htotal
    | some v =>
      rcases h d List.mem_cons_self v hget with rfl | hinteger
      · rw [hskip (by rw [amount, hget]; rfl)]
        exact ih total n htotal
      · obtain ⟨i, hi⟩ := Value.exists_toInt? hinteger
        have hkept : (some v).filter (fun v => !v.isNull) = some v := by
          cases v with
          | int32 | int64 => rfl
          | _ => cases hi
        have hamount : amount field d = i := by
          rw [amount, hget, Option.bind_some, hi, Option.getD_some]
        have hrun := ih _ _ (Value.toInt?_addTo htotal hi)
        rw [hkept, List.map_cons, tally, hamount, ← apply_ite (tally · (rest.map (amount field)))]
        exact hrun

/-- The orders of documents give the orders of what the selected ones add. -/
theorem forall_perm_iff {selected : List Document} (hselect : select filter docs = .ok selected)
    {P : List Int → Prop} :
    (∀ others : List Document, others.Perm docs →
      P ((others.filter filter.selects).map (amount field))) ↔
      ∀ l, l.Perm (selected.map (amount field)) → P l := by
  obtain rfl := eq_filter_of_select hselect
  constructor
  · intro h l hl
    -- the selected documents come first, in the order that gives the list
    obtain ⟨chosen, rfl, hchosen⟩ : ∃ chosen, l = List.map (amount field) chosen ∧
        chosen.Perm (docs.filter filter.selects) := by
      have hcomp := congrFun (congrFun (List.eq_map_comp_perm (amount field)) l)
        (docs.filter filter.selects)
      exact hcomp.mpr hl
    have hall : chosen.filter filter.selects = chosen := List.filter_eq_self.mpr fun d hd =>
      (List.mem_filter.mp (hchosen.subset hd)).2
    have hnone : (docs.filter fun d => !filter.selects d).filter filter.selects = [] :=
      List.filter_eq_nil_iff.mpr fun d hd htrue => by
        have hfalse := (List.mem_filter.mp hd).2
        rw [htrue] at hfalse
        cases hfalse
    have hperm : (chosen ++ docs.filter fun d => !filter.selects d).Perm docs :=
      (hchosen.append_right _).trans (List.filter_append_perm _ _)
    have hP := h _ hperm
    rwa [List.filter_append, hall, hnone, List.append_nil] at hP
  · intro h others hothers
    exact h _ ((hothers.filter _).map _)

end Document

namespace Model

variable {m : Model} {collection : String → List Document} {kwargs filter : Document}
  {field : String} {selected : List Document} {s : Store} {n : Int}

/-- The sum of the field over the matching documents is the integer. -/
def SumsTo (m : Model) (collection : String → List Document) (field : String) (kwargs : Document)
    (s : Store) (n : Int) : Prop :=
  ∃ v, m.total collection ⟨field, .sum⟩ kwargs s = (.ok v, s) ∧ v.toInt? = some n

/-- Some order of the documents gives the integer as the sum. -/
def MaySumTo (m : Model) (collection : String → List Document) (field : String)
    (kwargs : Document) (s : Store) (n : Int) : Prop :=
  ∃ docs, docs.Perm s.documents ∧ m.SumsTo collection field kwargs { s with documents := docs } n

/-- In any order of the documents, the sum is the tally of what the selected ones add. -/
theorem sumsTo_iff {f : Field} (hdeclared : m.schema.declared field = .ok f)
    (hfilter : m.filter kwargs = .ok filter)
    (hselect : Document.select filter s.documents = .ok selected)
    (hall : ∀ d ∈ selected, Document.AddsInteger field d) {docs : List Document}
    (hdocs : docs.Perm s.documents) :
    m.SumsTo collection field kwargs { s with documents := docs } n ↔
      tally 0 ((docs.filter filter.selects).map (Document.amount field)) = n := by
  -- in any order of the store, the filter selects the same documents
  have hselected : Document.select filter docs = .ok (docs.filter filter.selects) :=
    Document.select_of_satisfies fun d hd =>
      Document.satisfies_of_select hselect (hdocs.subset hd)
  have hadds : ∀ d ∈ docs.filter filter.selects, Document.AddsInteger field d := by
    intro d hd
    rw [Document.eq_filter_of_select hselect] at hall
    exact hall d ((hdocs.filter _).subset hd)
  have htotal : m.total collection ⟨field, .sum⟩ kwargs { s with documents := docs } =
      (.ok (Total.ofDocuments ⟨field, .sum⟩ (docs.filter filter.selects)),
        { s with documents := docs }) :=
    total_apply hdeclared hfilter hselected
  rw [SumsTo, htotal]
  constructor
  · rintro ⟨v, hv, hn⟩
    cases hv
    exact Option.some.inj ((Document.toInt?_sum hadds).symm.trans hn)
  · rintro rfl
    exact ⟨_, rfl, Document.toInt?_sum hadds⟩

/-- The sums that orders of the documents give are the tallies of the orders of the amounts. -/
theorem maySumTo_iff {f : Field} (hdeclared : m.schema.declared field = .ok f)
    (hfilter : m.filter kwargs = .ok filter)
    (hselect : Document.select filter s.documents = .ok selected)
    (hall : ∀ d ∈ selected, Document.AddsInteger field d) :
    m.MaySumTo collection field kwargs s n ↔
      ∃ l, l.Perm (selected.map (Document.amount field)) ∧ tally 0 l = n := by
  have horders : (∀ docs : List Document, docs.Perm s.documents →
      tally 0 ((docs.filter filter.selects).map (Document.amount field)) ≠ n) ↔
      ∀ l, l.Perm (selected.map (Document.amount field)) → tally 0 l ≠ n :=
    Document.forall_perm_iff (P := fun l => tally 0 l ≠ n) hselect
  constructor
  · rintro ⟨docs, hdocs, hn⟩
    by_contra hnone
    rw [sumsTo_iff hdeclared hfilter hselect hall hdocs] at hn
    exact horders.mpr (fun l hl hn => hnone ⟨l, hl, hn⟩) docs hdocs hn
  · rintro ⟨l, hl, hn⟩
    by_contra hnone
    refine horders.mp (fun docs hdocs hn => hnone ⟨docs, hdocs, ?_⟩) l hl hn
    exact (sumsTo_iff hdeclared hfilter hselect hall hdocs).mpr hn

/-- In every order of the documents the sum is an integer. It is the exact sum in every order when
the positive amounts alone and the negative ones alone have sums of 64 bits, and only then; also
only then do all orders agree, if the sum has 64 bits. -/
theorem sums_are_exact_iff {f : Field} (hdeclared : m.schema.declared field = .ok f)
    (hfilter : m.filter kwargs = .ok filter)
    (hselect : Document.select filter s.documents = .ok selected)
    (hall : ∀ d ∈ selected, Document.AddsInteger field d) :
    let amounts := selected.map (Document.amount field)
    let InRange := gains amounts ≤ 9223372036854775807 ∧ -9223372036854775808 ≤ losses amounts
    (∀ docs, docs.Perm s.documents → ∃ n, Fits64 n ∧
      m.SumsTo collection field kwargs { s with documents := docs } n) ∧
    ((∀ docs, docs.Perm s.documents →
      m.SumsTo collection field kwargs { s with documents := docs } amounts.sum) ↔ InRange) ∧
    (Fits64 amounts.sum →
      ((∀ n n', m.MaySumTo collection field kwargs s n → m.MaySumTo collection field kwargs s n' →
        n = n') ↔ InRange)) := by
  intro amounts InRange
  -- a run is the tally of the amounts in the order the documents are stored in
  have hsums : ∀ docs, docs.Perm s.documents → ∀ n,
      m.SumsTo collection field kwargs { s with documents := docs } n ↔
        tally 0 ((docs.filter filter.selects).map (Document.amount field)) = n :=
    fun docs hdocs n => sumsTo_iff hdeclared hfilter hselect hall hdocs
  have hmay : ∀ n, m.MaySumTo collection field kwargs s n ↔
      ∃ l, l.Perm amounts ∧ tally 0 l = n :=
    fun n => maySumTo_iff hdeclared hfilter hselect hall
  have hfits : ∀ n ∈ amounts, Fits64 n := by
    intro n hn
    obtain ⟨d, -, rfl⟩ := List.mem_map.mp hn
    exact Document.fits64_amount field d
  refine ⟨fun docs hdocs => ?_, ?_, fun hsum => ?_⟩
  · exact ⟨_, fits64_tally (by decide) _, (hsums docs hdocs _).mpr rfl⟩
  · -- every order of the store is an order of the amounts, and the other way round
    calc _ ↔ ∀ docs : List Document, docs.Perm s.documents →
          tally 0 ((docs.filter filter.selects).map (Document.amount field)) = amounts.sum :=
        forall₂_congr fun docs hdocs => hsums docs hdocs _
      _ ↔ ∀ l, l.Perm amounts → tally 0 l = amounts.sum :=
        Document.forall_perm_iff (P := fun l => tally 0 l = amounts.sum) hselect
      _ ↔ InRange := tally_eq_sum_iff hfits
  · rw [← show _ ↔ InRange from tally_agree_iff hfits hsum]
    constructor
    · intro h l l' hl hl'
      exact h _ _ ((hmay _).mpr ⟨l, hl, rfl⟩) ((hmay _).mpr ⟨l', hl', rfl⟩)
    · intro h n n' hn hn'
      obtain ⟨l, hl, rfl⟩ := (hmay n).mp hn
      obtain ⟨l', hl', rfl⟩ := (hmay n').mp hn'
      exact h l l' hl hl'

/-- A store of numbered documents with the values that are given. -/
def numberStore (values : List Value) : Store :=
  { documents := values.zipIdx.map fun entry =>
      [("_id", .int32 (Int32.ofNat entry.2)), ("n", entry.1)]
    ids := ⟨fun _ => ⟨0⟩, 0⟩ }

theorem addsInteger_numberStore {values : List Value}
    (h : ∀ v ∈ values, v = .null ∨ v.isInteger = true) :
    ∀ d ∈ (numberStore values).documents, Document.AddsInteger "n" d := by
  intro d hd v hv
  obtain ⟨entry, hentry, rfl⟩ := List.mem_map.mp hd
  cases hv
  exact h _ (List.fst_mem_of_mem_zipIdx hentry)

/-- The theorem for the largest integer, a null and a small loss, in the order in which they are
stored and in reverse. -/
theorem sums_are_exact_in_reverse :
    let s := numberStore [.int64 9223372036854775807, .null, .int32 (-5)]
    taggedModel.schema.declared "n" = .ok { name := "n", type := .int } ∧
      taggedModel.filter [] = .ok [] ∧ Document.select [] s.documents = .ok s.documents ∧
      (∀ d ∈ s.documents, Document.AddsInteger "n" d) ∧
      taggedModel.SumsTo (fun _ => []) "n" [] s 9223372036854775802 ∧
      taggedModel.SumsTo (fun _ => []) "n" [] { s with documents := s.documents.reverse }
        9223372036854775802 := by
  intro s
  have hall : ∀ d ∈ s.documents, Document.AddsInteger "n" d :=
    addsInteger_numberStore (by simp [Value.isInteger])
  have hdeclared : taggedModel.schema.declared "n" = .ok { name := "n", type := .int } := rfl
  have hfilter : taggedModel.filter [] = .ok [] := rfl
  have hselect : Document.select [] s.documents = .ok s.documents := rfl
  have hexact : ∀ docs, docs.Perm s.documents →
      taggedModel.SumsTo (fun _ => []) "n" [] { s with documents := docs } 9223372036854775802 :=
    (sums_are_exact_iff hdeclared hfilter hselect hall).2.1.mpr (by decide)
  exact ⟨hdeclared, hfilter, hselect, hall, hexact _ (List.Perm.refl _),
    hexact _ (List.reverse_perm _)⟩

/-- An addend with which the total would not fit is dropped, and the next one brings the total
below the sum, which fits and which another order gives. -/
theorem overflowing_addend_is_dropped :
    let s := numberStore [.int64 9223372036854775807, .int32 1, .int32 (-1)]
    let s' := { s with documents := s.documents.reverse }
    (s.documents.map (Document.amount "n")).sum = 9223372036854775807 ∧
      taggedModel.total (fun _ => []) ⟨"n", .sum⟩ [] s = (.ok (.int64 9223372036854775806), s) ∧
      taggedModel.total (fun _ => []) ⟨"n", .sum⟩ [] s' =
        (.ok (.int64 9223372036854775807), s') :=
  ⟨rfl, rfl, rfl⟩

end Model

end DocMapper
