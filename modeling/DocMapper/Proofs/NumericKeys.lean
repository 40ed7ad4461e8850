import Mathlib.Data.EReal.Basic
import DocMapper.Proofs.Candidates
import DocMapper.Proofs.DecimalTexts
import DocMapper.Proofs.Identities

namespace DocMapper

/-! # Numbers as keys

A number is a key by its identity: whole numbers share one notation whatever their width, and any
other double has a text of its own. So numbers have one key exactly when they are one real number,
but for the least integer of 64 bits, whose double is written as a double.
-/

namespace Double

variable {x y : Double} {n : Int}

/-! ## The number that a double denotes -/

/-- The extended real number that a double denotes, if it is a number. -/
noncomputable def toEReal (x : Double) : EReal :=
  if x.isInfinite then if x.isNegative then ⊥ else ⊤
  else ((x.scaled : ℝ) / (unitsPerOne : ℝ) : ℝ)

theorem isFinite_of_not_isInfinite (hnan : x.isNaN = false) (h : x.isInfinite = false) :
    x.isFinite = true := by
  rw [isNaN, decide_eq_false_iff_not] at hnan
  rw [isInfinite, beq_eq_false_iff_ne] at h
  rw [isFinite, decide_eq_true_eq]
  omega

theorem eq_infinity (h : x.isInfinite = true) : x = infinity x.isNegative := by
  rw [isInfinite, beq_iff_eq] at h
  rw [infinity, ← h, ofRank_rank]

/-- A double is a whole number when its value is a multiple of the units of one. -/
theorem toInt?_eq_some_iff :
    x.toInt? = some n ↔ x.isFinite = true ∧ x.scaled = n * unitsPerOne := by
  have hunits := unitsPerOne_pos
  unfold toInt? scaled
  generalize unitsPerOne = units at hunits
  -- numbers are compared in units, which are counted by the same factor
  have hcancel : ∀ i : Int, i * units = n * units ↔ i = n :=
    fun i => Int.mul_eq_mul_right_iff (by omega)
  -- a double is an integer when its magnitude is a whole number of ones
  by_cases hwhole : x.magnitude % units = 0
  · obtain ⟨q, hq⟩ := Nat.dvd_of_mod_eq_zero hwhole
    have hquotient : x.magnitude / units = q := by rw [hq, Nat.mul_div_cancel_left _ hunits]
    have hmagnitude : (x.magnitude : Int) = q * units := by
      rw [hq, Int.natCast_mul, Int.mul_comm]
    have hnegated : -((q : Int) * units) = -q * units := (Int.neg_mul _ _).symm
    rw [hwhole, hquotient, hmagnitude, hnegated, beq_self_eq_true, Bool.and_true]
    cases x.isFinite with
    | false => exact iff_of_false nofun fun h => Bool.false_ne_true h.1
    | true =>
      rw [if_pos rfl, Option.some.injEq, and_iff_right rfl]
      split
      · exact (hcancel _).symm
      · exact (hcancel _).symm
  · have hnot : ∀ i : Int, i = n * units → i.natAbs ≠ x.magnitude := by
      rintro i rfl habs
      rw [Int.natAbs_mul, Int.natAbs_natCast] at habs
      exact hwhole (habs ▸ Nat.mul_mod_left _ _)
    have hbeq : (x.magnitude % units == 0) = false := beq_eq_false_iff_ne.mpr hwhole
    rw [hbeq, Bool.and_false, if_neg Bool.false_ne_true]
    refine iff_of_false nofun fun h => hnot _ h.2 ?_
    split
    · rw [Int.natAbs_neg, Int.natAbs_natCast]
    · rw [Int.natAbs_natCast]

theorem natAbs_scaled (x : Double) : x.scaled.natAbs = x.magnitude := by
  unfold scaled
  split
  · rw [Int.natAbs_neg, Int.natAbs_natCast]
  · rw [Int.natAbs_natCast]

theorem magnitude_of_toInt? (h : x.toInt? = some n) : x.magnitude = n.natAbs * unitsPerOne := by
  rw [← natAbs_scaled, (toInt?_eq_some_iff.mp h).2, Int.natAbs_mul, Int.natAbs_natCast]

/-- Both zeros are the whole number. -/
theorem magnitude_pos (hfinite : x.isFinite = true) (h : x.toInt? ≠ some 0) :
    0 < x.magnitude := by
  refine Nat.pos_of_ne_zero fun hzero => h (toInt?_eq_some_iff.mpr ⟨hfinite, ?_⟩)
  rw [Int.zero_mul, ← Int.natAbs_eq_zero, natAbs_scaled, hzero]

theorem magnitude_lt_of_isInfinite (hx : x.isFinite = true) (hy : y.isInfinite = true) :
    x.magnitude < y.magnitude := by
  rw [isFinite, decide_eq_true_eq] at hx
  rw [isInfinite, beq_iff_eq] at hy
  exact magnitudeOfRank_strictMono (hy ▸ hx)

theorem magnitude_pos_of_isInfinite (h : x.isInfinite = true) : 0 < x.magnitude := by
  have hzero : (ofInt 0).isFinite = true := by decide +kernel
  exact Nat.zero_lt_of_lt (magnitude_lt_of_isInfinite hzero h)

theorem scaled_ne_of_isInfinite (hx : x.isFinite = true) (hy : y.isInfinite = true) :
    x.scaled ≠ y.scaled := by
  have hlt := magnitude_lt_of_isInfinite hx hy
  unfold scaled
  split <;> split <;> omega

theorem toEReal_of_isFinite (h : x.isFinite = true) :
    x.toEReal = ((x.scaled : ℝ) / (unitsPerOne : ℝ) : ℝ) := by
  have hinfinite : x.isInfinite = false := by
    rw [isFinite, decide_eq_true_eq] at h
    rw [isInfinite, beq_eq_false_iff_ne]
    omega
  rw [toEReal, hinfinite, if_neg Bool.false_ne_true]

theorem coe_ne_toEReal_of_isInfinite (h : x.isInfinite = true) (r : ℝ) :
    (r : EReal) ≠ x.toEReal := by
  rw [toEReal, h, if_pos rfl]
  split
  · exact EReal.coe_ne_bot r
  · exact EReal.coe_ne_top r

/-- Doubles denote one number when they are at one place. -/
theorem toEReal_eq_iff (hx : x.isNaN = false) (hy : y.isNaN = false) :
    x.toEReal = y.toEReal ↔ x.scaled = y.scaled := by
  cases hxi : x.isInfinite with
  | false =>
    have hxf := isFinite_of_not_isInfinite hx hxi
    rw [toEReal_of_isFinite hxf]
    cases hyi : y.isInfinite with
    | false =>
      rw [toEReal_of_isFinite (isFinite_of_not_isInfinite hy hyi), EReal.coe_eq_coe_iff,
        div_left_inj' (Nat.cast_ne_zero.mpr unitsPerOne_pos.ne'), Int.cast_inj]
    | true =>
      exact iff_of_false (coe_ne_toEReal_of_isInfinite hyi _) (scaled_ne_of_isInfinite hxf hyi)
  | true =>
    cases hyi : y.isInfinite with
    | false =>
      have hyf := isFinite_of_not_isInfinite hy hyi
      rw [toEReal_of_isFinite hyf]
      exact iff_of_false (coe_ne_toEReal_of_isInfinite hxi _).symm
        (scaled_ne_of_isInfinite hyf hxi).symm
    | true =>
      -- the infinities share their magnitude, and differ by sign
      have hmagnitude : x.magnitude = y.magnitude := by
        rw [isInfinite, beq_iff_eq] at hxi hyi
        rw [magnitude, magnitude, hxi, hyi]
      have hpos : 0 < y.magnitude := magnitude_pos_of_isInfinite hyi
      rw [toEReal, toEReal, hxi, hyi, if_pos rfl, if_pos rfl, scaled, scaled, hmagnitude]
      cases x.isNegative <;> cases y.isNegative
      · exact iff_of_true rfl rfl
      · exact iff_of_false top_ne_bot fun h => by simp at h; omega
      · exact iff_of_false bot_ne_top fun h => by simp at h; omega
      · exact iff_of_true rfl rfl

/-- A double denotes an integer when it is the whole number. -/
theorem intCast_eq_toEReal_iff (hx : x.isNaN = false) :
    ((n : ℝ) : EReal) = x.toEReal ↔ x.toInt? = some n := by
  rw [toInt?_eq_some_iff]
  cases hxi : x.isInfinite with
  | false =>
    have hfinite := isFinite_of_not_isInfinite hx hxi
    have hunits : (unitsPerOne : ℝ) ≠ 0 := Nat.cast_ne_zero.mpr unitsPerOne_pos.ne'
    rw [toEReal_of_isFinite hfinite, EReal.coe_eq_coe_iff, eq_div_iff hunits]
    refine ⟨fun h => ⟨hfinite, ?_⟩, fun ⟨_, h⟩ => ?_⟩
    · exact_mod_cast h.symm
    · exact_mod_cast h.symm
  | true =>
    refine iff_of_false (coe_ne_toEReal_of_isInfinite hxi _) fun ⟨hfinite, _⟩ => ?_
    exact absurd (magnitude_lt_of_isInfinite hfinite hxi) (Nat.lt_irrefl _)

/-- Only zero is written twice, and it is a whole number. -/
theorem toEReal_inj (hx : x.isNaN = false) (hy : y.isNaN = false) (hzero : x.toInt? ≠ some 0)
    (h : x.toEReal = y.toEReal) : x = y := by
  have hpos : 0 < x.magnitude := by
    cases hinfinite : x.isInfinite with
    | true => exact magnitude_pos_of_isInfinite hinfinite
    | false => exact magnitude_pos (isFinite_of_not_isInfinite hx hinfinite) hzero
  refine eq_of_scaled ((toEReal_eq_iff hx hy).mp h) fun hscaled => ?_
  rw [← natAbs_scaled, hscaled] at hpos
  exact absurd hpos (by decide)

/-! ## Texts of doubles -/

/-- A finite double has a text of digits, a sign and points. -/
theorem not_mem_text {c : Char} (hfinite : x.isFinite = true) (hpos : 0 < x.magnitude)
    (hdigit : c.isDigit = false) (hpoint : c ≠ '.') (hminus : c ≠ '-') : c ∉ x.text.toList := by
  rw [text_of_isFinite hfinite hpos, String.toList_append, List.mem_append]
  rintro (hsign | hmem)
  · split at hsign
    · exact hminus (List.mem_singleton.mp hsign)
    · exact List.not_mem_nil hsign
  · rcases Decimal.isDigit_of_mem_text hmem with h | h
    · exact Bool.false_ne_true (hdigit.symm.trans h)
    · exact hpoint h

end Double

namespace Identity

variable {x : Double}

/-- The double that an identity writes in a notation of its own. -/
def double? : Identity → Option Double
  | [.bareDouble x] => some x
  | [.objectStart, .text "$numberDouble", .text s, .objectEnd] =>
    some (if s = "Infinity" then .infinity false
      else if s = "-Infinity" then .infinity true else .ofText s)
  | _ => none

/-- A double that denotes an integer of less than 64 bits is written as the whole number. -/
theorem ofDouble_of_toInt? {n : Int} (h : x.toInt? = some n)
    (hn : n.natAbs ≤ Int64.maxValue.toInt.toNat) : ofDouble x = ofInt n := by
  simp only [ofDouble, h, if_pos hn]

/-- Any other double has a notation that only doubles have. -/
theorem ofDouble_of_large
    (hlarge : ∀ n, x.toInt? = some n → Int64.maxValue.toInt.toNat < n.natAbs) :
    ofDouble x = ofOwnDouble x := by
  unfold ofDouble
  split
  · rename_i n hn
    rw [if_neg (Nat.not_le.mpr (hlarge n hn))]
  · rfl

theorem double?_ofInt (n : Int) : (ofInt n).double? = none := rfl

theorem double?_taggedText {s : String} (h : 'I' ∉ s.toList) :
    (taggedText "$numberDouble" s).double? = some (.ofText s) := by
  have hne : ∀ t : String, 'I' ∈ t.toList → s ≠ t := fun t ht heq => h (heq ▸ ht)
  have hread : (taggedText "$numberDouble" s).double? = some (if s = "Infinity" then .infinity false
      else if s = "-Infinity" then .infinity true else .ofText s) := rfl
  rw [hread, if_neg (hne _ (by decide)), if_neg (hne _ (by decide))]

/-- A double that is not written as a whole number is read from its identity. -/
theorem double?_ofDouble (hnan : x.isNaN = false)
    (hlarge : ∀ n, x.toInt? = some n → Int64.maxValue.toInt.toNat < n.natAbs) :
    (ofDouble x).double? = some x := by
  rw [ofDouble_of_large hlarge]
  unfold ofOwnDouble
  dsimp only
  rw [hnan, if_neg Bool.false_ne_true]
  -- infinities have a word of their own, which no text of digits is
  cases hinfinite : x.isInfinite with
  | true =>
    rw [if_pos rfl, Double.eq_infinity hinfinite]
    cases x.isNegative <;> rfl
  | false =>
    have hfinite := Double.isFinite_of_not_isInfinite hnan hinfinite
    rw [if_neg Bool.false_ne_true]
    cases hn : x.toInt? with
    | some n =>
      have hn' := hlarge n hn
      -- a double as large as this is written with a point, and is read back
      have hmagnitude : 10 ^ 16 * Double.unitsPerOne ≤ x.magnitude := by
        rw [Double.magnitude_of_toInt? hn]
        exact Nat.mul_le_mul_right _ ((show 10 ^ 16 ≤ _ by decide).trans hn'.le)
      have hpos : 0 < x.magnitude :=
        Double.magnitude_pos hfinite fun hzero => by rw [hn, Option.some.injEq] at hzero; omega
      have htext : 'I' ∉ (x.text ++ ".0").toList := by
        rw [String.toList_append, List.mem_append, not_or]
        exact ⟨Double.not_mem_text hfinite hpos (by decide) (by decide) (by decide), by decide⟩
      rw [Option.isSome_some, if_pos rfl, double?_taggedText htext,
        Double.ofText_text_point hfinite hmagnitude]
    | none =>
      rw [Option.isSome_none, if_neg Bool.false_ne_true]
      split
      · rfl
      · have hpos : 0 < x.magnitude := Double.magnitude_pos hfinite (by rw [hn]; nofun)
        have htext : 'I' ∉ x.text.toList :=
          Double.not_mem_text hfinite hpos (by decide) (by decide) (by decide)
        rw [double?_taggedText htext, Double.ofText_text hfinite hpos]

end Identity

/-! ## Numbers with one identity -/

namespace Value

variable {a b v w : Value} {p q : EReal} {m n : Int} {x y : Double}

/-- The extended real number that a number denotes. -/
noncomputable def real? : Value → Option EReal
  | .int32 n => some ((n.toInt : ℝ) : EReal)
  | .int64 n => some ((n.toInt : ℝ) : EReal)
  | .double x => if x.isNaN then none else some x.toEReal
  | _ => none

/-- One number is the least integer of 64 bits, the other the double of the same value. -/
def AreLowest (a b : Value) : Prop :=
  a = .int64 Int64.minValue ∧ b = .double (.ofInt (-9223372036854775808)) ∨
    a = .double (.ofInt (-9223372036854775808)) ∧ b = .int64 Int64.minValue

theorem areLowest_comm : a.AreLowest b ↔ b.AreLowest a := by
  unfold AreLowest
  tauto

/-- The number is written as a whole number. Of those with an absolute value of 64 bits there is
one. -/
structure IsWhole (v : Value) (p : EReal) (n : Int) : Prop where
  written : v.identity = Identity.ofInt n
  denoted : p = ((n : ℝ) : EReal)
  bounded : Int64.maxValue.toInt.toNat < n.natAbs → v = .int64 Int64.minValue

/-- The number is a double that is not written as a whole number. -/
structure IsOwn (v : Value) (p : EReal) (x : Double) : Prop where
  double : v = .double x
  number : x.isNaN = false
  denoted : p = x.toEReal
  large : ∀ n, x.toInt? = some n → Int64.maxValue.toInt.toNat < n.natAbs

theorem isWhole_or_isOwn (h : v.real? = some p) : (∃ n, v.IsWhole p n) ∨ ∃ x, v.IsOwn p x := by
  cases v with
  -- integers are whole; of 64 bits, only the least has no positive counterpart
  | int32 n =>
    refine Or.inl ⟨_, rfl, (Option.some.inj h).symm, fun hlarge => ?_⟩
    have hmax : Int64.maxValue.toInt.toNat = 9223372036854775807 := rfl
    have hlow : -2147483648 ≤ n.toInt := n.minValue_le_toInt
    have hhigh : n.toInt ≤ 2147483647 := n.toInt_le
    omega
  | int64 n =>
    refine Or.inl ⟨_, rfl, (Option.some.inj h).symm, fun hlarge => ?_⟩
    have hmax : Int64.maxValue.toInt.toNat = 9223372036854775807 := rfl
    have hmin : Int64.minValue.toInt = -9223372036854775808 := rfl
    have hlow := n.minValue_le_toInt
    have hhigh := n.toInt_le
    rw [Int64.toInt_inj.mp (show n.toInt = Int64.minValue.toInt by omega)]
  | double x =>
    rw [real?] at h
    cases hnan : x.isNaN with
    | true =>
      rw [hnan, if_pos rfl] at h
      cases h
    | false =>
      rw [hnan, if_neg Bool.false_ne_true] at h
      have hp := (Option.some.inj h).symm
      -- a double that is an integer in the range is written as that integer
      by_cases hsmall : ∃ n, x.toInt? = some n ∧ n.natAbs ≤ Int64.maxValue.toInt.toNat
      · obtain ⟨n, hn, hle⟩ := hsmall
        refine Or.inl ⟨n, ?_, ?_, fun hlarge => absurd hle (Nat.not_le.mpr hlarge)⟩
        · rw [identity_double, Identity.ofDouble_of_toInt? hn hle]
        · rw [hp, (Double.intCast_eq_toEReal_iff hnan).mpr hn]
      · refine Or.inr ⟨x, rfl, hnan, hp, fun n hn => ?_⟩
        exact Nat.not_le.mp fun hle => hsmall ⟨n, hn, hle⟩
  | _ => cases h

theorem toInt?_lowest :
    (Double.ofInt (-9223372036854775808)).toInt? = some (-9223372036854775808) := by
  decide +kernel

theorem IsOwn.double?_identity (h : v.IsOwn p x) : v.identity.double? = some x := by
  rw [h.double, identity_double, Identity.double?_ofDouble h.number h.large]

/-- A whole number and a double with a notation of its own differ, unless they are the lowest. -/
theorem IsWhole.apart (hv : v.IsWhole p n) (hw : w.IsOwn q x) :
    v.identity ≠ w.identity ∧ (p = q ↔ v.AreLowest w) := by
  -- the least integer is the one whole number the guard of a double misses
  have hmin : v = .int64 Int64.minValue → n = -9223372036854775808 := fun heq =>
    Identity.ofInt_inj (hv.written.symm.trans (heq ▸ rfl))
  constructor
  · -- no whole number is written the way a double is
    intro heq
    have hread := hw.double?_identity
    rw [← heq, hv.written, Identity.double?_ofInt] at hread
    cases hread
  · rw [hv.denoted, hw.denoted]
    constructor
    · intro heq
      -- a double with a key of its own that is whole is beyond 64 bits or at their lower end
      have hv' := hv.bounded (hw.large n ((Double.intCast_eq_toEReal_iff hw.number).mp heq))
      rw [hmin hv', (Double.intCast_eq_toEReal_iff (Double.isNaN_ofInt _)).mpr toInt?_lowest] at heq
      refine Or.inl ⟨hv', ?_⟩
      rw [hw.double, Double.toEReal_inj (Double.isNaN_ofInt _) hw.number ?_ heq]
      rw [toInt?_lowest]
      nofun
    · rintro (⟨hv', hw'⟩ | ⟨-, hw'⟩)
      · rw [hw.double, Value.double.injEq] at hw'
        rw [hmin hv', Double.intCast_eq_toEReal_iff hw.number, hw', toInt?_lowest]
      · rw [hw.double] at hw'
        cases hw'

/-- The double of the least integer of 64 bits is not written as a whole number. -/
theorem IsWhole.ne_lowest (h : v.IsWhole p n) :
    v ≠ .double (.ofInt (-9223372036854775808)) := by
  rintro rfl
  refine (h.apart ⟨rfl, Double.isNaN_ofInt _, rfl, fun n hn => ?_⟩).1 rfl
  rw [toInt?_lowest, Option.some.injEq] at hn
  rw [← hn]
  decide

/-- Whole numbers have one identity when they are one number. -/
theorem IsWhole.identity_eq_iff (ha : a.IsWhole p m) (hb : b.IsWhole q n) :
    a.identity = b.identity ↔ p = q := by
  rw [ha.written, hb.written, ha.denoted, hb.denoted, EReal.coe_eq_coe_iff, Int.cast_inj]
  exact ⟨Identity.ofInt_inj, congrArg Identity.ofInt⟩

/-- Other doubles have one identity when they are one number: they are read back from it. -/
theorem IsOwn.identity_eq_iff (ha : a.IsOwn p x) (hb : b.IsOwn q y) :
    a.identity = b.identity ↔ p = q := by
  rw [ha.denoted, hb.denoted]
  constructor
  · intro heq
    have hread := ha.double?_identity
    rw [heq, hb.double?_identity] at hread
    rw [Option.some.inj hread]
  · intro heq
    -- the zeros are whole numbers, so that no other double denotes the same number
    have hzero : x.toInt? ≠ some 0 := fun hzero => absurd (ha.large 0 hzero) (Nat.not_lt_zero _)
    rw [ha.double, hb.double, Double.toEReal_inj ha.number hb.number hzero heq]

theorem IsOwn.ne_int64 (h : v.IsOwn p x) (n : Int64) : v ≠ .int64 n := by
  intro heq
  cases h.double.symm.trans heq

/-- Numbers have one identity when they are one real number, but for the lowest. -/
theorem identity_eq_iff_real (ha : a.real? = some p) (hb : b.real? = some q) :
    (a.identity = b.identity ↔ p = q) ↔ ¬a.AreLowest b := by
  rcases isWhole_or_isOwn ha with ⟨m, ha⟩ | ⟨x, ha⟩
  · rcases isWhole_or_isOwn hb with ⟨n, hb⟩ | ⟨y, hb⟩
    · refine iff_of_true (ha.identity_eq_iff hb) ?_
      rintro (⟨-, heq⟩ | ⟨heq, -⟩)
      · exact hb.ne_lowest heq
      · exact ha.ne_lowest heq
    · obtain ⟨hne, hiff⟩ := ha.apart hb
      rw [iff_false_left hne, hiff]
  · rcases isWhole_or_isOwn hb with ⟨n, hb⟩ | ⟨y, hb⟩
    · obtain ⟨hne, hiff⟩ := hb.apart ha
      rw [iff_false_left hne.symm, eq_comm, hiff, areLowest_comm]
    · refine iff_of_true (ha.identity_eq_iff hb) ?_
      rintro (⟨heq, -⟩ | ⟨-, heq⟩)
      · exact ha.ne_int64 _ heq
      · exact hb.ne_int64 _ heq

end Value

/-! ## Numbers in the query field -/

namespace Reconciler

open Value

variable {r : Reconciler} {d e : Document} {field : String} {a b : Value} {p q : EReal}

theorem key?_of_real? (hr : r.queryFields = [field]) (hd : Document.get? d field = some a)
    (ha : a.real? = some p) : r.key? d = some [a.identity] := by
  have hnull : a ≠ .null := by
    rintro rfl
    cases ha
  have hcomparand : comparand field a = a := by
    unfold comparand
    split
    · cases a with
      | string | array => cases ha
      | _ => rfl
    · rfl
  have hidentity : identity? field d = some a.identity :=
    identity?_eq_some.mpr ⟨a, hd, hnull, by rw [hcomparand]⟩
  rw [key?_eq_mapM, hr, mapM_eq_some, List.map_singleton, hidentity]
  rfl

/-- Numbers in the query field give keys, and the keys agree exactly when the numbers are one real
number: always, unless one is the least integer of 64 bits and the other its double. -/
theorem numeric_keys_agree_iff (hr : r.queryFields = [field])
    (hd : Document.get? d field = some a) (he : Document.get? e field = some b)
    (ha : a.real? = some p) (hb : b.real? = some q) :
    ∃ k l, r.key? d = some k ∧ r.key? e = some l ∧ ((k = l ↔ p = q) ↔ ¬a.AreLowest b) := by
  refine ⟨_, _, key?_of_real? hr hd ha, key?_of_real? hr he hb, ?_⟩
  rw [List.cons.injEq, and_iff_left rfl]
  exact identity_eq_iff_real ha hb

/-- A reconciler by one field of numbers. -/
def byNumber : Reconciler :=
  { schema := ⟨⟨"t"⟩, [{ name := "n", type := .any }]⟩, queryFields := ["n"] }

/-- The theorem for the negative zero of the doubles and the integer zero: they have one key. -/
theorem numeric_keys_agree_at_zero :
    byNumber.queryFields = ["n"] ∧ (Value.double ⟨0x8000000000000000⟩).real? = some 0 ∧
      (Value.int32 0).real? = some 0 ∧
      byNumber.key? [("n", .double ⟨0x8000000000000000⟩)] = byNumber.key? [("n", .int32 0)] := by
  have hdouble : (Value.double ⟨0x8000000000000000⟩).real? = some 0 := by
    have hzero := (Double.intCast_eq_toEReal_iff (n := 0) (x := ⟨0x8000000000000000⟩)
      (by decide)).mpr (by decide +kernel)
    rw [Int.cast_zero, EReal.coe_zero] at hzero
    exact congrArg some hzero.symm
  have hint : (Value.int32 0).real? = some 0 := by
    have hzero : (Value.int32 0).real? = some (((0 : Int) : ℝ) : EReal) := rfl
    rw [hzero, Int.cast_zero, EReal.coe_zero]
  obtain ⟨k, l, hk, hl, hiff⟩ := numeric_keys_agree_iff (r := byNumber)
    (d := [("n", .double ⟨0x8000000000000000⟩)]) (e := [("n", .int32 0)]) rfl rfl rfl hdouble hint
  have hother : ¬(Value.double ⟨0x8000000000000000⟩).AreLowest (.int32 0) := by
    rintro (⟨h, -⟩ | ⟨-, h⟩)
    · cases h
    · cases h
  exact ⟨rfl, hdouble, hint, hk.trans ((hiff.mpr hother).mpr rfl ▸ hl.symm)⟩

/-- The least integer of 64 bits is one number with its double, but has a key of its own. -/
theorem least_integer_has_two_keys :
    (Value.double ⟨0xc3e0000000000000⟩).real? = (Value.int64 Int64.minValue).real? ∧
      (Value.int64 Int64.minValue).real? = some (((-9223372036854775808 : Int) : ℝ) : EReal) ∧
      byNumber.key? [("n", .double ⟨0xc3e0000000000000⟩)] ≠
        byNumber.key? [("n", .int64 Int64.minValue)] := by
  have hint : (Value.int64 Int64.minValue).real? =
      some (((-9223372036854775808 : Int) : ℝ) : EReal) := rfl
  have hdouble : (Value.double ⟨0xc3e0000000000000⟩).real? =
      some (((-9223372036854775808 : Int) : ℝ) : EReal) :=
    congrArg some ((Double.intCast_eq_toEReal_iff (by decide)).mpr (by decide +kernel)).symm
  refine ⟨hdouble.trans hint.symm, hint, fun heq => ?_⟩
  rw [key?_of_real? rfl rfl hdouble, key?_of_real? rfl rfl hint, Option.some.injEq,
    List.cons.injEq, and_iff_left rfl] at heq
  refine (identity_eq_iff_real hdouble hint).mp (iff_of_true heq rfl) (Or.inr ⟨?_, rfl⟩)
  exact congrArg Value.double (by decide +kernel)

end Reconciler

end DocMapper
