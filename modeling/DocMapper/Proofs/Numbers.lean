import Mathlib.Data.Nat.Log
import DocMapper.Value.Order

namespace DocMapper

/-! # Numbers and their places

A double is the nearest double to its own value, so an integer that a double denotes is rounded to
that double. Whole numbers therefore have one place among the doubles, whatever their width.
-/

namespace Double

variable {x : Double} {n : Int} {rank : Nat}

theorem rank_ofRank (negative : Bool) (h : rank < Nat.pow 2 63) :
    (ofRank negative rank).rank = rank := by
  have hlow : (BitVec.ofBool negative ++ BitVec.ofNat 63 rank).setWidth 63 =
      BitVec.ofNat 63 rank := by
    rw [BitVec.setWidth_append]
    simp
  rw [Double.rank, ofRank, hlow, BitVec.toNat_ofNat]
  exact Nat.mod_eq_of_lt h

theorem isNegative_ofRank (negative : Bool) (rank : Nat) :
    (ofRank negative rank).isNegative = negative := by
  rw [isNegative, ofRank, BitVec.msb_append]
  simp

theorem roundQuotient_mul (n : Nat) {den : Nat} (h : 0 < den) :
    roundQuotient (n * den) (1 * den) = n := by
  simp only [roundQuotient, Nat.one_mul, Nat.mul_mod_left, Nat.mul_div_cancel n h, Nat.mul_zero,
    if_pos h]

/-- A significand on a grid of its own is rounded to itself. -/
theorem nearestRank_mul_pow {significand shift : Nat}
    (hshift : (significand * Nat.pow 2 shift).log2 - 52 = shift) :
    nearestRank (significand * Nat.pow 2 shift) 1 =
      min (shift * binade + significand) infiniteRank := by
  have hpos : 0 < Nat.pow 2 shift := Nat.pow_pos (by decide)
  simp only [nearestRank, Nat.div_one, hshift, roundQuotient_mul significand hpos]

/-- A double below the infinities is the nearest to its own value. -/
theorem nearestRank_magnitudeOfRank (h : rank < infiniteRank) :
    nearestRank (magnitudeOfRank rank) 1 = rank := by
  have hbinade : binade = 2 ^ 52 := rfl
  have hsplit : binade * (rank / binade) + rank % binade = rank := Nat.div_add_mod rank binade
  have hfraction : rank % binade < binade := Nat.mod_lt _ (by decide)
  unfold magnitudeOfRank
  by_cases hexponent : rank / binade = 0
  · -- the smallest doubles lie on the grid of one unit
    have hrank : rank % binade = rank := by rw [hexponent] at hsplit; omega
    have hshift : (rank * Nat.pow 2 0).log2 - 52 = 0 := by
      rw [show Nat.pow 2 0 = 1 from rfl, Nat.mul_one]
      by_cases hzero : rank = 0
      · rw [hzero]
        decide
      · have hlog : rank.log2 < 53 := (Nat.log2_lt hzero).mpr (by omega)
        omega
    have hnearest := nearestRank_mul_pow hshift
    rw [show Nat.pow 2 0 = 1 from rfl, Nat.mul_one, Nat.zero_mul, Nat.zero_add] at hnearest
    rw [if_pos hexponent, hrank, hnearest]
    exact Nat.min_eq_left (Nat.le_of_lt h)
  · -- a normal significand has 53 bits, so its logarithm gives the exponent
    obtain ⟨e, he⟩ := Nat.exists_eq_succ_of_ne_zero hexponent
    have hshift : ((binade + rank % binade) * Nat.pow 2 e).log2 - 52 = e := by
      have hne : (binade + rank % binade) * 2 ^ e ≠ 0 :=
        Nat.mul_ne_zero (by omega) (Nat.pos_iff_ne_zero.mp (Nat.pow_pos (by decide)))
      have hlog : ((binade + rank % binade) * 2 ^ e).log2 = 52 + e := by
        rw [Nat.log2_eq_iff hne]
        constructor
        · rw [Nat.pow_add]
          exact Nat.mul_le_mul_right _ (by omega)
        · rw [show 52 + e + 1 = 53 + e by omega, Nat.pow_add]
          exact Nat.mul_lt_mul_of_pos_right (by omega) (Nat.pow_pos (by decide))
      change ((binade + rank % binade) * 2 ^ e).log2 - 52 = e
      omega
    have hrank : e * binade + (binade + rank % binade) = rank := by
      rw [he, Nat.succ_eq_add_one, Nat.mul_add, Nat.mul_comm binade e] at hsplit
      omega
    rw [if_neg hexponent, he, Nat.succ_sub_one, nearestRank_mul_pow hshift, hrank]
    exact Nat.min_eq_left (Nat.le_of_lt h)

theorem rank_nearest (negative : Bool) (num den : Nat) :
    (nearest negative num den).rank = nearestRank num den := by
  have hle : nearestRank num den ≤ infiniteRank := Nat.min_le_right _ _
  have hbound : infiniteRank < Nat.pow 2 63 := by decide
  exact rank_ofRank negative (Nat.lt_of_le_of_lt hle hbound)

/-- Rounding gives a number or an infinity. -/
theorem isNaN_nearest (negative : Bool) (num den : Nat) :
    (nearest negative num den).isNaN = false := by
  rw [isNaN, rank_nearest, decide_eq_false_iff_not, Nat.not_lt]
  exact Nat.min_le_right _ _

theorem isNaN_ofInt (n : Int) : (ofInt n).isNaN = false := isNaN_nearest _ _ _

/-- The integer that a double denotes is rounded to a double of the same value. -/
theorem scaled_ofInt (h : x.toInt? = some n) : (ofInt n).scaled = x.scaled ∧ x.isNaN = false := by
  unfold toInt? at h
  split at h
  swap
  · cases h
  rename_i hcond
  rw [Bool.and_eq_true, beq_iff_eq] at hcond
  obtain ⟨hfinite, hwhole⟩ := hcond
  have hrank : x.rank < infiniteRank := by simpa [isFinite] using hfinite
  have hmagnitude : x.magnitude / unitsPerOne * unitsPerOne = x.magnitude :=
    Nat.div_mul_cancel (Nat.dvd_of_mod_eq_zero hwhole)
  have hn : n.natAbs = x.magnitude / unitsPerOne := by
    rw [← Option.some.inj h]
    split
    · rw [Int.natAbs_neg, Int.natAbs_natCast]
    · rw [Int.natAbs_natCast]
  have hranks : (ofInt n).rank = x.rank := by
    rw [ofInt, rank_nearest, hn, hmagnitude]
    exact nearestRank_magnitudeOfRank hrank
  have hmagnitudes : (ofInt n).magnitude = x.magnitude := by rw [magnitude, magnitude, hranks]
  have hnegative : (ofInt n).isNegative = decide (n < 0) := isNegative_ofRank _ _
  refine ⟨?_, by simpa [isNaN] using Nat.le_of_lt hrank⟩
  rw [scaled, scaled, hmagnitudes, hnegative]
  -- the signs agree, except that there is only one zero among the integers
  by_cases hzero : x.magnitude = 0
  · simp [hzero]
  · have hpos : 0 < x.magnitude / unitsPerOne := by
      refine Nat.pos_of_ne_zero fun hquotient => hzero ?_
      rw [← hmagnitude, hquotient, Nat.zero_mul]
    have hsign : decide (n < 0) = x.isNegative := by
      rw [← Option.some.inj h]
      generalize x.magnitude / unitsPerOne = quotient at hpos
      cases x.isNegative with
      | false =>
        rw [if_neg Bool.false_ne_true]
        exact decide_eq_false (by omega)
      | true =>
        rw [if_pos rfl]
        exact decide_eq_true (by omega)
    rw [hsign]

end Double

end DocMapper
