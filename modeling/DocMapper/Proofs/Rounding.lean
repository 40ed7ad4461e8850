import Mathlib.Tactic.Ring
import DocMapper.Proofs.Numbers

namespace DocMapper

/-! # Rounding to the nearest double

Between two doubles that follow each other, rounding turns at the midpoint, and at the midpoint it
goes to the even one. This fixes the double that a quotient is rounded to. Rounding is therefore
monotone, integers of up to 53 bits are told apart by it, and what lies close enough to a double is
rounded to that double.
-/

namespace Double

variable {num den num' den' rank rank' shift significand : Nat} {m n : Int} {x y : Double}

theorem ofRank_rank (x : Double) : ofRank x.isNegative x.rank = x := by
  cases x with
  | mk bits =>
    rw [ofRank, isNegative, rank, Double.mk.injEq, BitVec.ofNat_toNat]
    refine BitVec.eq_of_getLsbD_eq fun i hi => ?_
    rw [BitVec.getLsbD_append]
    split
    · simp_all
    · obtain rfl : i = 63 := by omega
      simp [BitVec.msb_eq_getLsbD_last]

/-! ## The doubles in order -/

/-- The rank of a significand on the grid of a shift. -/
theorem magnitudeOfRank_mul_add (hlow : shift = 0 ∨ binade ≤ significand)
    (hhigh : significand ≤ 2 * binade) :
    magnitudeOfRank (shift * binade + significand) = significand * Nat.pow 2 shift := by
  have hpos : 0 < binade := by decide
  unfold magnitudeOfRank
  rcases Nat.lt_or_ge significand binade with hsmall | hlarge
  · obtain rfl : shift = 0 := hlow.resolve_right (by omega)
    simp [Nat.div_eq_of_lt hsmall, Nat.mod_eq_of_lt hsmall]
  · obtain ⟨fraction, rfl⟩ := Nat.exists_eq_add_of_le hlarge
    rcases Nat.lt_or_ge fraction binade with hfraction | hfraction
    · have hrank : shift * binade + (binade + fraction) = fraction + (shift + 1) * binade := by
        rw [Nat.add_mul, Nat.one_mul]
        omega
      rw [hrank, Nat.add_mul_div_right _ _ hpos, Nat.add_mul_mod_self_right,
        Nat.div_eq_of_lt hfraction, Nat.mod_eq_of_lt hfraction, Nat.zero_add]
      rfl
    · -- the significand carries into the exponent
      obtain rfl : fraction = binade := by omega
      have hrank : shift * binade + (binade + binade) = 0 + (shift + 2) * binade := by
        rw [Nat.add_mul]
        omega
      have hpow : Nat.pow 2 (shift + 1) = Nat.pow 2 shift * 2 := rfl
      rw [hrank, Nat.add_mul_div_right _ _ hpos, Nat.add_mul_mod_self_right, Nat.zero_div,
        Nat.zero_mod, Nat.zero_add, if_neg (by omega), Nat.add_zero,
        show shift + 2 - 1 = shift + 1 from rfl, hpow, ← Nat.two_mul, Nat.mul_comm 2,
        Nat.mul_comm (Nat.pow 2 shift), Nat.mul_assoc]

/-- The rank after a significand stands on the same grid, unless the grid ends there. -/
theorem magnitudeOfRank_succ (hlow : shift = 0 ∨ binade ≤ significand)
    (hhigh : significand ≤ 2 * binade) :
    significand = 2 * binade ∨ magnitudeOfRank (shift * binade + significand + 1) =
      (significand + 1) * Nat.pow 2 shift := by
  refine (Nat.eq_or_lt_of_le hhigh).imp_right fun hlt => ?_
  rw [Nat.add_assoc]
  exact magnitudeOfRank_mul_add (hlow.imp_right (Nat.le_trans · (Nat.le_succ _))) hlt

/-- The rank before a significand stands on the same grid, unless the grid begins there. -/
theorem magnitudeOfRank_of_succ {k : Nat} (hlow : shift = 0 ∨ binade ≤ significand)
    (hhigh : significand ≤ 2 * binade) (hk : shift * binade + significand = k + 1) :
    (shift ≠ 0 ∧ significand = binade) ∨
      ∃ n, significand = n + 1 ∧ magnitudeOfRank k = n * Nat.pow 2 shift := by
  rcases Nat.eq_zero_or_pos shift with rfl | hpos
  · have hmag : magnitudeOfRank (0 * binade + k) = k * Nat.pow 2 0 :=
      magnitudeOfRank_mul_add (Or.inl rfl) (by omega)
    rw [Nat.zero_mul, Nat.zero_add] at hk hmag
    exact Or.inr ⟨k, hk, hmag⟩
  · have hne := Nat.pos_iff_ne_zero.mp hpos
    rcases Nat.eq_or_lt_of_le (hlow.resolve_left hne) with heq | hlt
    · exact Or.inl ⟨hne, heq.symm⟩
    · obtain ⟨n, rfl⟩ := Nat.exists_eq_succ_of_ne_zero (Nat.ne_zero_of_lt hlt)
      obtain rfl : k = shift * binade + n := by omega
      exact Or.inr ⟨n, rfl, magnitudeOfRank_mul_add (Or.inr (by omega)) (by omega)⟩

/-- Every rank is a significand on the grid of a shift. -/
theorem exists_significand (rank : Nat) : ∃ shift significand,
    rank = shift * binade + significand ∧ (shift = 0 ∨ binade ≤ significand) ∧
      significand < 2 * binade := by
  have hpos : 0 < binade := by decide
  rcases Nat.lt_or_ge rank binade with hsmall | hlarge
  · exact ⟨0, rank, by omega, Or.inl rfl, by omega⟩
  · obtain ⟨rest, rfl⟩ := Nat.exists_eq_add_of_le hlarge
    have hmod : rest % binade < binade := Nat.mod_lt _ hpos
    have hsplit : binade * (rest / binade) + rest % binade = rest := Nat.div_add_mod _ _
    rw [Nat.mul_comm] at hsplit
    exact ⟨rest / binade, binade + rest % binade, by omega, Or.inr (by omega), by omega⟩

/-- A double and the next one are neighbours on a grid. -/
theorem exists_grid (rank : Nat) : ∃ shift significand, significand < 2 * binade ∧
    magnitudeOfRank rank = significand * Nat.pow 2 shift ∧
    magnitudeOfRank (rank + 1) = (significand + 1) * Nat.pow 2 shift := by
  obtain ⟨shift, significand, rfl, hlow, hhigh⟩ := exists_significand rank
  have hle := Nat.le_of_lt hhigh
  exact ⟨shift, significand, hhigh, magnitudeOfRank_mul_add hlow hle,
    (magnitudeOfRank_succ hlow hle).resolve_left (Nat.ne_of_lt hhigh)⟩

theorem magnitudeOfRank_strictMono : StrictMono magnitudeOfRank := by
  refine strictMono_nat_of_lt_succ fun rank => ?_
  obtain ⟨shift, significand, -, hrank, hnext⟩ := exists_grid rank
  rw [hrank, hnext]
  exact Nat.mul_lt_mul_of_pos_right (Nat.lt_succ_self _) (Nat.pow_pos (by decide))

/-- The gap below a double is at least a part in `2 ^ 53` of its value. -/
theorem magnitudeOfRank_succ_le (rank : Nat) :
    magnitudeOfRank (rank + 1) + 2 * binade * magnitudeOfRank rank ≤
      2 * binade * magnitudeOfRank (rank + 1) := by
  obtain ⟨shift, significand, hsignificand, hrank, hnext⟩ := exists_grid rank
  have hgap : (significand + 1) * Nat.pow 2 shift ≤ 2 * binade * Nat.pow 2 shift :=
    Nat.mul_le_mul_right _ hsignificand
  rw [hrank, hnext]
  calc (significand + 1) * Nat.pow 2 shift + 2 * binade * (significand * Nat.pow 2 shift)
      ≤ 2 * binade * Nat.pow 2 shift + 2 * binade * (significand * Nat.pow 2 shift) :=
        Nat.add_le_add_right hgap _
    _ = 2 * binade * ((significand + 1) * Nat.pow 2 shift) := by ring

theorem isNegative_of_scaled (h : x.scaled ≠ 0) : x.isNegative = decide (x.scaled < 0) := by
  unfold scaled at h ⊢
  cases hsign : x.isNegative with
  | false =>
    rw [if_neg Bool.false_ne_true]
    exact (decide_eq_false (by omega)).symm
  | true =>
    rw [hsign, if_pos rfl] at h
    rw [if_pos rfl]
    exact (decide_eq_true (by omega)).symm

/-- Doubles at one place are one double, unless they are zeros. -/
theorem eq_of_scaled (h : x.scaled = y.scaled) (hne : x.scaled ≠ 0) : x = y := by
  have hsign : x.isNegative = y.isNegative := by
    rw [isNegative_of_scaled hne, h, ← isNegative_of_scaled (h ▸ hne)]
  have hmagnitude : x.magnitude = y.magnitude := by
    rw [scaled, scaled, hsign] at h
    split at h <;> omega
  rw [← ofRank_rank x, ← ofRank_rank y, hsign,
    magnitudeOfRank_strictMono.injective hmagnitude]

/-! ## The nearest double -/

/-- A rank is nearest to a quotient: the quotient lies between the midpoints to the neighbours, and
on a midpoint only when the rank is even. -/
structure IsNearest (num den rank : Nat) : Prop where
  above : 2 * num ≤ den * (magnitudeOfRank rank + magnitudeOfRank (rank + 1))
  below : ∀ k, rank = k + 1 → den * (magnitudeOfRank k + magnitudeOfRank (k + 1)) ≤ 2 * num
  even : ∀ k, k = rank ∨ rank = k + 1 →
    2 * num = den * (magnitudeOfRank k + magnitudeOfRank (k + 1)) → rank % 2 = 0

/-- A larger quotient is nearest to no smaller rank. -/
theorem IsNearest.le (h : IsNearest num den rank) (h' : IsNearest num' den' rank')
    (hden : 0 < den) (hden' : 0 < den') (hle : num * den' ≤ num' * den) : rank ≤ rank' := by
  by_contra hlt
  obtain ⟨k, rfl⟩ : ∃ k, rank = k + 1 := Nat.exists_eq_succ_of_ne_zero (by omega)
  have hmono : ∀ {i j : Nat}, i ≤ j → magnitudeOfRank i ≤ magnitudeOfRank j :=
    fun hij => magnitudeOfRank_strictMono.monotone hij
  have hbelow := h.below k rfl
  have habove := h'.above
  have hmid : magnitudeOfRank rank' + magnitudeOfRank (rank' + 1) ≤
      magnitudeOfRank k + magnitudeOfRank (k + 1) :=
    Nat.add_le_add (hmono (by omega)) (hmono (by omega))
  -- both quotients lie on one midpoint, of which the even neighbour is the only nearest
  have hquotients : 2 * num * den' ≤ 2 * num' * den := by
    rw [Nat.mul_assoc, Nat.mul_assoc]
    exact Nat.mul_le_mul_left 2 hle
  have hmid' : den * (magnitudeOfRank k + magnitudeOfRank (k + 1)) * den' ≤
      den' * (magnitudeOfRank rank' + magnitudeOfRank (rank' + 1)) * den :=
    (Nat.mul_le_mul_right den' hbelow).trans (hquotients.trans (Nat.mul_le_mul_right den habove))
  rw [Nat.mul_right_comm, Nat.mul_right_comm den', Nat.mul_comm den'] at hmid'
  have heq := Nat.le_antisymm hmid (Nat.le_of_mul_le_mul_left hmid' (Nat.mul_pos hden hden'))
  obtain rfl : rank' = k := by
    have hlower := hmono (show rank' ≤ k by omega)
    have hupper := hmono (show rank' + 1 ≤ k + 1 by omega)
    exact magnitudeOfRank_strictMono.injective (by omega)
  have htie : 2 * num = den * (magnitudeOfRank rank' + magnitudeOfRank (rank' + 1)) := by
    refine Nat.le_antisymm (Nat.le_of_mul_le_mul_right (hquotients.trans ?_) hden') hbelow
    exact (Nat.mul_le_mul_right den habove).trans_eq (by ring)
  have htie' : 2 * num' = den' * (magnitudeOfRank rank' + magnitudeOfRank (rank' + 1)) := by
    refine Nat.le_antisymm habove (Nat.le_of_mul_le_mul_right (le_trans ?_ hquotients) hden)
    exact (Nat.mul_le_mul_right den' hbelow).trans_eq' (by ring)
  have heven := h.even rank' (Or.inr rfl) htie
  have heven' := h'.even rank' (Or.inl rfl) htie'
  omega

theorem IsNearest.unique (h : IsNearest num den rank) (h' : IsNearest num den rank')
    (hden : 0 < den) : rank = rank' :=
  Nat.le_antisymm (h.le h' hden hden (Nat.le_refl _)) (h'.le h hden hden (Nat.le_refl _))

/-- A rounded quotient is off by a half at most, and by a half only when it is even. -/
theorem roundQuotient_off_le (num : Nat) (hden : 0 < den) :
    2 * (den * roundQuotient num den) ≤ 2 * num + den ∧
      2 * num ≤ 2 * (den * roundQuotient num den) + den ∧
      (2 * (den * roundQuotient num den) = 2 * num + den ∨
        2 * num = 2 * (den * roundQuotient num den) + den → roundQuotient num den % 2 = 0) := by
  have hsplit : den * (num / den) + num % den = num := Nat.div_add_mod num den
  have hmod : num % den < den := Nat.mod_lt _ hden
  have hsucc : den * (num / den + 1) = den * (num / den) + den := Nat.mul_succ _ _
  unfold roundQuotient
  dsimp only
  split
  · omega
  · split
    · omega
    · rcases Nat.mod_two_eq_zero_or_one (num / den) with heven | hodd
      · rw [heven, Nat.add_zero]
        omega
      · rw [hodd]
        omega

/-- On the grid that rounding chooses, a quotient has 53 bits, or fewer on the finest grid. -/
theorem quotient_lt_of_shift (hden : 0 < den) (hshift : (num / den).log2 - 52 = shift) :
    num < den * Nat.pow 2 shift * (2 * binade) ∧
      (shift = 0 ∨ den * Nat.pow 2 shift * binade ≤ num) := by
  have hpow : Nat.pow 2 shift = 2 ^ shift := rfl
  have hbinade : binade = 2 ^ 52 := rfl
  constructor
  · -- the quotient has at most `53 + shift` binary digits, and exactly as many in the other half
    have hlog : num / den < 2 ^ (53 + shift) :=
      Nat.lt_log2_self.trans_le (Nat.pow_le_pow_right (by decide) (by omega))
    refine ((Nat.div_lt_iff_lt_mul hden).mp hlog).trans_eq ?_
    rw [hbinade, hpow, Nat.pow_add]
    ring
  · rcases Nat.eq_zero_or_pos shift with hzero | hpos
    · exact Or.inl hzero
    · -- were it zero, there would be nothing to shift
      have hne : num / den ≠ 0 := by
        intro hzero
        rw [hzero, Nat.log2_zero] at hshift
        omega
      have hlog : 2 ^ (52 + shift) ≤ num / den :=
        (Nat.pow_le_pow_right (by decide) (by omega)).trans (Nat.log2_self_le hne)
      refine Or.inr (((Nat.le_div_iff_mul_le hden).mp hlog).trans_eq' ?_)
      rw [hbinade, hpow, Nat.pow_add]
      ring

/-- The significand that rounding chooses belongs to its grid. -/
theorem significand_bounds (hden : 0 < den) (hshift : (num / den).log2 - 52 = shift)
    (hsignificand : roundQuotient num (den * Nat.pow 2 shift) = significand) :
    (shift = 0 ∨ binade ≤ significand) ∧ significand ≤ 2 * binade := by
  obtain ⟨hnum, hnum'⟩ := quotient_lt_of_shift hden hshift
  have hunit : 0 < den * Nat.pow 2 shift := Nat.mul_pos hden (Nat.pow_pos (by decide))
  obtain ⟨hbelow, habove, -⟩ := roundQuotient_off_le num hunit
  rw [hsignificand] at hbelow habove
  constructor
  · refine hnum'.imp_right fun hle => ?_
    by_contra hlt
    have hle' := Nat.mul_le_mul_left (den * Nat.pow 2 shift) (Nat.not_le.mp hlt)
    rw [Nat.mul_succ] at hle'
    omega
  · by_contra hlt
    have hle := Nat.mul_le_mul_left (den * Nat.pow 2 shift) (Nat.not_le.mp hlt)
    rw [Nat.mul_succ] at hle
    omega

/-- The rank that rounding gives is nearest, up to the infinities. -/
theorem exists_isNearest (num : Nat) (hden : 0 < den) :
    ∃ rank, nearestRank num den = min rank infiniteRank ∧ IsNearest num den rank := by
  refine ⟨_, rfl, ?_⟩
  generalize hshift : (num / den).log2 - 52 = shift
  generalize hsignificand : roundQuotient num (den * Nat.pow 2 shift) = significand
  obtain ⟨hnum, hnum'⟩ := quotient_lt_of_shift hden hshift
  obtain ⟨hlow, hhigh⟩ := significand_bounds hden hshift hsignificand
  have hunit : 0 < den * Nat.pow 2 shift := Nat.mul_pos hden (Nat.pow_pos (by decide))
  obtain ⟨hbelow, habove, htie⟩ := roundQuotient_off_le num hunit
  rw [hsignificand] at hbelow habove htie
  have hrank := magnitudeOfRank_mul_add hlow hhigh
  have heven : significand % 2 = 0 → (shift * binade + significand) % 2 = 0 := by
    intro h
    rw [Nat.add_mod, h, Nat.mul_mod, show binade % 2 = 0 from rfl, Nat.mul_zero]
  have hmid : ∀ n : Nat, den * (n * Nat.pow 2 shift + (n + 1) * Nat.pow 2 shift) =
      2 * (den * Nat.pow 2 shift * n) + den * Nat.pow 2 shift := fun n => by ring
  have hself : den * magnitudeOfRank (shift * binade + significand) =
      den * Nat.pow 2 shift * significand := by
    rw [hrank, Nat.mul_comm significand, Nat.mul_assoc]
  have hmono : ∀ k, den * magnitudeOfRank k ≤ den * magnitudeOfRank (k + 1) :=
    fun k => Nat.mul_le_mul_left den (magnitudeOfRank_strictMono.monotone (Nat.le_succ k))
  have hnext := magnitudeOfRank_succ hlow hhigh
  -- at the ends of the grid the neighbours are farther or nearer, but the quotient is inside
  refine ⟨?_, fun k hk => ?_, fun k hk heq => heven ?_⟩
  · rcases hnext with hend | hnext
    · have hle := hmono (shift * binade + significand)
      rw [← hend, ← hself] at hnum
      rw [Nat.mul_add]
      omega
    · rw [hrank, hnext, hmid]
      exact habove
  · rcases magnitudeOfRank_of_succ hlow hhigh hk with ⟨hne, hbegin⟩ | ⟨n, hn, hprevious⟩
    · have hle := hmono k
      have hinside := hnum'.resolve_left hne
      rw [← hbegin, ← hself, hk] at hinside
      rw [Nat.mul_add]
      omega
    · rw [hprevious, ← hk, hrank, hn, hmid]
      rw [hn, Nat.mul_succ] at hbelow
      omega
  · rcases hk with rfl | hk
    · rcases hnext with hend | hnext
      · rw [hend, Nat.mul_mod_right]
      · rw [hrank, hnext, hmid] at heq
        exact htie (Or.inr heq)
    · rcases magnitudeOfRank_of_succ hlow hhigh hk with ⟨-, hbegin⟩ | ⟨n, hn, hprevious⟩
      · rw [hbegin]
        rfl
      · rw [hprevious, ← hk, hrank, hn, hmid] at heq
        rw [hn, Nat.mul_succ] at htie
        refine hn ▸ htie (Or.inl ?_)
        omega

theorem nearestRank_mono (hden : 0 < den) (h : num ≤ num') :
    nearestRank num den ≤ nearestRank num' den := by
  obtain ⟨rank, hrank, hnearest⟩ := exists_isNearest num hden
  obtain ⟨rank', hrank', hnearest'⟩ := exists_isNearest num' hden
  have hle := hnearest.le hnearest' hden hden (Nat.mul_le_mul_right den h)
  rw [hrank, hrank']
  omega

/-- The same quotient in other terms is rounded to the same rank. -/
theorem nearestRank_mul_left {factor : Nat} (hfactor : 0 < factor) (hden : 0 < den) :
    nearestRank (factor * num) (factor * den) = nearestRank num den := by
  obtain ⟨rank, hrank, hnearest⟩ := exists_isNearest num hden
  obtain ⟨rank', hrank', hnearest'⟩ :=
    exists_isNearest (factor * num) (Nat.mul_pos hfactor hden)
  have hpos := Nat.mul_pos hfactor hden
  have hle := hnearest'.le hnearest hpos hden (by rw [Nat.mul_right_comm, Nat.mul_comm num])
  have hge := hnearest.le hnearest' hden hpos (by rw [Nat.mul_right_comm, Nat.mul_comm num])
  rw [hrank, hrank', Nat.le_antisymm hle hge]

/-- A quotient that is off a double by less than a part in `2 ^ 54` is rounded to it. -/
theorem nearestRank_of_close (hrank : rank < infiniteRank) (hden : 0 < den)
    (habove : 4 * binade * num < (4 * binade + 1) * (den * magnitudeOfRank rank))
    (hbelow : 4 * binade * (den * magnitudeOfRank rank) <
      4 * binade * num + den * magnitudeOfRank rank) :
    nearestRank num den = rank := by
  have hbinade : binade = 4503599627370496 := rfl
  -- Neighbours are at least one part in `2 * binade` of the larger apart, and the value is off by
  -- less than one part in `4 * binade`: no other magnitude is as near.
  have hgap : ∀ k, den * magnitudeOfRank (k + 1) + 2 * binade * (den * magnitudeOfRank k) ≤
      2 * binade * (den * magnitudeOfRank (k + 1)) := by
    intro k
    have hle := Nat.mul_le_mul_left den (magnitudeOfRank_succ_le k)
    calc _ = den * (magnitudeOfRank (k + 1) + 2 * binade * magnitudeOfRank k) := by ring
      _ ≤ den * (2 * binade * magnitudeOfRank (k + 1)) := hle
      _ = _ := by ring
  have hclose : IsNearest num den rank := by
    have hnext := hgap rank
    have hmono : den * magnitudeOfRank rank ≤ den * magnitudeOfRank (rank + 1) :=
      Nat.mul_le_mul_left den (magnitudeOfRank_strictMono.monotone (Nat.le_succ rank))
    rw [hbinade] at habove hbelow hnext
    refine ⟨?_, fun k hk => ?_, fun k hk heq => absurd heq ?_⟩
    · rw [Nat.mul_add]
      omega
    · have hprevious := hgap k
      rw [hbinade, ← hk] at hprevious
      rw [← hk, Nat.mul_add]
      omega
    · rcases hk with rfl | hk
      · rw [Nat.mul_add]
        omega
      · have hprevious := hgap k
        rw [hbinade, ← hk] at hprevious
        rw [← hk, Nat.mul_add]
        omega
  obtain ⟨rank', hrank', hnearest⟩ := exists_isNearest num hden
  rw [hrank', hnearest.unique hclose hden]
  exact Nat.min_eq_left (Nat.le_of_lt hrank)

/-! ## Integers among the doubles -/

theorem unitsPerOne_pos : 0 < unitsPerOne := by decide +kernel

theorem pow_eq_unitsPerOne (h : shift = 1074) : Nat.pow 2 shift = unitsPerOne := by
  subst h
  decide +kernel

theorem rank_ofInt (n : Int) : (ofInt n).rank = nearestRank (n.natAbs * unitsPerOne) 1 :=
  rank_nearest _ _ _

theorem isNegative_ofInt (n : Int) : (ofInt n).isNegative = decide (n < 0) :=
  isNegative_ofRank _ _

theorem scaled_ofInt_eq (n : Int) :
    (ofInt n).scaled = if n < 0 then -((ofInt n).magnitude : Int) else (ofInt n).magnitude := by
  simp only [scaled, isNegative_ofInt, decide_eq_true_eq]

theorem magnitude_ofInt_mono (h : m.natAbs ≤ n.natAbs) :
    (ofInt m).magnitude ≤ (ofInt n).magnitude := by
  rw [magnitude, magnitude, rank_ofInt, rank_ofInt]
  exact magnitudeOfRank_strictMono.monotone
    (nearestRank_mono Nat.zero_lt_one (Nat.mul_le_mul_right _ h))

/-- Rounding keeps the order of integers, though not strictly. -/
theorem scaled_ofInt_mono (h : m ≤ n) : (ofInt m).scaled ≤ (ofInt n).scaled := by
  rw [scaled_ofInt_eq, scaled_ofInt_eq]
  split
  · split
    · have := magnitude_ofInt_mono (show n.natAbs ≤ m.natAbs by omega)
      omega
    · omega
  · split
    · omega
    · have := magnitude_ofInt_mono (show m.natAbs ≤ n.natAbs by omega)
      omega

/-- Integers of up to 53 bits are doubles. -/
theorem exists_rank_of_le {k : Nat} (h : k ≤ 2 * binade) :
    ∃ rank, rank < infiniteRank ∧ magnitudeOfRank rank = k * unitsPerOne := by
  have hbinade : binade = 2 ^ 52 := rfl
  have hinfinite : infiniteRank = 2047 * binade := rfl
  have hpos : 0 < binade := by decide
  rcases Nat.eq_zero_or_pos k with rfl | hk
  · exact ⟨0, by omega, (Nat.zero_mul _).symm⟩
  rcases Nat.eq_or_lt_of_le h with rfl | hlt
  · obtain ⟨shift, hshift⟩ : ∃ shift, shift = 1074 := ⟨_, rfl⟩
    have hmagnitude : magnitudeOfRank (shift * binade + 2 * binade) =
        2 * binade * Nat.pow 2 shift :=
      magnitudeOfRank_mul_add (Or.inr (by omega)) (Nat.le_refl _)
    rw [pow_eq_unitsPerOne hshift] at hmagnitude
    exact ⟨shift * binade + 2 * binade, by rw [hshift]; omega, hmagnitude⟩
  · -- the significand is shifted up until it has 53 bits
    have hne : k ≠ 0 := Nat.pos_iff_ne_zero.mp hk
    have hlog : k.log2 < 53 := (Nat.log2_lt hne).mpr (by rw [hbinade] at hlt; omega)
    have hpow : 2 ^ k.log2 * 2 ^ (52 - k.log2) = binade := by
      rw [← Nat.pow_add, hbinade]
      congr 1
      omega
    have hlow : binade ≤ k * 2 ^ (52 - k.log2) :=
      hpow ▸ Nat.mul_le_mul_right _ (Nat.log2_self_le hne)
    have hhigh : k * 2 ^ (52 - k.log2) < 2 * binade := by
      rw [← hpow, ← Nat.mul_assoc, ← Nat.pow_succ']
      exact Nat.mul_lt_mul_of_pos_right Nat.lt_log2_self (Nat.pow_pos (by decide))
    refine ⟨(1022 + k.log2) * binade + k * 2 ^ (52 - k.log2), ?_, ?_⟩
    · have hshift : (1022 + k.log2) * binade ≤ 1074 * binade :=
        Nat.mul_le_mul_right _ (by omega)
      omega
    · have hadd := Nat.pow_add 2 (52 - k.log2) (1022 + k.log2)
      rw [magnitudeOfRank_mul_add (Or.inr hlow) (Nat.le_of_lt hhigh), Nat.mul_assoc,
        ← pow_eq_unitsPerOne (show 52 - k.log2 + (1022 + k.log2) = 1074 by omega)]
      exact congrArg (k * ·) hadd.symm

theorem magnitude_ofInt_of_le (h : n.natAbs ≤ 2 * binade) :
    (ofInt n).magnitude = n.natAbs * unitsPerOne := by
  obtain ⟨rank, hrank, hmagnitude⟩ := exists_rank_of_le h
  rw [magnitude, rank_ofInt, ← hmagnitude, nearestRank_magnitudeOfRank hrank]

theorem magnitude_ofInt_pos (h : n ≠ 0) : 0 < (ofInt n).magnitude := by
  have hone : (1 : Int).natAbs ≤ 2 * binade := by decide
  calc 0 < (1 : Int).natAbs * unitsPerOne := Nat.mul_pos Nat.one_pos unitsPerOne_pos
    _ = (ofInt 1).magnitude := (magnitude_ofInt_of_le hone).symm
    _ ≤ (ofInt n).magnitude := magnitude_ofInt_mono (by omega)

/-- Integers are rounded to one place only if they are rounded to one double. -/
theorem ofInt_eq_iff : ofInt m = ofInt n ↔ (ofInt m).scaled = (ofInt n).scaled := by
  refine ⟨fun h => by rw [h], fun h => ?_⟩
  by_cases hzero : (ofInt m).scaled = 0
  · have eq_zero : ∀ {k : Int}, (ofInt k).scaled = 0 → k = 0 := by
      intro k hk
      by_contra hne
      have hpos := magnitude_ofInt_pos hne
      rw [scaled_ofInt_eq] at hk
      split at hk <;> omega
    rw [eq_zero hzero, eq_zero (h.symm.trans hzero)]
  · exact eq_of_scaled h hzero

/-- Integers of up to 53 bits are rounded to doubles of their own. -/
theorem ofInt_inj_of_le (hm : m.natAbs ≤ 2 * binade) (hn : n.natAbs ≤ 2 * binade)
    (h : ofInt m = ofInt n) : m = n := by
  have hmagnitude := congrArg magnitude h
  rw [magnitude_ofInt_of_le hm, magnitude_ofInt_of_le hn] at hmagnitude
  have habs := Nat.eq_of_mul_eq_mul_right unitsPerOne_pos hmagnitude
  have hsign := congrArg isNegative h
  rw [isNegative_ofInt, isNegative_ofInt, decide_eq_decide] at hsign
  omega

/-- Unless they are rounded to one double, integers are ordered as the doubles are. -/
theorem scaled_ofInt_lt_iff (h : m = n ∨ ofInt m ≠ ofInt n) :
    (ofInt m).scaled < (ofInt n).scaled ↔ m < n := by
  constructor
  · intro hlt
    by_contra hle
    have hmono := scaled_ofInt_mono (Int.not_lt.mp hle)
    omega
  · intro hlt
    refine lt_of_le_of_ne (scaled_ofInt_mono (Int.le_of_lt hlt)) fun heq => ?_
    exact h.elim (Int.ne_of_lt hlt) fun hne => hne (ofInt_eq_iff.mpr heq)

end Double

end DocMapper
