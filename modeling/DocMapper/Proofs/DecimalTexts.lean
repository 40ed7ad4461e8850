import Mathlib.Data.List.TakeWhile
import DocMapper.Number.DecimalText
import DocMapper.Proofs.Rounding

namespace DocMapper

/-! # Reading the text of a double

Seventeen significant digits come so close to a double that it is the nearest one, so the search for
the shortest digits always ends with digits that read back. The text writes these digits, and what
it writes is read as a quotient that is rounded to the double again. No two doubles have one text.
-/

namespace Decimal

variable {x : Double} {d : Decimal} {exponent : Int}

/-! ## Seventeen digits -/

theorem pow_le_of_digitCount {n c : Nat} (h : digitCount n = c + 1) (hn : 0 < n) :
    10 ^ c ≤ n := by
  rcases Nat.eq_zero_or_pos c with rfl | hc
  · exact hn
  · have hiff := Nat.length_toDigits_le_iff (b := 10) (n := n) (by decide) hc
    unfold digitCount at h
    by_contra hlt
    have hle := hiff.mpr (Nat.not_le.mp hlt)
    omega

theorem lt_pow_digitCount (n : Nat) : n < 10 ^ digitCount n :=
  (Nat.length_toDigits_le_iff (by decide) Nat.length_toDigits_pos).mp (Nat.le_refl _)

/-- The value of a double is at least the power of ten before its first digit. -/
theorem pointPosition_cases {magnitude : Nat} (hpos : 0 < magnitude) :
    (∃ c : Nat, pointPosition magnitude = c + 1 ∧ 10 ^ c * Double.unitsPerOne ≤ magnitude) ∨
      ∃ c : Nat, pointPosition magnitude = 1 - c ∧ Double.unitsPerOne ≤ 10 ^ c * magnitude := by
  have hunits := Double.unitsPerOne_pos
  unfold pointPosition
  generalize Double.unitsPerOne = units at hunits
  split
  · rename_i hle
    obtain ⟨c, hc⟩ : ∃ c, digitCount (magnitude / units) = c + 1 :=
      Nat.exists_eq_succ_of_ne_zero (Nat.pos_iff_ne_zero.mp Nat.length_toDigits_pos)
    refine Or.inl ⟨c, congrArg Nat.cast hc, ?_⟩
    exact (Nat.le_div_iff_mul_le hunits).mp (pow_le_of_digitCount hc (Nat.div_pos hle hunits))
  · have hlt : units - 1 < 10 ^ digitCount ((units - 1) / magnitude) * magnitude :=
      (Nat.div_lt_iff_lt_mul hpos).mp (lt_pow_digitCount _)
    exact Or.inr ⟨_, rfl, by omega⟩

theorem le_pointPosition {magnitude : Nat} (h : 10 ^ 16 * Double.unitsPerOne ≤ magnitude) :
    17 ≤ pointPosition magnitude := by
  have hunits := Double.unitsPerOne_pos
  have hle : Double.unitsPerOne ≤ magnitude :=
    (Nat.le_mul_of_pos_left _ (show 0 < 10 ^ 16 by decide)).trans h
  have hdigits : 17 ≤ digitCount (magnitude / Double.unitsPerOne) := by
    by_contra hlt
    have hpow := (lt_pow_digitCount (magnitude / Double.unitsPerOne)).trans_le
      (Nat.pow_le_pow_right (by decide) (show _ ≤ 16 by omega))
    exact absurd ((Nat.le_div_iff_mul_le hunits).mpr h) (Nat.not_le.mpr hpow)
  rw [pointPosition, if_pos hle]
  exact_mod_cast hdigits

/-- The value has seventeen digits or more before the point of the finest grid. -/
theorem pow_le_onGrid {magnitude : Nat} (hpos : 0 < magnitude) :
    10 ^ 16 * (onGrid magnitude (pointPosition magnitude - 17)).2 ≤
      (onGrid magnitude (pointPosition magnitude - 17)).1 := by
  have hcases := pointPosition_cases hpos
  generalize pointPosition magnitude = point at hcases
  unfold onGrid
  generalize Double.unitsPerOne = units at hcases
  rcases hcases with ⟨c, rfl, hle⟩ | ⟨c, rfl, hle⟩
  · -- the seventeenth digit stands behind the point or before it, which decides what is scaled
    rcases Nat.lt_or_ge c 16 with hlt | hge
    · obtain ⟨e, he⟩ : ∃ e, 16 = c + (e + 1) := ⟨15 - c, by omega⟩
      have hexponent : (c : Int) + 1 - 17 = Int.negSucc e := by omega
      rw [hexponent]
      calc 10 ^ 16 * units = 10 ^ c * units * 10 ^ (e + 1) := by
            rw [he, Nat.pow_add]
            ring
        _ ≤ magnitude * 10 ^ (e + 1) := Nat.mul_le_mul_right _ hle
    · obtain ⟨e, rfl⟩ := Nat.exists_eq_add_of_le hge
      have hexponent : ((16 + e : Nat) : Int) + 1 - 17 = Int.ofNat e := by
        rw [Int.ofNat_eq_natCast]
        omega
      rw [hexponent]
      calc 10 ^ 16 * (units * 10 ^ e) = 10 ^ (16 + e) * units := by ring
        _ ≤ magnitude := hle
  · have hexponent : 1 - (c : Int) - 17 = Int.negSucc (c + 15) := by omega
    rw [hexponent]
    calc 10 ^ 16 * units ≤ 10 ^ 16 * (10 ^ c * magnitude) := Nat.mul_le_mul_left _ hle
      _ = magnitude * 10 ^ (c + 15 + 1) := by ring

/-- A point of a grid is rounded as a quotient whose value is on the same grid. -/
theorem exists_ofDecimal (magnitude : Nat) (exponent : Int) : ∃ factor, 0 < factor ∧
    (onGrid magnitude exponent).1 = factor * magnitude ∧ 0 < (onGrid magnitude exponent).2 ∧
      ∀ negative digits, Double.ofDecimal negative digits exponent =
        Double.nearest negative (digits * (onGrid magnitude exponent).2) factor := by
  have hunits := Double.unitsPerOne_pos
  have hpow : ∀ e, 0 < Nat.pow 10 e := fun e => Nat.pow_pos (by decide)
  cases exponent with
  | ofNat e =>
    simp only [onGrid, Double.ofDecimal]
    generalize Double.unitsPerOne = units at hunits
    refine ⟨1, Nat.one_pos, (Nat.one_mul _).symm, Nat.mul_pos hunits (hpow e), fun _ digits => ?_⟩
    rw [Nat.mul_assoc, Nat.mul_comm units]
  | negSucc e =>
    simp only [onGrid, Double.ofDecimal]
    exact ⟨_, hpow (e + 1), Nat.mul_comm _ _, hunits, fun _ _ => rfl⟩

theorem readingBack?_eq_some (h : readingBack? x exponent = some d) :
    d.exponent = exponent ∧ Double.ofDecimal x.isNegative d.digits exponent = x := by
  have hpair : ∀ pair : Nat × Nat,
      (if Double.ofDecimal x.isNegative pair.1 exponent = x then some (⟨pair.1, exponent⟩ : Decimal)
        else if Double.ofDecimal x.isNegative pair.2 exponent = x then some ⟨pair.2, exponent⟩
        else none) = some d →
      d.exponent = exponent ∧ Double.ofDecimal x.isNegative d.digits exponent = x := by
    intro pair hsome
    split at hsome
    · rename_i hback
      exact Option.some.inj hsome ▸ ⟨rfl, hback⟩
    · split at hsome
      · rename_i hback
        exact Option.some.inj hsome ▸ ⟨rfl, hback⟩
      · cases hsome
  exact hpair _ h

/-- The grid of seventeen digits has a point that reads back: the one nearest to the value. -/
theorem isSome_readingBack? (hfinite : x.isFinite = true) (hpos : 0 < x.magnitude) :
    (readingBack? x (pointPosition x.magnitude - 17)).isSome = true := by
  have hdigits := pow_le_onGrid hpos
  obtain ⟨factor, hfactor, hnum, hden, hround⟩ :=
    exists_ofDecimal x.magnitude (pointPosition x.magnitude - 17)
  unfold readingBack?
  generalize pointPosition x.magnitude - 17 = exponent at *
  generalize onGrid x.magnitude exponent = grid at *
  obtain ⟨num, den⟩ := grid
  dsimp only at *
  generalize hnearer : (if den ≤ 2 * (num % den) then (num / den + 1, num / den)
    else (num / den, num / den + 1)) = pair
  obtain ⟨nearer, farther⟩ := pair
  -- the nearer neighbour is read back as the double itself:
  have hback : Double.ofDecimal x.isNegative nearer exponent = x := by
    -- it is off by half a unit of the last digit,
    have hoff : 2 * (nearer * den) ≤ 2 * num + den ∧ 2 * num ≤ 2 * (nearer * den) + den := by
      have hsplit : num / den * den + num % den = num := Nat.div_add_mod' num den
      have hmod : num % den < den := Nat.mod_lt _ hden
      have hsucc : (num / den + 1) * den = num / den * den + den := Nat.succ_mul _ _
      split at hnearer
      · obtain ⟨rfl, -⟩ := Prod.mk.inj hnearer
        omega
      · obtain ⟨rfl, -⟩ := Prod.mk.inj hnearer
        omega
    have hbinade : Double.binade = 4503599627370496 := rfl
    -- which is less than half the distance to the next double
    have hclose : Double.nearestRank (nearer * den) factor = x.rank := by
      refine Double.nearestRank_of_close (by simpa [Double.isFinite] using hfinite) hfactor ?_ ?_
      · change _ < _ * (factor * x.magnitude)
        rw [← hnum, hbinade]
        omega
      · change _ * (factor * x.magnitude) < _ + factor * x.magnitude
        rw [← hnum, hbinade]
        omega
    rw [hround, Double.nearest, hclose, Double.ofRank_rank]
  simp only [hback, if_true, Option.isSome_some]

/-- The search ends with digits that read back, at most seventeen of them. -/
theorem ofDecimal_shortest (hfinite : x.isFinite = true) (hpos : 0 < x.magnitude) :
    Double.ofDecimal x.isNegative (shortest x).digits (shortest x).exponent = x ∧
      ∃ n < 18, (shortest x).exponent = pointPosition x.magnitude - (n : Nat) := by
  have hsome : ((List.range 18).findSome? fun n =>
      readingBack? x (pointPosition x.magnitude - (n : Nat))).isSome = true := by
    rw [List.findSome?_isSome_iff]
    exact ⟨17, List.mem_range.mpr (by decide), isSome_readingBack? hfinite hpos⟩
  obtain ⟨d, hd⟩ := Option.isSome_iff_exists.mp hsome
  obtain ⟨n, hn, hback⟩ := List.exists_of_findSome?_eq_some hd
  obtain ⟨hexponent, hround⟩ := readingBack?_eq_some hback
  have hshortest : shortest x = d := by
    simp only [shortest, hd, Option.getD_some]
  rw [hshortest]
  exact ⟨hexponent ▸ hround, n, List.mem_range.mp hn, hexponent⟩

/-! ## Positional notation -/

/-- The number that positional notation writes, as a quotient: the digits without the point, over a
power of ten for those behind it. -/
def readPositional (s : List Char) : Nat × Nat :=
  let whole := s.takeWhile (· ≠ '.')
  let places := (s.dropWhile (· ≠ '.')).drop 1
  (Nat.ofDigitChars 10 (whole ++ places) 0, Nat.pow 10 places.length)

theorem readPositional_point {whole places : List Char} (h : '.' ∉ whole) :
    readPositional (whole ++ '.' :: places) =
      (Nat.ofDigitChars 10 (whole ++ places) 0, Nat.pow 10 places.length) := by
  have hne : ∀ c ∈ whole, decide (c ≠ '.') = true :=
    fun c hc => decide_eq_true fun heq => h (heq ▸ hc)
  rw [readPositional, List.takeWhile_append_of_pos hne, List.dropWhile_append_of_pos hne]
  simp

theorem readPositional_whole {s : List Char} (h : '.' ∉ s) :
    readPositional s = (Nat.ofDigitChars 10 s 0, 1) := by
  have hne : ∀ c ∈ s, decide (c ≠ '.') = true :=
    fun c hc => decide_eq_true fun heq => h (heq ▸ hc)
  have htake : s.takeWhile (· ≠ '.') = s := List.takeWhile_eq_self_iff.mpr hne
  have hdrop : s.dropWhile (· ≠ '.') = [] := List.dropWhile_eq_nil_iff.mpr hne
  rw [readPositional, htake, hdrop]
  simp

theorem isDigit_of_mem_zeros {zeros : Nat} {c : Char} (h : c ∈ List.replicate zeros '0') :
    c.isDigit = true := by
  rw [List.eq_of_mem_replicate h]
  rfl

/-- A decimal on a grid of whole numbers has no point. -/
theorem toList_text_ofNat (digits e : Nat) :
    (text ⟨digits, .ofNat e⟩).toList = Nat.toDigits 10 digits ++ List.replicate e '0' := by
  rw [text, String.toList_ofList]

/-- Any other decimal has as many digits behind its point as the grid says. -/
theorem exists_toList_text_negSucc (digits e : Nat) : ∃ (whole places : List Char) (zeros : Nat),
    (text ⟨digits, .negSucc e⟩).toList = whole ++ '.' :: places ∧ places.length = e + 1 ∧
      whole ++ places = List.replicate zeros '0' ++ Nat.toDigits 10 digits := by
  generalize hpadded : List.replicate (e + 1 + 1 - (Nat.toDigits 10 digits).length) '0' ++
    Nat.toDigits 10 digits = padded
  have hlength : e + 1 < padded.length := by
    rw [← hpadded, List.length_append, List.length_replicate]
    omega
  refine ⟨padded.take (padded.length - (e + 1)), padded.drop (padded.length - (e + 1)), _, ?_, ?_,
    (List.take_append_drop _ _).trans hpadded.symm⟩
  · simp only [text, String.toList_ofList, hpadded]
  · rw [List.length_drop]
    omega

/-- The text of a decimal has digits and a point only. -/
theorem isDigit_of_mem_text {c : Char} (h : c ∈ d.text.toList) : c.isDigit = true ∨ c = '.' := by
  have hdigits : ∀ n, c ∈ Nat.toDigits 10 n → c.isDigit = true :=
    fun n hc => Nat.isDigit_of_mem_toDigits (by decide) (by decide) hc
  obtain ⟨digits, e | e⟩ := d
  · rw [toList_text_ofNat, List.mem_append] at h
    exact Or.inl (h.elim (hdigits _) isDigit_of_mem_zeros)
  · obtain ⟨whole, places, zeros, htext, -, hall⟩ := exists_toList_text_negSucc digits e
    have hmem : c ∈ whole ++ places → c.isDigit = true := by
      rw [hall, List.mem_append]
      exact fun hc => hc.elim isDigit_of_mem_zeros (hdigits _)
    rw [htext, List.mem_append, List.mem_cons] at h
    rcases h with hwhole | hpoint | hplaces
    · exact Or.inl (hmem (List.mem_append_left _ hwhole))
    · exact Or.inr hpoint
    · exact Or.inl (hmem (List.mem_append_right _ hplaces))

theorem ofDigitChars_padded (zeros digits : Nat) :
    Nat.ofDigitChars 10 (List.replicate zeros '0' ++ Nat.toDigits 10 digits) 0 = digits := by
  rw [Nat.ofDigitChars_append, Nat.ofDigitChars_replicate_zero, Nat.mul_zero,
    Nat.ofDigitChars_ten_toDigits]

/-- A decimal with a point is read as its digits over a power of ten. -/
theorem readPositional_text_negSucc (digits e : Nat) :
    readPositional (text ⟨digits, .negSucc e⟩).toList = (digits, Nat.pow 10 (e + 1)) := by
  obtain ⟨whole, places, zeros, htext, hlength, hall⟩ := exists_toList_text_negSucc digits e
  have hpoint : '.' ∉ whole := by
    intro hmem
    have hdigit : ('.' : Char) ∈ List.replicate zeros '0' ++ Nat.toDigits 10 digits :=
      hall ▸ List.mem_append_left _ hmem
    rcases List.mem_append.mp hdigit with hzero | hdigit
    · exact absurd (isDigit_of_mem_zeros hzero) (by decide)
    · exact absurd (Nat.isDigit_of_mem_toDigits (by decide) (by decide) hdigit) (by decide)
  rw [htext, readPositional_point hpoint, hall, ofDigitChars_padded, hlength]

/-- A decimal without a point is read as a whole number, with a fraction of zero behind it or
not. -/
theorem readPositional_text_ofNat (digits e : Nat) :
    readPositional (text ⟨digits, .ofNat e⟩).toList = (digits * Nat.pow 10 e, 1) ∧
      readPositional ((text ⟨digits, .ofNat e⟩).toList ++ ".0".toList) =
        (10 * (digits * Nat.pow 10 e), 10) := by
  have hpoint : '.' ∉ (text ⟨digits, .ofNat e⟩).toList := by
    rw [toList_text_ofNat]
    intro hmem
    rcases List.mem_append.mp hmem with hdigit | hzero
    · exact absurd (Nat.isDigit_of_mem_toDigits (by decide) (by decide) hdigit) (by decide)
    · exact absurd (isDigit_of_mem_zeros hzero) (by decide)
  have hvalue : Nat.ofDigitChars 10 (text ⟨digits, .ofNat e⟩).toList 0 =
      digits * Nat.pow 10 e := by
    rw [toList_text_ofNat, Nat.ofDigitChars_append, Nat.ofDigitChars_replicate_zero,
      Nat.ofDigitChars_ten_toDigits, Nat.mul_comm]
    rfl
  constructor
  · rw [readPositional_whole hpoint, hvalue]
  · have hread : readPositional ((text ⟨digits, .ofNat e⟩).toList ++ '.' :: ['0']) = _ :=
      readPositional_point hpoint
    rw [Nat.ofDigitChars_append, hvalue] at hread
    exact hread

end Decimal

/-! ## Doubles -/

namespace Double

variable {x y : Double}

/-- The double that a text writes: a sign, and a number in positional notation. -/
def ofText (s : String) : Double :=
  match s.toList with
  | '-' :: rest =>
    let (num, den) := Decimal.readPositional rest
    nearest true (num * unitsPerOne) den
  | chars =>
    let (num, den) := Decimal.readPositional chars
    nearest false (num * unitsPerOne) den

/-- A sign and an unsigned text are read apart. -/
theorem ofText_signed (negative : Bool) {s : String} (h : '-' ∉ s.toList) :
    ofText ((if negative then "-" else "") ++ s) =
      nearest negative ((Decimal.readPositional s.toList).1 * unitsPerOne)
        (Decimal.readPositional s.toList).2 := by
  cases negative with
  | true =>
    have hlist : ((if true then "-" else "") ++ s).toList = '-' :: s.toList := by simp
    rw [ofText, hlist]
    rfl
  | false =>
    have hlist : ((if false then "-" else "") ++ s).toList = s.toList := by simp
    rw [ofText, hlist]
    split
    · rename_i heq
      exact absurd (heq ▸ List.mem_cons_self) h
    · rfl

/-- A decimal is read as a number that is rounded like the decimal. -/
theorem ofText_decimal (negative : Bool) (d : Decimal) :
    ofText ((if negative then "-" else "") ++ d.text) =
      ofDecimal negative d.digits d.exponent := by
  have hminus : '-' ∉ d.text.toList := fun hmem =>
    (Decimal.isDigit_of_mem_text hmem).elim (absurd · (by decide)) (absurd · (by decide))
  rw [ofText_signed negative hminus]
  obtain ⟨digits, e | e⟩ := d
  · rw [(Decimal.readPositional_text_ofNat digits e).1]
    rfl
  · rw [Decimal.readPositional_text_negSucc]
    rfl

/-- A whole decimal is read in the same way with a fraction of zero behind it. -/
theorem ofText_decimal_point (negative : Bool) (digits e : Nat) :
    ofText ((if negative then "-" else "") ++ (Decimal.text ⟨digits, .ofNat e⟩ ++ ".0")) =
      ofDecimal negative digits (.ofNat e) := by
  have hread := (Decimal.readPositional_text_ofNat digits e).2
  rw [← String.toList_append] at hread
  have hminus : '-' ∉ (Decimal.text ⟨digits, .ofNat e⟩ ++ ".0").toList := by
    rw [String.toList_append, List.mem_append, not_or]
    refine ⟨fun hmem => ?_, by decide⟩
    exact (Decimal.isDigit_of_mem_text hmem).elim (absurd · (by decide)) (absurd · (by decide))
  rw [ofText_signed negative hminus, hread, nearest, Nat.mul_assoc]
  dsimp only
  have hscale : nearestRank (10 * (digits * Nat.pow 10 e * unitsPerOne)) (10 * 1) =
      nearestRank (digits * Nat.pow 10 e * unitsPerOne) 1 :=
    nearestRank_mul_left (by decide) Nat.one_pos
  exact congrArg (ofRank negative) hscale

theorem text_of_isFinite (h : x.isFinite = true) (hpos : 0 < x.magnitude) :
    x.text = (if x.isNegative then "-" else "") ++ (Decimal.shortest x).text := by
  have hrank : x.rank < infiniteRank := by simpa [isFinite] using h
  have hnan : x.isNaN = false := by
    rw [isNaN, decide_eq_false_iff_not]
    omega
  have hinfinite : x.isInfinite = false := by
    rw [isInfinite, beq_eq_false_iff_ne]
    omega
  simp only [text, hnan, hinfinite, Nat.pos_iff_ne_zero.mp hpos, Bool.false_eq_true, if_false]

/-- The text of a double that is neither infinite nor zero is read as the double. -/
theorem ofText_text (h : x.isFinite = true) (hpos : 0 < x.magnitude) : ofText x.text = x := by
  rw [text_of_isFinite h hpos, ofText_decimal]
  exact (Decimal.ofDecimal_shortest h hpos).1

/-- The text of a large double is read as the double with a fraction of zero behind it, too. -/
theorem ofText_text_point (h : x.isFinite = true) (hlarge : 10 ^ 16 * unitsPerOne ≤ x.magnitude) :
    ofText (x.text ++ ".0") = x := by
  have hpos : 0 < x.magnitude :=
    (Nat.mul_pos (show 0 < 10 ^ 16 by decide) unitsPerOne_pos).trans_le hlarge
  obtain ⟨hround, n, hn, hexponent⟩ := Decimal.ofDecimal_shortest h hpos
  have hpoint := Decimal.le_pointPosition hlarge
  obtain ⟨e, he⟩ : ∃ e, (Decimal.shortest x).exponent = Int.ofNat e :=
    Int.eq_ofNat_of_zero_le (by omega)
  rw [text_of_isFinite h hpos, String.append_assoc]
  generalize Decimal.shortest x = d at *
  obtain ⟨digits, exponent⟩ := d
  dsimp only at he hround
  subst he
  rw [ofText_decimal_point]
  exact hround

end Double

end DocMapper
