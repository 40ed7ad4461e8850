import DocMapper.Proofs.Identities
import DocMapper.Proofs.Matching
import DocMapper.Proofs.Plans
import DocMapper.Proofs.Rounding

namespace DocMapper

/-! # Integers compared in the store

The store compares integers by the doubles that they are rounded to. Rounding keeps their order, so
a comparison can go wrong in one way only: different integers with one nearest double pass for
equal. Below 54 bits there are none.
-/

namespace Value

variable {v w : Value} {m n : Int}

theorem whole?_of_toInt? (h : v.toInt? = some m) : v.whole? = some m := by
  cases v with
  | int32 | int64 => exact h
  | _ => cases h

theorem equals_of_toInt? (hv : v.toInt? = some m) (hw : w.toInt? = some n) :
    v.equals w = decide (Double.ofInt m = Double.ofInt n) := by
  rw [equals_of_magnitude? (magnitude?_of_whole? (whole?_of_toInt? hv))
    (magnitude?_of_whole? (whole?_of_toInt? hw)), Magnitude.equals, beq_eq_decide]
  exact decide_eq_decide.mpr Double.ofInt_eq_iff.symm

theorem compare?_of_toInt? (hv : v.toInt? = some m) (hw : w.toInt? = some n) :
    v.compare? w = some (compare (Double.ofInt m).scaled (Double.ofInt n).scaled) := by
  simp only [compare?, magnitude?_of_whole? (whole?_of_toInt? hv),
    magnitude?_of_whole? (whole?_of_toInt? hw), Magnitude.compare?]

/-! ## Operators on an integer -/

theorem equalsOperand_of_toInt? (hv : v.toInt? = some m) (hw : w.toInt? = some n) :
    equalsOperand (some w) v = decide (Double.ofInt n = Double.ofInt m) := by
  rw [← equals_of_toInt? hw hv]
  cases w with
  | array items => cases hw
  | _ => rfl

theorem liesAt_of_toInt? (sides : List Ordering) (hv : v.toInt? = some m)
    (hw : w.toInt? = some n) : liesAt sides v (some w) =
      decide (compare (Double.ofInt n).scaled (Double.ofInt m).scaled ∈ sides) := by
  have hpasses : liesAt sides v (some w) = (w.compare? v).any (· ∈ sides) := by
    cases w with
    | array items => cases hw
    | _ => rfl
  rw [hpasses, compare?_of_toInt? hw hv, Option.any_some]

end Value

/-! ## Filters and identifiers -/

namespace Document

/-- Two values are told apart and ordered by the integers that they hold: `w` where it is stored,
and `v` as the operand of a filter. As identifiers, both can be in use only if the integers
differ. -/
structure ComparesExactly (m n : Int) (v w : Value) : Prop where
  equal : ∀ d path, isOperatorKey path = false → getPath? d path = some w →
    satisfies d [(path, v)] = .ok (decide (n = m))
  below : ∀ d path, isOperatorKey path = false → getPath? d path = some w →
    satisfies d [(path, .document [("$lt", v)])] = .ok (decide (n < m))
  above : ∀ d path, isOperatorKey path = false → getPath? d path = some w →
    satisfies d [(path, .document [("$gt", v)])] = .ok (decide (n > m))
  distinct : ∀ (s : Store) d e, id? d = some v → id? e = some w →
    s.documents.any (hasId v) = false → s.documents.any (hasId w) = false →
    ((∃ ids s', Action.insertMany [d, e] s = (.ok ids, s')) ↔ m ≠ n)

variable {v w : Value} {m n : Int} {d : Document} {path : String}

/-- An operator alone decides whether a filter selects. -/
theorem satisfies_operator {operator : String} (hoperator : isOperatorKey operator = true)
    (hpath : isOperatorKey path = false) {passed : Bool}
    (h : ∀ operators, Value.passes operators (getPath? d path) operator v = .ok passed) :
    satisfies d [(path, .document [(operator, v)])] = .ok passed := by
  have hoperators : (Value.document [(operator, v)]).isOperators = true := hoperator
  rw [satisfies_singleton hpath, Value.meets_of_operators hoperators, Value.passesAll, h]
  cases passed <;> rfl

theorem satisfies_equal (hv : v.toInt? = some m) (hw : w.toInt? = some n)
    (hpath : isOperatorKey path = false) (hget : getPath? d path = some w) :
    satisfies d [(path, v)] = .ok (decide (Double.ofInt n = Double.ofInt m)) := by
  have hplain : v.isOperators = false := by
    cases v with
    | document => cases hv
    | _ => rfl
  rw [satisfies_singleton hpath, hget, Value.meets_of_not_operators hplain,
    Value.equalsOperand_of_toInt? hv hw]

theorem satisfies_below (hv : v.toInt? = some m) (hw : w.toInt? = some n)
    (hpath : isOperatorKey path = false) (hget : getPath? d path = some w) :
    satisfies d [(path, .document [("$lt", v)])] =
      .ok (decide ((Double.ofInt n).scaled < (Double.ofInt m).scaled)) := by
  refine satisfies_operator (by decide) hpath fun operators => ?_
  rw [hget]
  refine congrArg Except.ok ((Value.liesAt_of_toInt? [.lt] hv hw).trans ?_)
  rw [decide_eq_decide, List.mem_singleton, Int.compare_eq_lt]

theorem satisfies_above (hv : v.toInt? = some m) (hw : w.toInt? = some n)
    (hpath : isOperatorKey path = false) (hget : getPath? d path = some w) :
    satisfies d [(path, .document [("$gt", v)])] =
      .ok (decide ((Double.ofInt n).scaled > (Double.ofInt m).scaled)) := by
  refine satisfies_operator (by decide) hpath fun operators => ?_
  rw [hget]
  refine congrArg Except.ok ((Value.liesAt_of_toInt? [.gt] hv hw).trans ?_)
  rw [decide_eq_decide, List.mem_singleton, Int.compare_eq_gt]

/-- An identifier that is not in use is accepted. -/
theorem insertOne_apply {s : Store} (hd : id? d = some v)
    (hunused : s.documents.any (hasId v) = false) :
    Action.insertOne d s =
      (.ok v, { s with documents := s.documents ++ [(idKey, v) :: erase d idKey] }) := by
  have hinsert : s.insert d =
      .ok (v, { s with documents := s.documents ++ [(idKey, v) :: erase d idKey] }) := by
    simp [Store.insert, hd, hunused]
  rw [Action.insertOne, Action.atomic, hinsert]

/-- Two documents are inserted exactly when the identifier of the second does not equal that of
the first. -/
theorem insertMany_pair_iff {s : Store} {e : Document} (hd : id? d = some v) (he : id? e = some w)
    (hfirst : s.documents.any (hasId v) = false) (hsecond : s.documents.any (hasId w) = false) :
    (∃ ids s', Action.insertMany [d, e] s = (.ok ids, s')) ↔ v.equals w = false := by
  let stored : Document := (idKey, v) :: erase d idKey
  let t : Store := { s with documents := s.documents ++ [stored] }
  have hused : hasId w stored = v.equals w := rfl
  simp only [Action.insertMany, List.mapM_cons, List.mapM_nil]
  constructor
  · rintro ⟨ids, s', h⟩
    obtain ⟨id, t', hfirst', h⟩ := Action.bind_apply_eq_ok.mp h
    rw [insertOne_apply hd hfirst] at hfirst'
    cases hfirst'
    obtain ⟨ids', t', h, -⟩ := Action.bind_apply_eq_ok.mp h
    obtain ⟨id', t'', hinsert, -⟩ := Action.bind_apply_eq_ok.mp h
    have hinserted := Store.insert_eq_ok (Action.atomic_apply_eq_ok.mp hinsert)
    -- that the second went in means that the first, stored by then, is not equal to it
    have hunused := hinserted.unused stored (List.mem_append_right _ List.mem_cons_self)
    rwa [hinserted.given w he, hused] at hunused
  · intro h
    -- nor is any document that was there before
    have hunused : t.documents.any (hasId w) = false := by
      rw [List.any_append, hsecond, Bool.false_or, List.any_cons, List.any_nil, Bool.or_false,
        hused, h]
    let after : Store := { t with documents := t.documents ++ [(idKey, w) :: erase e idKey] }
    refine ⟨[v, w], after, Action.bind_apply_eq_ok.mpr ⟨v, t, insertOne_apply hd hfirst, ?_⟩⟩
    refine Action.bind_apply_eq_ok.mpr ⟨[w], after, Action.bind_apply_eq_ok.mpr ?_, rfl⟩
    exact ⟨w, after, insertOne_apply he hunused, rfl⟩

/-- The store compares integers exactly unless they differ and are rounded to one double. -/
theorem compares_exactly_iff (hv : v.toInt? = some m) (hw : w.toInt? = some n) :
    (ComparesExactly m n v w ↔ m = n ∨ Double.ofInt m ≠ Double.ofInt n) ∧
      (m.natAbs ≤ 2 ^ 53 → n.natAbs ≤ 2 ^ 53 → ComparesExactly m n v w) := by
  have hiff : ComparesExactly m n v w ↔ m = n ∨ Double.ofInt m ≠ Double.ofInt n := by
    constructor
    · intro h
      by_contra hsame
      obtain ⟨hne, heq⟩ := not_or.mp hsame
      -- a document with nothing but the value is enough to confuse them
      have hget : getPath? [("n", w)] "n" = some w := rfl
      have hexact := h.equal _ _ (by decide) hget
      rw [satisfies_equal hv hw (by decide) hget, Except.ok.injEq, decide_eq_decide] at hexact
      exact hne (hexact.mp (not_not.mp heq).symm).symm
    · intro h
      have h' : n = m ∨ Double.ofInt n ≠ Double.ofInt m := h.imp Eq.symm Ne.symm
      refine ⟨fun d path hpath hget => ?_, fun d path hpath hget => ?_,
        fun d path hpath hget => ?_, fun s d e hd he hfirst hsecond => ?_⟩
      · rw [satisfies_equal hv hw hpath hget, Except.ok.injEq, decide_eq_decide]
        exact ⟨fun heq => h'.resolve_right fun hne => hne heq, fun heq => by rw [heq]⟩
      · rw [satisfies_below hv hw hpath hget, Except.ok.injEq, decide_eq_decide]
        exact Double.scaled_ofInt_lt_iff h'
      · rw [satisfies_above hv hw hpath hget, Except.ok.injEq, decide_eq_decide]
        exact Double.scaled_ofInt_lt_iff h
      · rw [insertMany_pair_iff hd he hfirst hsecond, Value.equals_of_toInt? hv hw,
          decide_eq_false_iff_not]
        exact ⟨fun hne heq => hne (by rw [heq]), h.resolve_left⟩
  refine ⟨hiff, fun hm hn => hiff.mpr ?_⟩
  by_cases heq : Double.ofInt m = Double.ofInt n
  · exact Or.inl (Double.ofInt_inj_of_le hm hn heq)
  · exact Or.inr heq

/-- The theorem at the two ends of the range. -/
theorem compares_exactly_at_the_ends :
    (Value.int64 9223372036854775807).toInt? = some 9223372036854775807 ∧
      (Value.int64 (-9223372036854775808)).toInt? = some (-9223372036854775808) ∧
      ComparesExactly 9223372036854775807 (-9223372036854775808) (.int64 9223372036854775807)
        (.int64 (-9223372036854775808)) :=
  ⟨rfl, rfl, (compares_exactly_iff rfl rfl).1.mpr (Or.inr (by decide +kernel))⟩

/-- The first integer that is no double passes for the one before it: a filter for one finds the
other, no order tells them apart, and as identifiers they exclude each other. -/
theorem first_odd_integer_is_confused :
    satisfies [("n", .int64 9007199254740993)] [("n", .int64 9007199254740992)] = .ok true ∧
      satisfies [("n", .int64 9007199254740993)]
        [("n", .document [("$gt", .int64 9007199254740992)])] = .ok false ∧
      ¬∃ ids s', Action.insertMany
        [[(idKey, .int64 9007199254740992)], [(idKey, .int64 9007199254740993)]]
        { ids := ⟨fun _ => ⟨0⟩, 0⟩ } = (.ok ids, s') := by
  have hsame : Double.ofInt 9007199254740993 = Double.ofInt 9007199254740992 := by decide +kernel
  refine ⟨?_, ?_, fun hinserted => ?_⟩
  · rw [satisfies_equal (n := 9007199254740993) (m := 9007199254740992) rfl rfl (by decide) rfl,
      decide_eq_true hsame]
  · rw [satisfies_above (n := 9007199254740993) (m := 9007199254740992) rfl rfl (by decide) rfl,
      hsame, decide_eq_false (Int.lt_irrefl _)]
  · have hequals := (insertMany_pair_iff rfl rfl rfl rfl).mp hinserted
    rw [Value.equals_of_toInt? (m := 9007199254740992) (n := 9007199254740993) rfl rfl,
      decide_eq_true hsame.symm] at hequals
    cases hequals

end Document

end DocMapper
