import Mathlib.Data.List.Induction
import DocMapper.Lowering
import DocMapper.Proofs.Matching

namespace DocMapper

/-! # Conditions of several keys on one path

The conditions that keys put on one path are written over each other: equality replaces equality,
and an operator replaces the same operator. The joint condition therefore asks for all that each
of them asks for only when they agree, and then it means their conjunction.
-/

namespace Conditions

variable {a b c own : Conditions} {cs : List Conditions} {value : Option Value}

/-! ## Joining -/

/-- The conditions `own` written over the conditions `c`. -/
def join (c own : Conditions) : Conditions where
  equal? := own.equal?.or c.equal?
  operators := Document.insertAll c.operators own.operators

/-- Conditions written over each other in order. -/
def joined (cs : List Conditions) : Conditions := cs.foldl join {}

/-- What conditions look like in a draft: operators only, each once, options beside a pattern
only, and not nothing. Equality has a place of its own. -/
structure Proper (c : Conditions) : Prop where
  distinct : (Document.keys c.operators).Nodup
  plain : ∀ key ∈ Document.keys c.operators, isOperatorKey key = true ∧ key ≠ "$eq"
  options : "$options" ∈ Document.keys c.operators → "$regex" ∈ Document.keys c.operators

/-- What the conditions of one key look like: equality, or operators. -/
structure Single (c : Conditions) : Prop extends Proper c where
  one : c.equal?.isSome = true ↔ c.operators = []

theorem proper_empty : Proper {} :=
  ⟨List.nodup_nil, fun _ h => absurd h List.not_mem_nil, fun h => absurd h List.not_mem_nil⟩

theorem get?_join (hown : own.Proper) (c : Conditions) (key : String) :
    Document.get? (c.join own).operators key =
      (Document.get? own.operators key).or (Document.get? c.operators key) :=
  Document.get?_insertAll hown.distinct c.operators key

theorem empty_join (hown : own.Proper) : join {} own = own := by
  have hoperators : Document.insertAll [] own.operators = own.operators :=
    Document.insertAll_of_disjoint hown.distinct fun _ _ h => absurd h List.not_mem_nil
  simp [join, hoperators]

theorem Proper.join (hc : c.Proper) (hown : own.Proper) : (c.join own).Proper := by
  refine ⟨Document.nodup_keys_insertAll hc.distinct _, ?_, ?_⟩
  · intro key hkey
    rcases Document.mem_keys_insertAll.mp hkey with hkey | hkey
    · exact hc.plain key hkey
    · exact hown.plain key hkey
  · intro hkey
    refine Document.mem_keys_insertAll.mpr ?_
    rcases Document.mem_keys_insertAll.mp hkey with hkey | hkey
    · exact Or.inl (hc.options hkey)
    · exact Or.inr (hown.options hkey)

theorem joined_concat (cs : List Conditions) (own : Conditions) :
    joined (cs ++ [own]) = (joined cs).join own := by
  simp [joined]

theorem joined_proper (h : ∀ c ∈ cs, c.Proper) : (joined cs).Proper := by
  -- the last conditions are the outermost, so the induction takes them off the end
  induction cs using List.reverseRecOn with
  | nil => exact proper_empty
  | append_singleton cs own ih =>
    rw [joined_concat]
    exact (ih fun c hc => h c (List.mem_append_left _ hc)).join (h own (by simp))

/-- Everything in the joint conditions comes from one of them. -/
theorem exists_of_get?_joined (h : ∀ c ∈ cs, c.Proper) {key : String} {v : Value}
    (hget : Document.get? (joined cs).operators key = some v) :
    ∃ c ∈ cs, Document.get? c.operators key = some v := by
  induction cs using List.reverseRecOn with
  | nil => simp [joined] at hget
  | append_singleton cs own ih =>
    rw [joined_concat, get?_join (h own (by simp)), Option.or_eq_some_iff] at hget
    rcases hget with hget | ⟨-, hget⟩
    · exact ⟨own, by simp, hget⟩
    · obtain ⟨c, hc, hget⟩ := ih (fun c hc => h c (List.mem_append_left _ hc)) hget
      exact ⟨c, List.mem_append_left _ hc, hget⟩

theorem exists_of_equal?_joined {v : Value} (hequal : (joined cs).equal? = some v) :
    ∃ c ∈ cs, c.equal? = some v := by
  induction cs using List.reverseRecOn with
  | nil => simp [joined] at hequal
  | append_singleton cs own ih =>
    rw [joined_concat, join, Option.or_eq_some_iff] at hequal
    rcases hequal with hequal | ⟨-, hequal⟩
    · exact ⟨own, by simp, hequal⟩
    · obtain ⟨c, hc, hequal⟩ := ih hequal
      exact ⟨c, List.mem_append_left _ hc, hequal⟩

/-- An operator of one of the conditions is there in the joint ones, with some operand. -/
theorem mem_keys_joined (hc : c ∈ cs) {key : String} (hkey : key ∈ Document.keys c.operators) :
    key ∈ Document.keys (joined cs).operators := by
  induction cs using List.reverseRecOn with
  | nil => exact absurd hc List.not_mem_nil
  | append_singleton cs own ih =>
    rw [joined_concat, join]
    refine Document.mem_keys_insertAll.mpr ?_
    rcases List.mem_append.mp hc with hc | hc
    · exact Or.inl (ih hc)
    · exact Or.inr (List.mem_singleton.mp hc ▸ hkey)

theorem isSome_equal?_joined (hc : c ∈ cs) (hequal : c.equal?.isSome = true) :
    (joined cs).equal?.isSome = true := by
  induction cs using List.reverseRecOn with
  | nil => exact absurd hc List.not_mem_nil
  | append_singleton cs own ih =>
    rw [joined_concat, join, Option.isSome_or, Bool.or_eq_true]
    rcases List.mem_append.mp hc with hc | hc
    · exact Or.inr (ih hc)
    · exact Or.inl (List.mem_singleton.mp hc ▸ hequal)

/-! ## Agreement -/

/-- Two conditions agree when neither takes anything from the other: they ask for the same
equality and give the same operators the same operands, their patterns have the same options, and
a list of operators asked for by equality stays alone. -/
structure Agree (a b : Conditions) : Prop where
  equal : ∀ v w, a.equal? = some v → b.equal? = some w → v = w
  operand : ∀ key v w, Document.get? a.operators key = some v →
    Document.get? b.operators key = some w → v = w
  options : "$regex" ∈ Document.keys a.operators → "$regex" ∈ Document.keys b.operators →
    Document.get? a.operators "$options" = Document.get? b.operators "$options"
  carried : ∀ v, a.equal? = some v → v.isOperators = true → b.operators = []

/-- Joint conditions keep the conditions `own` of one key: they ask for all that it asks for. -/
structure Keeps (c own : Conditions) : Prop where
  equal : ∀ v, own.equal? = some v → c.equal? = some v
  operand : ∀ key v, Document.get? own.operators key = some v →
    Document.get? c.operators key = some v
  options : "$regex" ∈ Document.keys own.operators →
    Document.get? c.operators "$options" = Document.get? own.operators "$options"
  carried : ∀ v, own.equal? = some v → v.isOperators = true → c.operators = []

theorem Keeps.agree (ha : c.Keeps a) (hb : c.Keeps b) : a.Agree b := by
  refine ⟨?_, ?_, ?_, ?_⟩
  · intro v w hv hw
    have heq := (ha.equal v hv).symm.trans (hb.equal w hw)
    exact Option.some.inj heq
  · intro key v w hv hw
    have heq := (ha.operand key v hv).symm.trans (hb.operand key w hw)
    exact Option.some.inj heq
  · intro hregex hregex'
    exact (ha.options hregex).symm.trans (hb.options hregex')
  · intro v hv hoperators
    have hnone := ha.carried v hv hoperators
    refine Document.eq_nil_of_get? fun key => Option.eq_none_iff_forall_ne_some.mpr fun w hw => ?_
    have hget := hb.operand key w hw
    rw [hnone] at hget
    cases hget

/-- The conditions of one key agree with themselves. -/
theorem Single.agree_self (hc : c.Single) : c.Agree c where
  equal := fun _ _ hv hw => Option.some.inj (hv.symm.trans hw)
  operand := fun _ _ _ hv hw => Option.some.inj (hv.symm.trans hw)
  options := fun _ _ => rfl
  carried := fun _ hv _ => hc.one.mp (Option.isSome_of_eq_some hv)

/-- Operators that are all different agree. -/
theorem agree_of_disjoint (ha : a.equal? = none) (h : ∀ key ∈ Document.keys a.operators,
    key ∉ Document.keys b.operators) : a.Agree b where
  equal := fun v w hv _ => by simp [ha] at hv
  operand := fun key v w hv hw => by
    have hkey := Document.mem_keys_of_mem (Document.mem_of_get?_eq_some hv)
    exact absurd (Document.mem_keys_of_mem (Document.mem_of_get?_eq_some hw)) (h key hkey)
  options := fun hregex hregex' => absurd hregex' (h _ hregex)
  carried := fun v hv _ => by simp [ha] at hv

theorem keeps_joined (h : ∀ c ∈ cs, c.Proper) (hagree : ∀ a ∈ cs, ∀ b ∈ cs, a.Agree b)
    (hown : own ∈ cs) : (joined cs).Keeps own := by
  have hkey : ∀ key v, Document.get? own.operators key = some v →
      Document.get? (joined cs).operators key = some v := by
    intro key v hv
    have hmem := Document.mem_keys_of_mem (Document.mem_of_get?_eq_some hv)
    obtain ⟨w, hw⟩ := Document.exists_get?_of_mem_keys (mem_keys_joined hown hmem)
    obtain ⟨b, hb, hbw⟩ := exists_of_get?_joined h hw
    rw [hw, (hagree own hown b hb).operand key v w hv hbw]
  refine ⟨?_, hkey, ?_, ?_⟩
  -- whatever stands in the joint conditions comes from a key that agrees with this one
  · intro v hv
    have hsome := isSome_equal?_joined hown (Option.isSome_of_eq_some hv)
    obtain ⟨w, hw⟩ := Option.isSome_iff_exists.mp hsome
    obtain ⟨b, hb, hbw⟩ := exists_of_equal?_joined hw
    rw [hw, (hagree own hown b hb).equal v w hv hbw]
  · intro hregex
    cases hoptions : Document.get? own.operators "$options" with
    | some v => exact hkey _ v hoptions
    | none =>
      -- options in the joint conditions come with the pattern of another key
      cases hjoined : Document.get? (joined cs).operators "$options" with
      | none => rfl
      | some w =>
        obtain ⟨b, hb, hbw⟩ := exists_of_get?_joined h hjoined
        have hbregex := (h b hb).options
          (Document.mem_keys_of_mem (Document.mem_of_get?_eq_some hbw))
        have heq := (hagree own hown b hb).options hregex hbregex
        rw [hoptions, hbw] at heq
        cases heq
  · intro v hv hoperators
    refine Document.eq_nil_of_get? fun key => Option.eq_none_iff_forall_ne_some.mpr fun w hw => ?_
    obtain ⟨b, hb, hbw⟩ := exists_of_get?_joined h hw
    rw [(hagree own hown b hb).carried v hv hoperators] at hbw
    cases hbw

/-- The conditions agree exactly when the joint ones keep each of them. -/
theorem agree_iff_keeps (h : ∀ c ∈ cs, c.Proper) :
    (∀ a ∈ cs, ∀ b ∈ cs, a.Agree b) ↔ ∀ own ∈ cs, (joined cs).Keeps own :=
  ⟨fun hagree _ hown => keeps_joined h hagree hown,
    fun hkeeps a ha b hb => (hkeeps a ha).agree (hkeeps b hb)⟩

/-! ## Meaning -/

theorem isOperators_of_proper (hc : c.Proper) (hne : c.operators ≠ []) :
    (Value.document c.operators).isOperators = true := by
  obtain ⟨entry, rest, heq⟩ := List.exists_cons_of_ne_nil hne
  have hkey := (hc.plain entry.1 (heq ▸ List.mem_cons_self)).1
  rw [heq]
  exact hkey

/-- Beside operators, the equality is an operator too, the first of the list. -/
theorem toValue_of_equal (hc : c.Proper) {v : Value} (hequal : c.equal? = some v)
    (hne : c.operators ≠ []) : c.toValue = .document (("$eq", v) :: c.operators) := by
  have hinsert : Document.insertAll [("$eq", v)] c.operators = ("$eq", v) :: c.operators := by
    refine Document.insertAll_of_disjoint hc.distinct fun key hkey hmem => ?_
    exact (hc.plain key hkey).2 (List.mem_singleton.mp hmem)
  simp [toValue, hequal, hne, hinsert]

/-- A value meets conditions when it meets the equality and passes every operator. A list of
operators asked for by equality is carried out when it stands alone, and compared with
otherwise. -/
theorem meets_toValue (hc : c.Proper) (hne : c.equal? = none → c.operators ≠ []) :
    Value.meets value c.toValue = .ok true ↔
      (∀ v, c.equal? = some v → if c.operators = [] then Value.meets value v = .ok true
        else Value.equalsOperand value v = true) ∧
      ∀ entry ∈ c.operators, Value.passes c.operators value entry.1 entry.2 = .ok true := by
  cases hequal : c.equal? with
  | none =>
    rw [toValue, hequal, Value.meets_of_operators (isOperators_of_proper hc (hne hequal)),
      Value.passesAll_eq_true]
    simp
  | some v =>
    by_cases hnil : c.operators = []
    · simp [toValue, hequal, hnil]
    · have hvalue := toValue_of_equal hc hequal hnil
      have hoperators : (Value.document (("$eq", v) :: c.operators)).isOperators = true := rfl
      -- no other operator looks at the equality, so they say what they said without it
      have hsame : ∀ entry : String × Value,
          Value.passes (("$eq", v) :: c.operators) value entry.1 entry.2 =
            Value.passes c.operators value entry.1 entry.2 := by
        intro entry
        refine Value.passes_congr entry.2 fun _ => ?_
        simp [Value.optionsOf, Document.get?_cons]
      have heq : Value.passes (("$eq", v) :: c.operators) value "$eq" v =
          .ok (Value.equalsOperand value v) := rfl
      rw [hvalue, Value.meets_of_operators hoperators, Value.passesAll_eq_true,
        List.forall_mem_cons]
      simp only [hsame, heq, hnil, if_false, Option.some.injEq, forall_eq', Except.ok.injEq]

/-- Joint conditions that keep the conditions of every key mean their conjunction. -/
theorem meets_joined (h : ∀ c ∈ cs, c.Single) (hne : cs ≠ [])
    (hkeeps : ∀ own ∈ cs, (joined cs).Keeps own) :
    Value.meets value (joined cs).toValue = .ok true ↔
      ∀ own ∈ cs, Value.meets value own.toValue = .ok true := by
  have hproper : ∀ c ∈ cs, c.Proper := fun c hc => (h c hc).toProper
  have hjoined : (joined cs).Proper := joined_proper hproper
  have hsomething : (joined cs).equal? = none → (joined cs).operators ≠ [] := by
    intro hequal hnil
    obtain ⟨c, rest, heq⟩ := List.exists_cons_of_ne_nil hne
    have hc : c ∈ cs := by rw [heq]; exact List.mem_cons_self
    have hcnil : c.operators = [] := by
      refine Document.eq_nil_of_get? fun key => Document.get?_eq_none_iff.mpr fun hkey => ?_
      have hmem := mem_keys_joined hc hkey
      rw [hnil] at hmem
      exact absurd hmem List.not_mem_nil
    have hsome := isSome_equal?_joined hc ((h c hc).one.mpr hcnil)
    simp [hequal] at hsome
  have hown : ∀ own ∈ cs, own.equal? = none → own.operators ≠ [] := by
    intro own hmem hequal hnil
    have hsome := (h own hmem).one.mpr hnil
    simp [hequal] at hsome
  -- compared with or carried out, an equality that is kept means what it means alone
  have hequality : ∀ own ∈ cs, ∀ v, own.equal? = some v →
      ((if (joined cs).operators = [] then Value.meets value v = .ok true
        else Value.equalsOperand value v = true) ↔ Value.meets value v = .ok true) := by
    intro own hmem v hv
    split
    · rfl
    · rename_i hoperators
      have hplain : v.isOperators = false := by
        rw [← Bool.not_eq_true]
        intro htrue
        exact hoperators ((hkeeps own hmem).carried v hv htrue)
      rw [Value.meets_of_not_operators hplain, Except.ok.injEq]
  -- the operators of other keys matter for the options of a pattern only, which are kept
  have hpasses : ∀ own ∈ cs, ∀ entry ∈ own.operators,
      Value.passes (joined cs).operators value entry.1 entry.2 =
        Value.passes own.operators value entry.1 entry.2 := by
    intro own hmem entry hentry
    refine Value.passes_congr entry.2 fun hregex => ?_
    have hkey : "$regex" ∈ Document.keys own.operators :=
      hregex ▸ Document.mem_keys_of_mem hentry
    simp [Value.optionsOf, (hkeeps own hmem).options hkey]
  rw [meets_toValue hjoined hsomething]
  constructor
  · rintro ⟨hequal, hall⟩ own hmem
    rw [meets_toValue (hproper own hmem) (hown own hmem)]
    constructor
    · intro v hv
      rw [if_pos ((h own hmem).one.mp (Option.isSome_of_eq_some hv))]
      exact (hequality own hmem v hv).mp (hequal v ((hkeeps own hmem).equal v hv))
    · intro entry hentry
      rw [← hpasses own hmem entry hentry]
      have hget := (Document.get?_eq_some_iff (hproper own hmem).distinct).mpr hentry
      exact hall entry (Document.mem_of_get?_eq_some ((hkeeps own hmem).operand _ _ hget))
  · intro hall
    constructor
    · intro v hv
      obtain ⟨own, hmem, hequal⟩ := exists_of_equal?_joined hv
      have hmeets := ((meets_toValue (hproper own hmem) (hown own hmem)).mp (hall own hmem)).1
        v hequal
      rw [if_pos ((h own hmem).one.mp (Option.isSome_of_eq_some hequal))] at hmeets
      exact (hequality own hmem v hequal).mpr hmeets
    · intro entry hentry
      have hget := (Document.get?_eq_some_iff hjoined.distinct).mpr hentry
      obtain ⟨own, hmem, hownget⟩ := exists_of_get?_joined hproper hget
      have hin := Document.mem_of_get?_eq_some hownget
      rw [hpasses own hmem entry hin]
      exact ((meets_toValue (hproper own hmem) (hown own hmem)).mp (hall own hmem)).2 entry hin

end Conditions

end DocMapper
