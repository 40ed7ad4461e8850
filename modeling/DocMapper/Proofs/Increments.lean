import DocMapper.Proofs.Paths
import DocMapper.Proofs.Stores
import DocMapper.Proofs.Sums

namespace DocMapper

/-! # Increments

An increment reads the number at its path and writes the sum back, so that the exact sum stands
there afterwards. A sum that does not fit is an error, and the document stays as it was. Orders of
one list of increments differ in the widths that they leave and in which of them fail, but where
none fails they all add up to one number.
-/

namespace Document

variable {d d' : Document} {path : String} {v w : Value}

/-! ## One increment -/

/-- The update that adds an amount at a path. -/
def increase (path : String) (amount : Value) : Document :=
  [("$inc", .document [(path, amount)])]

/-- At the path stands an integer of one of the widths. -/
def HoldsInteger (path : String) (n : Int) (d : Document) : Prop :=
  ∃ v, getPath? d path = some v ∧ v.toInt? = some n

variable {a : Value} {m n : Int}

theorem HoldsInteger.amount_eq (h : HoldsInteger path n d) : amount path d = n := by
  obtain ⟨v, hget, hv⟩ := h
  rw [amount, hget, Option.bind_some, hv, Option.getD_some]

theorem HoldsInteger.addsInteger (h : HoldsInteger path n d) : AddsInteger path d := by
  obtain ⟨v, hget, hv⟩ := h
  intro w hw
  rw [hget, Option.some.injEq] at hw
  subst hw
  cases v with
  | int32 | int64 => exact Or.inr rfl
  | _ => cases hv

theorem HoldsInteger.fits64 (h : HoldsInteger path n d) : Fits64 n := by
  obtain ⟨v, -, hv⟩ := h
  exact Value.fits64_of_toInt? hv

theorem updated_increase (d : Document) (path : String) (a : Value) :
    updated d (increase path a) = applyAt "$inc" d (path, a) := by
  have hfields : ([(path, a)] : Document).foldlM (applyAt "$inc") d =
      applyAt "$inc" d (path, a) := by
    rw [List.foldlM_cons]
    exact bind_pure _
  rw [increase, updated, List.foldlM_cons, applyOperator]
  dsimp only
  rw [hfields]
  exact bind_pure _

theorem Operates.increment_eq {operator : String} (h : Operates d path a operator v)
    (hoperator : operator = "$inc") : increment d path a = .ok v := by
  cases h with
  | set => exact absurd hoperator (by decide)
  | inc hsum => exact hsum

/-- An increment of what counts as an integer gives the exact sum, or fails. -/
theorem increment_cases (hd : AddsInteger path d) (ha : a.toInt? = some n) :
    (Fits64 (amount path d + n) ∧
      ∃ sum, increment d path a = .ok sum ∧ sum.toInt? = some (amount path d + n)) ∨
      (¬Fits64 (amount path d + n) ∧ ∃ e, increment d path a = .error e) := by
  -- where nothing is to be added to, the amount itself is the sum
  have hnone : amount path d = 0 → increment d path a = .ok a →
      Fits64 (amount path d + n) ∧
        ∃ sum, increment d path a = .ok sum ∧ sum.toInt? = some (amount path d + n) := by
    intro hamount hsum
    rw [hamount, Int.zero_add]
    exact ⟨Value.fits64_of_toInt? ha, a, hsum, ha⟩
  cases hget : getPath? d path with
  | none => exact Or.inl (hnone (by rw [amount, hget]; rfl) (by rw [increment, hget]))
  | some v =>
    rcases hd v hget with rfl | hinteger
    · exact Or.inl (hnone (by rw [amount, hget]; rfl) (by rw [increment, hget]))
    · obtain ⟨m, hm⟩ := Value.exists_toInt? hinteger
      have hamount : amount path d = m := HoldsInteger.amount_eq ⟨v, hget, hm⟩
      -- both are integers now, so overflow is the only way to fail
      have hincrement : increment d path a =
          (v.add? a).elim (.error (.driver (.incrementNotNumber path))) .ok := by
        cases v with
        | int32 b | int64 b =>
          simp only [increment, hget]
          cases Value.add? _ a with
          | none => rfl
          | some sum => rfl
        | _ => cases hm
      rw [hamount, hincrement]
      rcases Value.add?_cases hm ha with ⟨hfits, sum, hsum, hvalue⟩ | ⟨hout, hsum⟩
      · exact Or.inl ⟨hfits, sum, congrArg (Option.elim · _ _) hsum, hvalue⟩
      · exact Or.inr ⟨hout, _, congrArg (Option.elim · _ _) hsum⟩

/-- An increment that succeeds leaves the exact sum. -/
theorem holdsInteger_of_increase (hd : AddsInteger path d) (ha : a.toInt? = some n)
    (h : updated d (increase path a) = .ok d') : HoldsInteger path (amount path d + n) d' := by
  rw [updated_increase] at h
  obtain ⟨-, sum, hoperates, hwrite⟩ := applyAt_eq_ok h
  have hsum := hoperates.increment_eq rfl
  rcases increment_cases hd ha with ⟨-, sum', hsum', hvalue⟩ | ⟨-, e, he⟩
  · rw [hsum, Except.ok.injEq] at hsum'
    subst hsum'
    exact ⟨sum, getPath?_write hwrite, hvalue⟩
  · rw [hsum] at he
    cases he

/-- An increment whose sum does not fit fails. -/
theorem increase_eq_error (hd : AddsInteger path d) (ha : a.toInt? = some n)
    (hout : ¬Fits64 (amount path d + n)) : ∃ e, updated d (increase path a) = .error e := by
  cases h : updated d (increase path a) with
  | error e => exact ⟨e, rfl⟩
  | ok d' => exact absurd (holdsInteger_of_increase hd ha h).fits64 hout

/-- Where something stands, other than the identifier, an increment succeeds if the sum fits. -/
theorem exists_increase (hd : AddsInteger path d) (hget : getPath? d path = some w)
    (hpath : path ≠ idKey) (ha : a.toInt? = some n) (hfits : Fits64 (amount path d + n)) :
    ∃ d', updated d (increase path a) = .ok d' := by
  rcases increment_cases hd ha with ⟨-, sum, hsum, -⟩ | ⟨hout, -⟩
  · obtain ⟨d', hd'⟩ := exists_write hget sum
    refine ⟨d', ?_⟩
    rw [updated_increase, applyAt, decide_eq_false hpath, hsum]
    exact hd'
  · exact absurd hfits hout

/-! ## Increments one after the other -/

/-- Increments at one path, one after the other. -/
def increaseAll (path : String) (amounts : List Value) (d : Document) : Except Error Document :=
  amounts.foldlM (fun c a => updated c (increase path a)) d

/-- The sum of the integers among values. -/
def sumOf (amounts : List Value) : Int := (amounts.filterMap Value.toInt?).sum

/-- Increments that succeed throughout add up. -/
theorem holdsInteger_of_increaseAll {amounts : List Value} (hd : AddsInteger path d)
    (hall : ∀ a ∈ amounts, a.isInteger = true) (h : increaseAll path amounts d = .ok d') :
    (amounts = [] ∧ d' = d) ∨ HoldsInteger path (amount path d + sumOf amounts) d' := by
  induction amounts generalizing d with
  | nil => exact Or.inl ⟨rfl, (Except.ok.inj h).symm⟩
  | cons a rest ih =>
    obtain ⟨n, hn⟩ := Value.exists_toInt? (hall a List.mem_cons_self)
    rw [increaseAll, List.foldlM_cons] at h
    obtain ⟨c, hc, hrest⟩ := bind_eq_ok.mp h
    have hholds := holdsInteger_of_increase hd hn hc
    have hsum : sumOf (a :: rest) = n + sumOf rest := by
      rw [sumOf, List.filterMap_cons, hn, List.sum_cons, sumOf]
    rw [hsum, ← Int.add_assoc]
    -- the sum of the rest starts from what the first amount made
    rcases ih hholds.addsInteger (fun b hb => hall b (List.mem_cons_of_mem _ hb)) hrest with
      ⟨rfl, rfl⟩ | hafter
    · right
      rw [sumOf, List.filterMap_nil, List.sum_nil, Int.add_zero]
      exact hholds
    · rw [hholds.amount_eq] at hafter
      exact Or.inr hafter

theorem sumOf_perm {amounts amounts' : List Value} (h : amounts.Perm amounts') :
    sumOf amounts = sumOf amounts' := (h.filterMap _).sum_eq

end Document

/-! ## Increments in the store -/

namespace Store

open Document

variable {s : Store} {d : Document} {filter changes : Document} {i : Nat} {e : Error}

theorem getElem?_insert {s' : Store} {c : Document} {id : Value} (h : s.insert c = .ok (id, s'))
    (hd : s.documents[i]? = some d) : s'.documents[i]? = some d := by
  rw [(insert_eq_ok h).documents]
  exact List.getElem?_append_left (List.getElem?_eq_some_iff.mp hd).1 ▸ hd

/-- A document for which an update fails stays where it is and as it is, whatever the update
selects and whether it answers or fails. -/
theorem getElem?_update (hfails : updated d changes = .error e) (hd : s.documents[i]? = some d)
    (filter : Document) (upsert many : Bool) :
    (Action.update filter changes upsert many s).2.documents[i]? = some d := by
  have hupdated : ∀ c c', updated c changes = .ok c' → c = d → c' = d := by
    intro c c' hc hcd
    rw [hcd, hfails] at hc
    cases hc
  have hpreserves : Action.Preserves (fun s => s.documents[i]? = some d)
      (Action.update filter changes upsert many) fun _ => True := by
    refine Action.update_preserves (fun _ t ht => ?_) fun _ c _ => ?_
    · obtain ⟨d', hd', hkept⟩ := forall₂_exists_of_getElem?
        (updateEach_forall₂ (fun _ h => h) hupdated filter many t.documents) ht
      rw [← hkept rfl]
      exact hd'
    · exact Action.Preserves.atomic fun t id t' ht hinsert => getElem?_insert hinsert ht
  exact (hpreserves s hd).1

theorem getElem?_findOneAndUpdate (hfails : updated d changes = .error e)
    (hd : s.documents[i]? = some d) (filter : Document) (options : ReadOptions) (upsert : Bool) :
    (Action.atomic (·.findOneAndUpdate filter changes options upsert) s).2.documents[i]? =
      some d := by
  have hpreserves : Action.Preserves (fun s => s.documents[i]? = some d)
      (Action.atomic (·.findOneAndUpdate filter changes options upsert)) fun _ => True := by
    refine Action.Preserves.atomic fun t answer t' ht h => ?_
    obtain ⟨-, -, h⟩ := bind_eq_ok.mp h
    rcases modifyOne_eq_ok h with ⟨j, c, next, hc, hnext, rfl⟩ | ⟨-, c, id, -, hinsert⟩ | ⟨-, rfl⟩
    · -- what was changed is another document, since here the update fails
      have hne : j ≠ i := by
        rintro rfl
        rw [ht, Option.some.injEq] at hc
        rw [← hc, hfails] at hnext
        cases hnext
      exact (List.getElem?_set_ne hne).trans ht
    · exact getElem?_insert hinsert ht
    · exact ht
  exact (hpreserves s hd).1

/-- An update that selects such a document first fails, and leaves the store as it was. -/
theorem update_of_error (hfails : updated d changes = .error e) {before after : List Document}
    (hdocs : s.documents = before ++ d :: after)
    (hbefore : ∀ c ∈ before, satisfies c filter = .ok false)
    (hselected : satisfies d filter = .ok true) (upsert many : Bool) :
    ∃ e, Action.update filter changes upsert many s = (.error e, s) := by
  have heach : updateEach filter changes many s.documents = (.error e, s.documents) := by
    rw [hdocs, updateEach_append hbefore, updateEach, hselected]
    dsimp only
    rw [hfails]
  rw [Action.update, Action.bind_apply, Action.check]
  -- the operators are refused before anything is read, or the update stops at the document
  cases requireOperators changes with
  | error e' => exact ⟨e', rfl⟩
  | ok =>
    refine ⟨e, ?_⟩
    dsimp only
    rw [Action.bind_apply, heach]

end Store

namespace Document

/-- An update fails at a document and leaves it as it is: alone, and in every store. -/
structure Refuses (d changes : Document) : Prop where
  alone : ∃ e, updated d changes = .error e
  stays : ∀ (s : Store) (i : Nat) filter upsert many, s.documents[i]? = some d →
    (Action.update filter changes upsert many s).2.documents[i]? = some d
  staysFound : ∀ (s : Store) (i : Nat) filter options upsert, s.documents[i]? = some d →
    (Action.atomic (·.findOneAndUpdate filter changes options upsert) s).2.documents[i]? = some d
  first : ∀ (s : Store) before after filter upsert many, s.documents = before ++ d :: after →
    (∀ c ∈ before, satisfies c filter = .ok false) → satisfies d filter = .ok true →
    ∃ e, Action.update filter changes upsert many s = (.error e, s)

theorem refuses_of_error {d changes : Document} {e : Error} (h : updated d changes = .error e) :
    Refuses d changes where
  alone := ⟨e, h⟩
  stays _ _ filter upsert many hd := Store.getElem?_update h hd filter upsert many
  staysFound _ _ filter options upsert hd :=
    Store.getElem?_findOneAndUpdate h hd filter options upsert
  first _ _ _ _ upsert many hdocs hbefore hselected :=
    Store.update_of_error h hdocs hbefore hselected upsert many

/-- Increments where an integer stands, null or nothing. One that succeeds leaves the exact sum, and
it succeeds if the sum fits and something other than the identifier stands there; one whose sum
does not fit fails and changes nothing. Increments that succeed throughout in two orders leave one
number. -/
theorem increments_are_exact {d : Document} {path : String} (hd : AddsInteger path d) :
    (∀ a n, a.toInt? = some n →
      (∀ d', updated d (increase path a) = .ok d' → HoldsInteger path (amount path d + n) d') ∧
      (∀ w, getPath? d path = some w → path ≠ idKey → Fits64 (amount path d + n) →
        ∃ d', updated d (increase path a) = .ok d') ∧
      (¬Fits64 (amount path d + n) → Refuses d (increase path a))) ∧
    ∀ amounts amounts' d₁ d₂, (∀ a ∈ amounts, a.isInteger = true) → amounts.Perm amounts' →
      increaseAll path amounts d = .ok d₁ → increaseAll path amounts' d = .ok d₂ →
      (d₁ = d ∧ d₂ = d) ∨ (HoldsInteger path (amount path d + sumOf amounts) d₁ ∧
        HoldsInteger path (amount path d + sumOf amounts) d₂) := by
  constructor
  · intro a n ha
    refine ⟨fun d' h => holdsInteger_of_increase hd ha h,
      fun w hget hpath hfits => exists_increase hd hget hpath ha hfits, fun hout => ?_⟩
    obtain ⟨e, he⟩ := increase_eq_error hd ha hout
    exact refuses_of_error he
  · intro amounts amounts' d₁ d₂ hall hperm h₁ h₂
    have hall' : ∀ a ∈ amounts', a.isInteger = true := fun a ha => hall a (hperm.mem_iff.mpr ha)
    -- both orders are compared with the sum: as documents their steps do not commute
    rcases holdsInteger_of_increaseAll hd hall h₁ with ⟨rfl, rfl⟩ | hholds₁
    · rcases holdsInteger_of_increaseAll hd hall' h₂ with ⟨-, rfl⟩ | -
      · exact Or.inl ⟨rfl, rfl⟩
      · obtain rfl := hperm.nil_eq
        exact Or.inl ⟨rfl, (Except.ok.inj h₂).symm⟩
    · rcases holdsInteger_of_increaseAll hd hall' h₂ with ⟨rfl, rfl⟩ | hholds₂
      · obtain rfl := hperm.eq_nil
        exact Or.inl ⟨(Except.ok.inj h₁).symm, rfl⟩
      · exact Or.inr ⟨hholds₁, sumOf_perm hperm ▸ hholds₂⟩

/-- The theorem for the largest integer of 32 bits: in one order it widens on the way, in the other
it keeps its width. -/
theorem increments_are_exact_across_widths :
    let d : Document := [("_id", .int32 1), ("n", .int32 2147483647)]
    let d₁ : Document := [("_id", .int32 1), ("n", .int64 2147483645)]
    let d₂ : Document := [("_id", .int32 1), ("n", .int32 2147483645)]
    AddsInteger "n" d ∧ increaseAll "n" [.int32 1, .int32 (-3)] d = .ok d₁ ∧
      increaseAll "n" [.int32 (-3), .int32 1] d = .ok d₂ ∧
      HoldsInteger "n" 2147483645 d₁ ∧ HoldsInteger "n" 2147483645 d₂ := by
  intro d d₁ d₂
  have hd : AddsInteger "n" d := by
    intro v hv
    cases hv
    exact Or.inr rfl
  have h₁ : increaseAll "n" [.int32 1, .int32 (-3)] d = .ok d₁ := rfl
  have h₂ : increaseAll "n" [.int32 (-3), .int32 1] d = .ok d₂ := rfl
  rcases (increments_are_exact hd).2 _ _ _ _ (by simp [Value.isInteger])
    (List.Perm.swap _ _ _) h₁ h₂ with ⟨hsame, -⟩ | ⟨hholds₁, hholds₂⟩
  · simp [d, d₁] at hsame
  · exact ⟨hd, h₁, h₂, hholds₁, hholds₂⟩

end Document

end DocMapper
