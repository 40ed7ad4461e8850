import DocMapper.Proofs.Failures

namespace DocMapper

/-! # Whom an error blames

The store blames nobody: whatever fails in a filter, an update or an insertion is an error of the
store, and not one in the caller's input. The rules for actions follow the way they are put
together. What only reads may blame the caller, what never blames the caller may write, and an
action checks first when nothing that blames the caller comes after a write.
-/

/-- A result that is no error in the caller's input. -/
def Blameless {α : Type} (result : Except Error α) : Prop :=
  ∀ e, result = .error e → e.isClient = false

namespace Blameless

variable {α β : Type}

theorem ok (a : α) : Blameless (.ok a) := by
  intro e h
  cases h

theorem error {e : Error} (h : e.isClient = false) : Blameless (.error e : Except Error α) := by
  intro e' h'
  cases h'
  exact h

theorem bind {x : Except Error α} {f : α → Except Error β} (hx : Blameless x)
    (hf : ∀ a, Blameless (f a)) : Blameless (x >>= f) := by
  cases x with
  | error e => exact error (hx e rfl)
  | ok a => exact hf a

theorem map {x : Except Error α} (hx : Blameless x) (f : α → β) : Blameless (x.map f) := by
  cases x with
  | error e => exact error (hx e rfl)
  | ok a => exact ok (f a)

theorem cond {test : Except Error Bool} {x y : Except Error α} (htest : Blameless test)
    (hx : Blameless x) (hy : Blameless y) : Blameless (do if ← test then x else y) := by
  refine htest.bind fun passed => ?_
  cases passed with
  | true => exact hx
  | false => exact hy

theorem forM {f : α → Except Error Unit} {l : List α} (h : ∀ a, Blameless (f a)) :
    Blameless (l.forM f) := by
  induction l with
  | nil => exact ok ()
  | cons a rest ih => exact (h a).bind fun _ => ih

theorem foldlM {f : β → α → Except Error β} {l : List α} (h : ∀ b a, Blameless (f b a)) (b : β) :
    Blameless (l.foldlM f b) := by
  induction l generalizing b with
  | nil => exact ok b
  | cons a rest ih =>
    rw [List.foldlM_cons]
    exact (h b a).bind ih

end Blameless

/-! ## Filters and updates -/

namespace Value

theorem blameless_readPattern (operand : Value) (options : String) :
    Blameless (readPattern operand options) := by
  unfold readPattern
  split
  case h_3 => exact Blameless.error rfl
  all_goals
    dsimp only
    split
    · exact Blameless.ok _
    · exact Blameless.error rfl

theorem blameless_isMember (operator : String) (operand : Value) (value : Option Value) :
    Blameless (isMember operator operand value) := by
  unfold isMember
  split
  · exact Blameless.ok _
  · exact Blameless.error rfl

theorem blameless_passes (operators : Document) (value : Option Value) (operator : String)
    (operand : Value) : Blameless (passes operators value operator operand) := by
  unfold passes
  split
  case h_7 => exact blameless_isMember _ _ _
  case h_8 => exact (blameless_isMember _ _ _).map _
  case h_9 =>
    split
    · exact Blameless.ok _
    · exact Blameless.error rfl
  case h_10 => exact (blameless_readPattern _ _).bind fun _ => Blameless.ok _
  case h_12 => exact Blameless.error rfl
  all_goals exact Blameless.ok _

theorem blameless_passesAll (operators : Document) (value : Option Value) (entries : Document) :
    Blameless (passesAll operators value entries) := by
  induction entries with
  | nil => exact Blameless.ok _
  | cons entry rest ih =>
    exact (blameless_passes _ _ _ _).cond ih (Blameless.ok _)

theorem blameless_meets (value : Option Value) (condition : Value) :
    Blameless (meets value condition) := by
  unfold meets
  split
  · split
    · exact blameless_passesAll _ _ _
    · exact Blameless.ok _
  · exact Blameless.ok _

end Value

namespace Document

theorem blameless_checkClauses (operator : String) (clauses : List Value) :
    Blameless (checkClauses operator clauses) := by
  refine Blameless.forM fun clause => ?_
  split
  · exact Blameless.ok _
  · exact Blameless.error rfl

theorem blameless_satisfies (d filter : Document) : Blameless (satisfies d filter) := by
  -- the induction follows the matching: a filter, one key of it, and the clauses of `$and` and
  -- `$or`; each step is free of blame when the steps that it takes are
  refine satisfies.induct (fun filter => Blameless (satisfies d filter))
    (fun key condition => Blameless (holds d key condition))
    (fun clauses => Blameless (satisfiesAny d clauses))
    (fun clauses => Blameless (satisfiesAll d clauses))
    ?all ?any ?operator ?path ?clauses ?unknown ?plain ?any_cons ?any_nil ?all_cons ?all_nil
    ?nil ?cons filter
  case all =>
    intro clauses ih
    rw [holds, if_pos rfl]
    exact (blameless_checkClauses _ _).bind fun _ => ih
  case any =>
    intro clauses hkey ih
    rw [holds, if_neg hkey, if_pos rfl]
    exact (blameless_checkClauses _ _).bind fun _ => ih
  case operator =>
    intro key clauses hand hor hkey
    rw [holds, if_neg hand, if_neg hor, if_pos hkey]
    exact Blameless.error rfl
  case path =>
    intro key clauses hand hor hkey
    rw [holds, if_neg hand, if_neg hor, if_neg hkey]
    exact Value.blameless_meets _ _
  case clauses =>
    intro condition key hkey hcondition
    rw [holds, if_pos hkey]
    · exact Blameless.error rfl
    · exact hcondition
  case unknown =>
    intro condition key hlogical hkey hcondition
    rw [holds, if_neg hlogical, if_pos hkey]
    · exact Blameless.error rfl
    · exact hcondition
  case plain =>
    intro condition key hlogical hkey hcondition
    rw [holds, if_neg hlogical, if_neg hkey]
    · exact Value.blameless_meets _ _
    · exact hcondition
  case any_cons =>
    intro filter rest ihfilter ihrest
    rw [satisfiesAny]
    exact ihfilter.cond (Blameless.ok _) ihrest
  case any_nil =>
    intro clauses hclauses
    rw [satisfiesAny]
    · exact Blameless.ok _
    · exact hclauses
  case all_cons =>
    intro filter rest ihfilter ihrest
    rw [satisfiesAll]
    exact ihfilter.cond ihrest (Blameless.ok _)
  case all_nil =>
    intro clauses hclauses
    rw [satisfiesAll]
    · exact Blameless.ok _
    · exact hclauses
  case nil =>
    rw [satisfies]
    exact Blameless.ok _
  case cons =>
    intro key condition rest ihholds ihrest
    rw [satisfies]
    exact ihholds.cond ihrest (Blameless.ok _)

theorem blameless_select (filter : Document) (docs : List Document) :
    Blameless (select filter docs) := by
  induction docs with
  | nil => exact Blameless.ok _
  | cons d rest ih =>
    rw [select]
    exact (blameless_satisfies d filter).bind fun _ => ih.bind fun _ => Blameless.ok _

theorem blameless_requireOperators (changes : Document) :
    Blameless (requireOperators changes) := by
  unfold requireOperators
  split
  · exact Blameless.ok _
  · exact Blameless.error rfl

theorem blameless_write (d : Document) (path : String) (value : Value) :
    Blameless (write d path value) := by
  unfold write
  split
  · exact Blameless.ok _
  · exact Blameless.error rfl

theorem blameless_increment (d : Document) (path : String) (amount : Value) :
    Blameless (increment d path amount) := by
  unfold increment
  split
  case h_3 =>
    split
    · exact Blameless.ok _
    · exact Blameless.error rfl
  all_goals exact Blameless.ok _

theorem blameless_applyAt (operator : String) (d : Document) (entry : String × Value) :
    Blameless (applyAt operator d entry) := by
  unfold applyAt
  dsimp only
  split
  · exact Blameless.error rfl
  · split
    · exact blameless_write _ _ _
    · exact (blameless_increment _ _ _).bind fun _ => blameless_write _ _ _
    · exact Blameless.error rfl

theorem blameless_updated (d changes : Document) : Blameless (updated d changes) := by
  refine Blameless.foldlM (fun d entry => ?_) d
  unfold applyOperator
  split
  · exact Blameless.foldlM (fun d entry => blameless_applyAt _ d entry) d
  · exact Blameless.error rfl

theorem blameless_fixedBy (filter : Document) : Blameless (fixedBy filter) := by
  refine Blameless.foldlM (fun seed entry => ?_) []
  dsimp only
  split
  · exact Blameless.ok _
  · split
    · split
      · split
        · exact blameless_write _ _ _
        · exact Blameless.ok _
      · exact blameless_write _ _ _
    · exact blameless_write _ _ _

theorem blameless_upserted (filter changes : Document) : Blameless (upserted filter changes) :=
  (blameless_fixedBy filter).bind fun d => blameless_updated d changes

theorem FailsAt.not_client {filter changes d : Document} {e : Error}
    (h : FailsAt filter changes d e) : e.isClient = false := by
  cases h with
  | matching h => exact blameless_satisfies d filter e h
  | updating _ h => exact blameless_updated d changes e h

end Document

/-! ## Actions -/

namespace Action

variable {α β : Type}

/-- An action that leaves the store as it is. -/
def ReadsOnly (a : Action α) : Prop := ∀ s, (a s).2 = s

/-- An action whose failures are not the caller's. -/
def NeverBlames (a : Action α) : Prop :=
  ∀ s e s', a s = (.error e, s') → e.isClient = false

/-- An action that leaves the store as it is when the caller's input is at fault. -/
def ChecksFirst (a : Action α) : Prop :=
  ∀ s e s', a s = (.error e, s') → e.isClient = true → s' = s

theorem ReadsOnly.pure (x : α) : ReadsOnly (Pure.pure x) := fun _ => rfl

theorem ReadsOnly.check (result : Except Error α) : ReadsOnly (check result) := fun _ => rfl

theorem ReadsOnly.read (answer : Store → Except Error α) : ReadsOnly (read answer) := fun _ => rfl

theorem ReadsOnly.throw (e : Error) : ReadsOnly (MonadExcept.throw e : Action α) := fun _ => rfl

theorem ReadsOnly.bind {a : Action α} {f : α → Action β} (ha : ReadsOnly a)
    (hf : ∀ x, ReadsOnly (f x)) : ReadsOnly (a >>= f) := by
  intro s
  have hstart := ha s
  rw [bind_apply]
  rcases h : a s with ⟨e | x, s'⟩
  · rwa [h] at hstart
  · rw [h] at hstart
    exact (hf x s').trans hstart

theorem NeverBlames.pure (x : α) : NeverBlames (Pure.pure x) := by
  intro s e s' h
  cases h

theorem NeverBlames.check {result : Except Error α} (h : Blameless result) :
    NeverBlames (check result) := fun _ e _ hcheck => h e (check_apply_eq_error.mp hcheck).1

theorem NeverBlames.read {answer : Store → Except Error α} (h : ∀ s, Blameless (answer s)) :
    NeverBlames (read answer) := fun s e _ hread => h s e (congrArg Prod.fst hread)

theorem NeverBlames.atomic {run : Store → Except Error (α × Store)} (h : ∀ s, Blameless (run s)) :
    NeverBlames (atomic run) := fun s e _ hrun => h s e (atomic_apply_eq_error.mp hrun).1

theorem NeverBlames.bind {a : Action α} {f : α → Action β} (ha : NeverBlames a)
    (hf : ∀ x, NeverBlames (f x)) : NeverBlames (a >>= f) := by
  intro s e s' h
  rcases bind_apply_eq_error.mp h with h | ⟨x, t, -, h⟩
  · exact ha s e s' h
  · exact hf x t e s' h

theorem NeverBlames.forM {f : α → Action Unit} {l : List α} (h : ∀ a, NeverBlames (f a)) :
    NeverBlames (l.forM f) := by
  induction l with
  | nil => exact NeverBlames.pure ()
  | cons a rest ih => exact (h a).bind fun _ => ih

theorem NeverBlames.foldlM {f : β → α → Action β} {l : List α}
    (h : ∀ b, ∀ a ∈ l, NeverBlames (f b a)) (b : β) : NeverBlames (l.foldlM f b) := by
  induction l generalizing b with
  | nil => exact NeverBlames.pure b
  | cons a rest ih =>
    rw [List.foldlM_cons]
    exact (h b a List.mem_cons_self).bind
      (ih fun b a' ha' => h b a' (List.mem_cons_of_mem _ ha'))

theorem ReadsOnly.checksFirst {a : Action α} (h : ReadsOnly a) : ChecksFirst a := by
  intro s e s' ha _
  rw [← h s, ha]

theorem NeverBlames.checksFirst {a : Action α} (h : NeverBlames a) : ChecksFirst a := by
  intro s e s' ha hclient
  rw [h s e s' ha] at hclient
  cases hclient

theorem ChecksFirst.atomic (run : Store → Except Error (α × Store)) : ChecksFirst (atomic run) :=
  fun _ _ _ h _ => (atomic_apply_eq_error.mp h).2

/-- What follows an action that only reads starts where that started. -/
theorem ReadsOnly.bind_checksFirst {a : Action α} {f : α → Action β} (ha : ReadsOnly a)
    (hf : ∀ x, ChecksFirst (f x)) : ChecksFirst (a >>= f) := by
  intro s e s' h hclient
  have hstart := ha s
  rcases bind_apply_eq_error.mp h with h | ⟨x, t, hx, h⟩
  · rwa [h] at hstart
  · rw [hx] at hstart
    exact (hf x t e s' h hclient).trans hstart

/-- What follows a check knows its result. -/
theorem ChecksFirst.check_bind {result : Except Error α} {f : α → Action β}
    (hf : ∀ x, result = .ok x → ChecksFirst (f x)) : ChecksFirst (check result >>= f) := by
  intro s e s' h hclient
  rcases bind_apply_eq_error.mp h with h | ⟨x, t, hx, h⟩
  · exact (check_apply_eq_error.mp h).2
  · obtain ⟨hresult, rfl⟩ := check_apply_eq_ok.mp hx
    exact hf x hresult s e s' h hclient

/-- After an action that may have written, no error is the caller's. -/
theorem ChecksFirst.bind {a : Action α} {f : α → Action β} (ha : ChecksFirst a)
    (hf : ∀ x, NeverBlames (f x)) : ChecksFirst (a >>= f) := by
  intro s e s' h hclient
  rcases bind_apply_eq_error.mp h with h | ⟨x, t, -, h⟩
  · exact ha s e s' h hclient
  · rw [hf x t e s' h] at hclient
    cases hclient

theorem ChecksFirst.discard {a : Action α} (ha : ChecksFirst a) :
    ChecksFirst (do let _ ← a) :=
  ha.bind fun _ => NeverBlames.pure ()

theorem insertOne_neverBlames (d : Document) : NeverBlames (insertOne d) := by
  refine NeverBlames.atomic fun s e h => ?_
  rw [(Store.insert_eq_error h).2]
  rfl

theorem insertMany_neverBlames (docs : List Document) : NeverBlames (insertMany docs) := by
  intro s e s' h
  obtain ⟨_, _, _, -, -, -, rfl⟩ := insertMany_eq_error h
  rfl

theorem update_neverBlames (filter changes : Document) (upsert many : Bool) :
    NeverBlames (update filter changes upsert many) := by
  intro s e s' h
  rcases update_eq_error h with ⟨-, h⟩ | ⟨_, _, _, _, -, -, h, -⟩ | ⟨-, -, -, h | ⟨d, -, h⟩⟩
  · exact Document.blameless_requireOperators changes e h
  · exact h.not_client
  · exact Document.blameless_upserted filter changes e h
  · rw [(Store.insert_eq_error h).2]
    rfl

end Action

theorem Store.blameless_dropIndex (s : Store) (name : String) : Blameless (s.dropIndex name) := by
  unfold dropIndex
  split
  · exact Blameless.error rfl
  · split
    · exact Blameless.ok _
    · exact Blameless.error rfl

end DocMapper
