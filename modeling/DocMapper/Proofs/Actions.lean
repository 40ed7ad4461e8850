import DocMapper.Proofs.Checks
import DocMapper.Store.Basic

namespace DocMapper

/-! # Invariants of the store

An action preserves a property of the store whether it answers or fails, and a batch that fails
half way has done part of its work. The rules below follow the way actions are put together: what
the parts preserve, the whole preserves, and what a part answers is known to the parts after it.
-/

namespace Action

variable {α β : Type} {P : Store → Prop} {Q : α → Prop} {a : Action α}

/-- An action that starts where `P` holds ends where `P` holds, in success and in failure, and
what it answers satisfies `Q`. -/
def Preserves (P : Store → Prop) (a : Action α) (Q : α → Prop) : Prop :=
  ∀ s, P s → P (a s).2 ∧ ∀ x, (a s).1 = .ok x → Q x

/-- The rest of an action runs where its first part ended, unless that failed. -/
theorem bind_apply (a : Action α) (f : α → Action β) (s : Store) :
    (a >>= f) s = match a s with
      | (.ok x, s') => f x s'
      | (.error e, s') => (.error e, s') := by
  change ExceptT.bindCont f (a s).1 (a s).2 = _
  rcases a s with ⟨_ | x, s'⟩ <;> rfl

/-- An action in two parts succeeds when both of its parts do. -/
theorem bind_apply_eq_ok {f : α → Action β} {s s' : Store} {y : β} :
    (a >>= f) s = (.ok y, s') ↔ ∃ x t, a s = (.ok x, t) ∧ f x t = (.ok y, s') := by
  rw [bind_apply]
  rcases a s with ⟨e | x, t⟩
  · constructor
    · intro h
      cases h
    · rintro ⟨x, t', h, -⟩
      cases h
  · constructor
    · exact fun h => ⟨x, t, rfl, h⟩
    · rintro ⟨x', t', h, hf⟩
      cases h
      exact hf

/-- After a check that succeeds, the rest runs. -/
theorem check_bind_apply {result : Except Error α} {x : α} (h : result = .ok x)
    (f : α → Action β) (s : Store) : (check result >>= f) s = f x s := by
  rw [bind_apply, check, h]

/-- After reading that succeeds, the rest runs with the answer. -/
theorem read_bind_apply {answer : Store → Except Error α} {s : Store} {x : α}
    (h : answer s = .ok x) (f : α → Action β) : (read answer >>= f) s = f x s := by
  rw [bind_apply, read, h]

theorem check_apply_eq_ok {result : Except Error α} {s s' : Store} {x : α} :
    check result s = (.ok x, s') ↔ result = .ok x ∧ s = s' := by
  rw [check, Prod.mk.injEq]

theorem atomic_apply_eq_ok {run : Store → Except Error (α × Store)} {s s' : Store} {x : α} :
    atomic run s = (.ok x, s') ↔ run s = .ok (x, s') := by
  unfold atomic
  rcases run s with e | ⟨y, t⟩
  · constructor <;> intro h <;> cases h
  · constructor <;> intro h <;> cases h <;> rfl

namespace Preserves

theorem pure {x : α} (hx : Q x) : Preserves P (Pure.pure x) Q := by
  intro s hs
  refine ⟨hs, fun y hy => ?_⟩
  exact Except.ok.inj hy ▸ hx

/-- The rest of an action starts where its first part ended, and knows what that answered. -/
theorem bind {f : α → Action β} {R : β → Prop} (ha : Preserves P a Q)
    (hf : ∀ x, Q x → Preserves P (f x) R) : Preserves P (a >>= f) R := by
  intro s hs
  obtain ⟨hafter, hanswer⟩ := ha s hs
  rw [bind_apply]
  -- a first part that fails ends the action where it left the store
  rcases heq : a s with ⟨e | x, s'⟩
  · rw [heq] at hafter
    exact ⟨hafter, fun y hy => by cases hy⟩
  · rw [heq] at hafter hanswer
    exact hf x (hanswer x rfl) s' hafter

theorem check {result : Except Error α} (h : ∀ x, result = .ok x → Q x) :
    Preserves P (check result) Q :=
  fun _ hs => ⟨hs, h⟩

theorem read (answer : Store → Except Error α) : Preserves P (read answer) fun _ => True :=
  fun _ hs => ⟨hs, fun _ _ => trivial⟩

/-- An action that changes nothing when it fails. -/
theorem atomic {run : Store → Except Error (α × Store)}
    (h : ∀ s x s', P s → run s = .ok (x, s') → P s') :
    Preserves P (atomic run) fun _ => True := by
  intro s hs
  refine ⟨?_, fun _ _ => trivial⟩
  unfold Action.atomic
  split
  · rename_i x s' hrun
    exact h s x s' hs hrun
  · exact hs

theorem mapM {f : β → Action α} {l : List β} (h : ∀ b ∈ l, Preserves P (f b) fun _ => True) :
    Preserves P (l.mapM f) fun _ => True := by
  induction l with
  | nil => exact pure trivial
  | cons b rest ih =>
    rw [List.mapM_cons]
    refine (h b List.mem_cons_self).bind fun _ _ => ?_
    refine (ih fun b hb => h b (List.mem_cons_of_mem _ hb)).bind fun _ _ => ?_
    exact pure trivial

theorem foldlM {f : α → β → Action α} {l : List β}
    (h : ∀ b ∈ l, ∀ x, Preserves P (f x b) fun _ => True) (x : α) :
    Preserves P (l.foldlM f x) fun _ => True := by
  induction l generalizing x with
  | nil => exact pure trivial
  | cons b rest ih =>
    rw [List.foldlM_cons]
    refine (h b List.mem_cons_self x).bind fun y _ => ?_
    exact ih (fun b hb => h b (List.mem_cons_of_mem _ hb)) y

end Preserves

/-! ## Inserting and updating -/

theorem insertMany_preserves {docs : List Document}
    (h : ∀ d ∈ docs, Preserves P (insertOne d) fun _ => True) :
    Preserves P (insertMany docs) fun _ => True :=
  Preserves.mapM h

/-- An update preserves what it preserves in place, and what inserting the document of an upsert
preserves. -/
theorem update_preserves {filter changes : Document} {upsert many : Bool}
    (hplace : Document.requireOperators changes = .ok () → ∀ s, P s →
      P { s with documents := (Document.updateEach filter changes many s.documents).2 })
    (hupsert : upsert = true → ∀ d, Document.upserted filter changes = .ok d →
      Preserves P (insertOne d) fun _ => True) :
    Preserves P (update filter changes upsert many) fun _ => True := by
  unfold update
  refine (Preserves.check (Q := fun _ => Document.requireOperators changes = .ok ())
    fun _ h => h).bind fun _ hrequire => ?_
  refine Preserves.bind (Q := fun _ => True)
    (fun s hs => ⟨hplace hrequire s hs, fun _ _ => trivial⟩) fun outcome _ => ?_
  -- an upsert inserts after the update in place, when that selected nothing
  split
  · rename_i hnone
    refine (Preserves.check fun _ h => h).bind fun d hd => ?_
    refine (hupsert hnone.2 d hd).bind fun _ _ => ?_
    exact Preserves.pure trivial
  · exact Preserves.pure trivial

/-- An update by operators without an upsert is what it does in place. -/
theorem update_false_apply {filter changes : Document} {many : Bool} {s : Store}
    (h : Document.requireOperators changes = .ok ()) :
    update filter changes false many s =
      ((Document.updateEach filter changes many s.documents).1,
        { s with documents := (Document.updateEach filter changes many s.documents).2 }) := by
  unfold update
  rw [check_bind_apply h, bind_apply]
  rcases Document.updateEach filter changes many s.documents with ⟨_ | outcome, documents⟩
  · rfl
  · simp only [Bool.false_eq_true, and_false, if_false]
    rfl

end Action

end DocMapper
