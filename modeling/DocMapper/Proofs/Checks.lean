import Mathlib.Data.List.Forall2

namespace DocMapper

/-! # Checks that succeed

Checks are computations that end in a value or in an error. When a sequence of checks succeeds,
each of them did; these lemmas take such a sequence apart.
-/

variable {ε α β : Type}

theorem bind_eq_ok {x : Except ε α} {f : α → Except ε β} {b : β} :
    x >>= f = .ok b ↔ ∃ a, x = .ok a ∧ f a = .ok b := by
  cases x with
  | error e => simp [bind, Except.bind]
  | ok a => simp [bind, Except.bind]

/-- A check that gives nothing but its success may be followed by anything. -/
theorem check_bind_eq_ok {x : Except ε Unit} {y : Except ε β} {b : β} :
    (x >>= fun _ => y) = .ok b ↔ x = .ok () ∧ y = .ok b := by
  rw [bind_eq_ok]
  exact ⟨fun ⟨_, hx, hy⟩ => ⟨hx, hy⟩, fun ⟨hx, hy⟩ => ⟨(), hx, hy⟩⟩

theorem pure_eq_ok {a b : α} : (pure a : Except ε α) = .ok b ↔ a = b := by
  simp [pure, Except.pure]

@[simp] theorem ok_bind (a : α) (f : α → Except ε β) : (Except.ok a >>= f) = f a := rfl

@[simp] theorem error_bind (e : ε) (f : α → Except ε β) :
    (Except.error e >>= f) = .error e := rfl

theorem map_eq_ok {x : Except ε α} {f : α → β} {b : β} :
    x.map f = .ok b ↔ ∃ a, x = .ok a ∧ f a = b := by
  cases x with
  | error e => simp [Except.map]
  | ok a => simp [Except.map]

theorem exists_map_eq_error_iff {x : Except ε α} {f : α → β} :
    (∃ e, x.map f = .error e) ↔ ∃ e, x = .error e := by
  cases x with
  | error e => simp [Except.map]
  | ok a => simp [Except.map]

/-- What every step of a fold preserves, the fold preserves. -/
theorem foldlM_induction {f : β → α → Except ε β} (P : β → Prop) {l : List α} {b b' : β}
    (hstep : ∀ a ∈ l, ∀ c c', P c → f c a = .ok c' → P c')
    (hb : P b) (h : l.foldlM f b = .ok b') : P b' := by
  induction l generalizing b with
  | nil =>
    rw [List.foldlM_nil, pure_eq_ok] at h
    exact h ▸ hb
  | cons a rest ih =>
    rw [List.foldlM_cons, bind_eq_ok] at h
    obtain ⟨c, hc, hrest⟩ := h
    have hPc : P c := hstep a List.mem_cons_self b c hb hc
    exact ih (fun a' ha' => hstep a' (List.mem_cons_of_mem _ ha')) hPc hrest

/-- What every step of a fold establishes for its element where an invariant holds, and every later
step keeps, holds for all of them in the end. -/
theorem foldlM_each_of {f : β → α → Except ε β} (I : β → Prop) (R : α → β → Prop) {l : List α}
    {b b' : β} (hinv : ∀ a ∈ l, ∀ c c', I c → f c a = .ok c' → I c')
    (hstep : ∀ a ∈ l, ∀ c c', I c → f c a = .ok c' → R a c')
    (hkeep : ∀ a ∈ l, ∀ a' ∈ l, ∀ c c', R a c → f c a' = .ok c' → R a c')
    (hb : I b) (h : l.foldlM f b = .ok b') : ∀ a ∈ l, R a b' := by
  -- the steps still to come keep what those before have established
  suffices hall : ∀ rest : List α, (∀ a ∈ rest, a ∈ l) → ∀ c, I c → rest.foldlM f c = .ok b' →
      ∀ a ∈ rest, R a b' from hall l (fun _ ha => ha) b hb h
  clear h
  intro rest hrest c hc h
  induction rest generalizing c with
  | nil => exact fun _ ha => absurd ha List.not_mem_nil
  | cons first rest ih =>
    rw [List.foldlM_cons, bind_eq_ok] at h
    obtain ⟨next, hnext, h⟩ := h
    have hfirst := hrest first List.mem_cons_self
    have hlater : ∀ a ∈ rest, a ∈ l := fun a ha => hrest a (List.mem_cons_of_mem _ ha)
    intro a ha
    rcases List.mem_cons.mp ha with rfl | ha
    · exact foldlM_induction (R a) (fun a' ha' => hkeep a hfirst a' (hlater a' ha'))
        (hstep a hfirst c next hc hnext) h
    · exact ih hlater next (hinv first hfirst c next hc hnext) h a ha

theorem foldlM_each {f : β → α → Except ε β} (R : α → β → Prop) {l : List α} {b b' : β}
    (hstep : ∀ a ∈ l, ∀ c c', f c a = .ok c' → R a c')
    (hkeep : ∀ a ∈ l, ∀ a' ∈ l, ∀ c c', R a c → f c a' = .ok c' → R a c')
    (h : l.foldlM f b = .ok b') : ∀ a ∈ l, R a b' :=
  foldlM_each_of (fun _ => True) R (fun _ _ _ _ _ _ => trivial)
    (fun a ha c c' _ => hstep a ha c c') hkeep trivial h

/-- Every step of a fold that succeeds has succeeded. -/
theorem exists_step_of_foldlM {f : β → α → Except ε β} {l : List α} {b b' : β}
    (h : l.foldlM f b = .ok b') : ∀ a ∈ l, ∃ c c', f c a = .ok c' :=
  foldlM_each (fun a _ => ∃ c c', f c a = .ok c') (fun _ _ c c' hc => ⟨c, c', hc⟩)
    (fun _ _ _ _ _ _ hstep _ => hstep) h

/-- A list of checks gives the list of what each of them gives. -/
theorem forall₂_of_mapM_eq_ok {f : α → Except ε β} {l : List α} {bs : List β}
    (h : l.mapM f = .ok bs) : List.Forall₂ (fun a b => f a = .ok b) l bs := by
  induction l generalizing bs with
  | nil =>
    rw [List.mapM_nil, pure_eq_ok] at h
    exact h ▸ List.Forall₂.nil
  | cons a rest ih =>
    rw [List.mapM_cons, bind_eq_ok] at h
    obtain ⟨b, hb, h⟩ := h
    rw [bind_eq_ok] at h
    obtain ⟨bs', hbs', h⟩ := h
    rw [pure_eq_ok] at h
    exact h ▸ List.Forall₂.cons hb (ih hbs')

/-- What stands on the right of related lists is related with something on the left. -/
theorem forall₂_exists_of_mem {R : α → β → Prop} {l : List α} {l' : List β}
    (h : List.Forall₂ R l l') {b : β} (hb : b ∈ l') : ∃ a ∈ l, R a b := by
  induction h with
  | nil => exact absurd hb List.not_mem_nil
  | @cons a b' rest rest' hab _ ih =>
    rcases List.mem_cons.mp hb with rfl | hb
    · exact ⟨a, List.mem_cons_self, hab⟩
    · obtain ⟨a', ha', hR⟩ := ih hb
      exact ⟨a', List.mem_cons_of_mem _ ha', hR⟩

/-- What stands at a place on the left is related with what stands there on the right. -/
theorem forall₂_exists_of_getElem? {R : α → β → Prop} {l : List α} {l' : List β} {i : Nat} {a : α}
    (h : List.Forall₂ R l l') (ha : l[i]? = some a) : ∃ b, l'[i]? = some b ∧ R a b := by
  induction h generalizing i with
  | nil => cases ha
  | cons hab _ ih =>
    cases i with
    | zero =>
      cases ha
      exact ⟨_, rfl, hab⟩
    | succ i => exact ih ha

/-- Lists related over a third are related by what follows for their elements. -/
theorem forall₂_trans {γ : Type} {R : α → β → Prop} {S : β → γ → Prop} {T : α → γ → Prop}
    (hT : ∀ {a b c}, R a b → S b c → T a c) {l : List α} {m : List β} {n : List γ}
    (h : List.Forall₂ R l m) (h' : List.Forall₂ S m n) : List.Forall₂ T l n := by
  induction h generalizing n with
  | nil =>
    cases h'
    exact .nil
  | cons hab _ ih =>
    cases h' with
    | cons hbc hrest => exact .cons (hT hab hbc) (ih hrest)

/-- What a list of checks gives comes from one of them. -/
theorem exists_of_mem_mapM {f : α → Except ε β} {l : List α} {bs : List β}
    (h : l.mapM f = .ok bs) {b : β} (hb : b ∈ bs) : ∃ a ∈ l, f a = .ok b :=
  forall₂_exists_of_mem (forall₂_of_mapM_eq_ok h) hb

/-- What a check in a list gives is among what the list gives. -/
theorem mem_of_mapM_eq_ok {f : α → Except ε β} {l : List α} {bs : List β}
    (h : l.mapM f = .ok bs) {a : α} (ha : a ∈ l) {b : β} (hb : f a = .ok b) : b ∈ bs := by
  rcases List.getElem?_of_mem ha with ⟨i, hi⟩
  rcases forall₂_exists_of_getElem? (forall₂_of_mapM_eq_ok h) hi with ⟨b', hb', hab⟩
  cases hb.symm.trans hab
  exact List.mem_of_getElem? hb'

theorem mapM_eq_ok_of_forall₂ {f : α → Except ε β} {l : List α} {bs : List β}
    (h : List.Forall₂ (fun a b => f a = .ok b) l bs) : l.mapM f = .ok bs := by
  induction h with
  | nil => rfl
  | cons hab _ ih => rw [List.mapM_cons, hab, ok_bind, ih, ok_bind]; rfl

/-- A list of checks succeeds when each of them does. -/
theorem exists_mapM_eq_ok {f : α → Except ε β} {l : List α} (h : ∀ a ∈ l, ∃ b, f a = .ok b) :
    ∃ bs, l.mapM f = .ok bs := by
  induction l with
  | nil => exact ⟨[], rfl⟩
  | cons a rest ih =>
    obtain ⟨b, hb⟩ := h a List.mem_cons_self
    obtain ⟨bs, hbs⟩ := ih fun a' ha' => h a' (List.mem_cons_of_mem _ ha')
    refine ⟨b :: bs, ?_⟩
    rw [List.mapM_cons, hb, ok_bind, hbs]
    rfl

theorem exists_mapM_eq_ok_iff {f : α → Except ε β} {l : List α} :
    (∃ bs, l.mapM f = .ok bs) ↔ ∀ a ∈ l, ∃ b, f a = .ok b := by
  refine ⟨?_, exists_mapM_eq_ok⟩
  rintro ⟨bs, hbs⟩ a ha
  rcases List.getElem?_of_mem ha with ⟨i, hi⟩
  rcases forall₂_exists_of_getElem? (forall₂_of_mapM_eq_ok hbs) hi with ⟨b, -, hab⟩
  exact ⟨b, hab⟩

/-- A list of checks that fails does so where one of them fails. -/
theorem exists_of_mapM_eq_error {f : α → Except ε β} {l : List α} {e : ε}
    (h : l.mapM f = .error e) : ∃ a ∈ l, f a = .error e := by
  induction l with
  | nil => cases h
  | cons a rest ih =>
    rw [List.mapM_cons] at h
    cases ha : f a with
    | error e' =>
      rw [ha] at h
      cases h
      exact ⟨a, List.mem_cons_self, ha⟩
    | ok b =>
      rw [ha, ok_bind] at h
      cases hrest : rest.mapM f with
      | error e' =>
        rw [hrest] at h
        cases h
        obtain ⟨a', ha', hfails⟩ := ih hrest
        exact ⟨a', List.mem_cons_of_mem _ ha', hfails⟩
      | ok bs =>
        rw [hrest] at h
        cases h

/-- A list of checks gives a list that looks like its own in every place exactly when each of them
gives something that looks like what was checked. -/
theorem exists_mapM_map_eq_iff {γ : Type} {f : α → Except ε β} {k : β → γ} {k' : α → γ}
    {l : List α} :
    (∃ bs, l.mapM f = .ok bs ∧ bs.map k = l.map k') ↔ ∀ a ∈ l, ∃ b, f a = .ok b ∧ k b = k' a := by
  induction l with
  | nil => exact iff_of_true ⟨[], rfl, rfl⟩ fun a ha => absurd ha List.not_mem_nil
  | cons a rest ih =>
    rw [List.forall_mem_cons, ← ih]
    constructor
    · rintro ⟨bs, hbs, hsame⟩
      cases forall₂_of_mapM_eq_ok hbs with
      | cons hb hrest =>
        obtain ⟨hhead, htail⟩ := List.cons.inj hsame
        exact ⟨⟨_, hb, hhead⟩, _, mapM_eq_ok_of_forall₂ hrest, htail⟩
    · rintro ⟨⟨b, hb, hhead⟩, bs, hbs, htail⟩
      exact ⟨b :: bs, mapM_eq_ok_of_forall₂ (.cons hb (forall₂_of_mapM_eq_ok hbs)),
        congrArg₂ List.cons hhead htail⟩

/-- A part of a list of checks gives that part of what the list gives. -/
theorem mapM_part_eq_ok {f : α → Except ε β} {l : List α} {bs : List β} (h : l.mapM f = .ok bs)
    (i n : Nat) : ((l.drop i).take n).mapM f = .ok ((bs.drop i).take n) :=
  mapM_eq_ok_of_forall₂ (List.forall₂_take n (List.forall₂_drop i (forall₂_of_mapM_eq_ok h)))

/-- Where each element gives a list, and each of these lists is read as what belongs to a partner of
the element, the concatenated lists are read as what belongs to all partners, in order. -/
theorem exists_flatten_mapM {γ δ : Type} {f : α → Except ε (List β)} {g : β → Except ε γ}
    {own : δ → List γ} {l : List α} {partners : List δ}
    (h : List.Forall₂ (fun a c => ∃ bs, f a = .ok bs ∧ bs.mapM g = .ok (own c)) l partners) :
    ∃ parts, l.mapM f = .ok parts ∧ parts.flatten.mapM g = .ok (partners.flatMap own) := by
  induction h with
  | nil => exact ⟨[], rfl, rfl⟩
  | cons hhead _ ih =>
    obtain ⟨bs, hf, hg⟩ := hhead
    obtain ⟨parts, hparts, hflat⟩ := ih
    refine ⟨bs :: parts, ?_, ?_⟩
    · rw [List.mapM_cons, hf, ok_bind, hparts]
      rfl
    · rw [List.flatten_cons, List.mapM_append, hg, ok_bind, hflat]
      rfl

theorem forM_eq_ok {f : α → Except ε Unit} {l : List α} :
    l.forM f = .ok () ↔ ∀ a ∈ l, f a = .ok () := by
  induction l with
  | nil => exact ⟨fun _ a ha => absurd ha List.not_mem_nil, fun _ => rfl⟩
  | cons a rest ih =>
    change f a >>= (fun _ => rest.forM f) = .ok () ↔ _
    rw [bind_eq_ok]
    constructor
    · rintro ⟨⟨⟩, ha, hrest⟩ a' ha'
      rcases List.mem_cons.mp ha' with rfl | hmem
      · exact ha
      · exact ih.mp hrest a' hmem
    · intro h
      exact ⟨(), h a List.mem_cons_self, ih.mpr fun a' ha' => h a' (List.mem_cons_of_mem _ ha')⟩

end DocMapper
