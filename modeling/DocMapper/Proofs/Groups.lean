import Mathlib.Data.List.Pairwise
import Mathlib.Data.List.Perm.Basic
import DocMapper.Pipeline.Group
import DocMapper.Proofs.Document
import DocMapper.Proofs.Equality

namespace DocMapper

/-! # Groups

Documents join the group whose value equals theirs, one after the other, and the first of several
such groups. Without the run, the groups of a list are its classes: the first document with all
later ones whose values its own equals, and then the classes of the others. Nothing is asked of the
relation for this. If it is symmetric and transitive, the members of a class are all that its first
member is related to, unless that one is not even related to itself.
-/

section Classes

variable {α β : Type} {same same' : α → α → Bool} {l : List α} {c : α × List α}

/-- What a member is not related to. -/
def unrelated (same : α → α → Bool) (a : α) (l : List α) : List α := l.filter fun b => !same a b

theorem mem_unrelated {a b : α} : b ∈ unrelated same a l ↔ b ∈ l ∧ same a b = false := by
  rw [unrelated, List.mem_filter, Bool.not_eq_true']

/-- The classes of a list, each after its first member: the first member of the list with all later
ones that it is related to, and the classes of the others. -/
def classes (same : α → α → Bool) : List α → List (α × List α)
  | [] => []
  | a :: rest => (a, a :: rest.filter (same a)) :: classes same (unrelated same a rest)
termination_by l => l.length
decreasing_by exact Nat.lt_succ_of_le (List.length_filter_le _ _)

/-- How the members of a list are put into classes: each class has its members in order after the
first of them, which is related to the others, and to no member of a later class. The classes are
in the order of their first members. -/
structure Classified (same : α → α → Bool) (l : List α) (groups : List (α × List α)) : Prop where
  covers : (groups.flatMap (·.2)).Perm l
  inOrder : ∀ c ∈ groups, c.2.Sublist l
  byFirst : (groups.map (·.1)).Sublist l
  alike : ∀ c ∈ groups, ∃ others, c.2 = c.1 :: others ∧ ∀ b ∈ others, same c.1 b = true
  apart : groups.Pairwise fun c c' => ∀ b ∈ c'.2, same c.1 b = false

/-- The classes of a list are what their name says, for any relation. -/
theorem classified_classes (same : α → α → Bool) (l : List α) :
    Classified same l (classes same l) := by
  fun_induction classes same l with
  | case1 => exact ⟨List.Perm.refl _, nofun, List.Sublist.refl _, nofun, List.Pairwise.nil⟩
  | case2 a rest ih =>
    have hothers : (unrelated same a rest).Sublist rest := List.filter_sublist
    refine ⟨?_, ?_, ?_, ?_, ?_⟩
    · rw [List.flatMap_cons, List.cons_append]
      exact ((ih.covers.append_left _).trans (List.filter_append_perm _ _)).cons a
    · refine List.forall_mem_cons.mpr ⟨List.filter_sublist.cons_cons a, fun c hc => ?_⟩
      exact ((ih.inOrder c hc).trans hothers).cons a
    · exact (ih.byFirst.trans hothers).cons_cons a
    · exact List.forall_mem_cons.mpr
        ⟨⟨_, rfl, fun b hb => (List.mem_filter.mp hb).2⟩, ih.alike⟩
    · exact List.pairwise_cons.mpr
        ⟨fun c hc b hb => (mem_unrelated.mp ((ih.inOrder c hc).subset hb)).2, ih.apart⟩

/-- The first member of a class is one of its members. -/
theorem Classified.first_mem {groups : List (α × List α)} (h : Classified same l groups)
    (hc : c ∈ groups) : c.1 ∈ c.2 := by
  obtain ⟨others, heq, -⟩ := h.alike c hc
  rw [heq]
  exact List.mem_cons_self

/-- Members that are mapped to others are in the same classes. -/
theorem classes_map (f : β → α) (l : List β) :
    classes same (l.map f) =
      (classes (fun a b => same (f a) (f b)) l).map fun c => (f c.1, c.2.map f) := by
  fun_induction classes (fun a b => same (f a) (f b)) l with
  | case1 => rw [List.map_nil, classes, List.map_nil]
  | case2 a rest ih =>
    have hothers : unrelated same (f a) (rest.map f) =
        (unrelated (fun a b => same (f a) (f b)) a rest).map f := List.filter_map
    rw [List.map_cons, classes, hothers, ih, List.filter_map]
    rfl

/-- Relations that agree on the members of a list have the same classes. -/
theorem classes_congr (h : ∀ a ∈ l, ∀ b ∈ l, same a b = same' a b) :
    classes same l = classes same' l := by
  fun_induction classes same l with
  | case1 => rw [classes]
  | case2 a rest ih =>
    have hfirst : ∀ b ∈ rest, same a b = same' a b := fun b hb =>
      h a List.mem_cons_self b (List.mem_cons_of_mem _ hb)
    have hothers : unrelated same a rest = unrelated same' a rest :=
      List.filter_congr fun b hb => congrArg _ (hfirst b hb)
    have hrest : ∀ b ∈ unrelated same a rest, b ∈ a :: rest := fun b hb =>
      List.mem_cons_of_mem _ (mem_unrelated.mp hb).1
    rw [ih fun b hb b' hb' => h b (hrest b hb) b' (hrest b' hb'), hothers,
      List.filter_congr hfirst, classes]

/-- The relation is an equivalence of those members of the list that are related to anything. -/
structure Relates (same : α → α → Bool) (l : List α) : Prop where
  symm : ∀ a ∈ l, ∀ b ∈ l, same a b = true → same b a = true
  trans : ∀ a b c, same a b = true → same b c = true → same a c = true

/-- A class holds all that its first member is related to, if that is related to itself. -/
theorem class_eq_filter (hsame : Relates same l) (hc : c ∈ classes same l)
    (hself : same c.1 c.1 = true) : c.2 = l.filter (same c.1) := by
  fun_induction classes same l with
  | case1 => exact absurd hc List.not_mem_nil
  | case2 a rest ih =>
    rcases List.mem_cons.mp hc with rfl | hc
    · rw [List.filter_cons, if_pos hself]
    · have hclasses := classified_classes same (unrelated same a rest)
      have hothers : ∀ b ∈ unrelated same a rest, b ∈ a :: rest := fun b hb =>
        List.mem_cons_of_mem _ (mem_unrelated.mp hb).1
      have hfirst := (hclasses.inOrder c hc).subset (hclasses.first_mem hc)
      have hapart : same a c.1 ≠ true := ne_true_of_eq_false (mem_unrelated.mp hfirst).2
      -- the first member of the class is not related to the first of the list, nor to what that
      -- is related to
      have hnot : ∀ b ∈ a :: rest, same a b = true ∨ b = a → same c.1 b = false := by
        intro b hb hrelated
        by_contra hne
        have hback := hsame.symm c.1 (hothers c.1 hfirst) b hb (eq_true_of_ne_false hne)
        rcases hrelated with hrelated | rfl
        · exact hapart (hsame.trans a b c.1 hrelated hback)
        · exact hapart hback
      have hrest : Relates same (unrelated same a rest) :=
        ⟨fun b hb b' hb' => hsame.symm b (hothers b hb) b' (hothers b' hb'), hsame.trans⟩
      rw [ih hrest hc, unrelated,
        List.filter_filter, List.filter_cons,
        if_neg (ne_true_of_eq_false (hnot a List.mem_cons_self (Or.inr rfl)))]
      refine List.filter_congr fun b hb => ?_
      cases hrelated : same a b with
      | false => rw [Bool.not_false, Bool.and_true]
      | true => rw [hnot b (List.mem_cons_of_mem _ hb) (Or.inl hrelated), Bool.false_and]

/-- Every member is the first of a class, or the first of a class is related to it. -/
theorem exists_first {a : α} (ha : a ∈ l) :
    ∃ b ∈ (classes same l).map (·.1), b = a ∨ same b a = true := by
  have hclasses := classified_classes same l
  obtain ⟨c, hc, hmem⟩ := List.mem_flatMap.mp (hclasses.covers.symm.subset ha)
  obtain ⟨others, heq, halike⟩ := hclasses.alike c hc
  refine ⟨c.1, List.mem_map_of_mem hc, ?_⟩
  rw [heq] at hmem
  exact (List.mem_cons.mp hmem).imp Eq.symm (halike a)

/-- First members of two classes are not related. -/
theorem pairwise_firsts (hsame : Relates same l) :
    ((classes same l).map (·.1)).Pairwise fun a b => same a b = false ∧ same b a = false := by
  have hclasses := classified_classes same l
  have hfirst : ∀ c ∈ classes same l, c.1 ∈ l := fun c hc =>
    hclasses.byFirst.subset (List.mem_map_of_mem hc)
  rw [List.pairwise_map]
  refine hclasses.apart.imp_of_mem fun {c c'} hc hc' hapart => ?_
  have hforward := hapart c'.1 (hclasses.first_mem hc')
  exact ⟨hforward, eq_false_of_ne_true fun hback => ne_true_of_eq_false hforward
    (hsame.symm c'.1 (hfirst c' hc') c.1 (hfirst c hc) hback)⟩

/-- Members that start classes are the same member if they are related. -/
theorem first_unique (hsame : Relates same l) {a b : α} (ha : a ∈ (classes same l).map (·.1))
    (hb : b ∈ (classes same l).map (·.1)) (h : same a b = true) : a = b := by
  have : Std.Symm fun a b => same a b = false ∧ same b a = false := ⟨fun _ _ h => h.symm⟩
  by_contra hne
  exact ne_true_of_eq_false ((pairwise_firsts hsame).forall ha hb hne).1 h

/-- The classes of a finer relation start with the same members as those of a coarser one only if
the relation is no finer on the list. -/
theorem related_of_firsts_eq {fine coarse : α → α → Bool} (hfine : Relates fine l)
    (hcoarse : Relates coarse l) (hfiner : ∀ a b, fine a b = true → coarse a b = true)
    (hself : ∀ a, coarse a a = true → fine a a = true)
    (h : (classes fine l).map (·.1) = (classes coarse l).map (·.1)) {a b : α} (ha : a ∈ l)
    (hb : b ∈ l) (hab : coarse a b = true) : fine a b = true := by
  -- the finer classes of both members start with members that the coarser relation relates; these
  -- start coarser classes too, and are therefore the same
  obtain ⟨x, hx, hxa⟩ : ∃ x ∈ (classes fine l).map (·.1), x = a ∨ fine x a = true :=
    exists_first ha
  obtain ⟨y, hy, hyb⟩ : ∃ y ∈ (classes fine l).map (·.1), y = b ∨ fine y b = true :=
    exists_first hb
  have hfirst : ∀ z ∈ (classes fine l).map (·.1), z ∈ l := fun z hz =>
    (classified_classes fine l).byFirst.subset hz
  have hxb : coarse x b = true :=
    hxa.elim (fun h => h ▸ hab) fun h => hcoarse.trans x a b (hfiner x a h) hab
  have hxy : coarse x y = true :=
    hyb.elim (fun h => h ▸ hxb) fun h =>
      hcoarse.trans x b y hxb (hfiner b y (hfine.symm y (hfirst y hy) b hb h))
  obtain rfl : x = y := first_unique hcoarse (h ▸ hx) (h ▸ hy) hxy
  rcases hxa with rfl | hxa
  · rcases hyb with rfl | hyb
    · exact hself x hab
    · exact hyb
  · have hax := hfine.symm x (hfirst x hx) a ha hxa
    rcases hyb with rfl | hyb
    · exact hax
    · exact hfine.trans a x b hax hyb

end Classes

/-! ## Groups of documents -/

namespace Value

theorem distinctKeys_of_mem_fields {fields : Document} {key : String} {v : Value}
    (hfields : DistinctKeysOfFields fields) (h : (key, v) ∈ fields) : v.DistinctKeys := by
  induction fields with
  | nil => exact absurd h List.not_mem_nil
  | cons entry rest ih =>
    rcases List.mem_cons.mp h with rfl | h
    · exact hfields.1
    · exact ih hfields.2 h

/-- The items of a list without repeated keys have none either. -/
theorem distinctKeys_of_mem_items {items : List Value} {v : Value}
    (hitems : DistinctKeysOfItems items) (h : v ∈ items) : v.DistinctKeys := by
  induction items with
  | nil => exact absurd h List.not_mem_nil
  | cons w rest ih =>
    rcases List.mem_cons.mp h with rfl | h
    · exact hitems.1
    · exact ih hitems.2 h

/-- What is found inside a value has distinct keys too. -/
theorem distinctKeys_follow {v w : Value} {rest : List String} (hv : v.DistinctKeys)
    (h : v.follow rest = some w) : w.DistinctKeys := by
  induction rest generalizing v with
  | nil =>
    rw [follow] at h
    exact Option.some.inj h ▸ hv
  | cons s rest ih =>
    cases v with
    | document d =>
      obtain ⟨inner, hget, hinner⟩ := Option.bind_eq_some_iff.mp h
      have hfields := Document.mem_of_get?_eq_some hget
      exact ih (distinctKeys_of_mem_fields hv.2 hfields) hinner
    | _ => cases h

end Value

namespace Document

variable {expression : Value} {d e : Document} {docs : List Document}

/-- The value by which a document is grouped: that of the expression, or null. -/
def groupValue (expression : Value) (d : Document) : Value := (expression.evalIn d).getD .null

/-- Two documents have equal values of the expression. -/
def sameGroup (expression : Value) (d e : Document) : Bool :=
  (groupValue expression d).equals (groupValue expression e)

/-- The first group takes all documents of an equal value, and the others go on to the rest. -/
theorem foldl_addToGroup (v : Value) (members : List Document)
    (groups : List (Value × List Document)) (docs : List Document) :
    docs.foldl (fun groups d => addToGroup (groupValue expression d) d groups)
        ((v, members) :: groups) =
      (v, members ++ docs.filter fun d => v.equals (groupValue expression d)) ::
        (docs.filter fun d => !v.equals (groupValue expression d)).foldl
          (fun groups d => addToGroup (groupValue expression d) d groups) groups := by
  induction docs generalizing members groups with
  | nil => simp
  | cons d rest ih =>
    rw [List.foldl_cons, addToGroup, List.filter_cons, List.filter_cons]
    cases v.equals (groupValue expression d) with
    | true => simp [ih]
    | false => simp [ih]

/-- Documents are grouped into the classes of equal values. -/
theorem groupsBy_eq_classes (expression : Value) (docs : List Document) :
    groupsBy expression docs =
      (classes (sameGroup expression) docs).map fun c => (groupValue expression c.1, c.2) := by
  fun_induction classes (sameGroup expression) docs with
  | case1 => rfl
  | case2 d rest ih =>
    rw [List.map_cons, ← ih]
    exact foldl_addToGroup (groupValue expression d) [d] [] rest

end Document

end DocMapper
