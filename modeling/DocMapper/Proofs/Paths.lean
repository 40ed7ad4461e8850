import DocMapper.Proofs.Updates

namespace DocMapper

/-! # Reading and writing along paths

Of two paths, one goes on from the other or they part. A write at a path is seen at the path, below
it and, as a document, above it, and on no path that parts from it. It is refused only where the
path leads through something that is not a document. So a document that is a part of another one can
take over any value of it, and is a part of it then.
-/

/-! ## Paths beside one another -/

/-- Neither path starts with the other. -/
def Path.Apart (p q : Path) : Prop :=
  ¬ p.segments <+: q.segments ∧ ¬ q.segments <+: p.segments

/-- Of two paths, the second one parts from the first, goes on from it, or ends inside it. -/
theorem Path.apart_or_extends (p q : Path) :
    p.Apart q ∨ (∃ back, q.segments = p.segments ++ back) ∨
      ∃ back, back ≠ [] ∧ p.segments = q.segments ++ back := by
  by_cases hextends : p.segments <+: q.segments
  · obtain ⟨back, hback⟩ := hextends
    exact Or.inr (Or.inl ⟨back, hback.symm⟩)
  · by_cases hends : q.segments <+: p.segments
    · obtain ⟨back, hback⟩ := hends
      refine Or.inr (Or.inr ⟨back, ?_, hback.symm⟩)
      rintro rfl
      rw [List.append_nil] at hback
      exact hextends (hback ▸ List.prefix_refl _)
    · exact Or.inl ⟨hextends, hends⟩

/-! ## Following segments -/

namespace Value

variable {v w : Value} {front back : List String}

theorem follow_nil (v : Value) : follow v [] = some v := by
  cases v <;> rfl

theorem follow_append (v : Value) (front back : List String) :
    follow v (front ++ back) = (follow v front).bind (follow · back) := by
  induction front generalizing v with
  | nil => rw [List.nil_append, follow_nil, Option.bind_some]
  | cons segment front ih =>
    cases v with
    | document d =>
      rw [List.cons_append, follow, follow]
      cases Document.get? d segment with
      | none => rfl
      | some inner => exact ih inner
    | _ => rfl

/-- Only a document leads on. -/
theorem exists_document_of_follow (h : follow w back = some v) (hback : back ≠ []) :
    ∃ inner, w = .document inner := by
  obtain ⟨segment, rest, rfl⟩ := List.exists_cons_of_ne_nil hback
  cases w with
  | document inner => exact ⟨inner, rfl⟩
  | _ => cases h

end Value

namespace Document

variable {d d' out out' inner : Document} {p q : Path} {path head next : String}
  {rest after : List String} {v w : Value}

theorem at?_key (d : Document) (key : String) : at? d ⟨key, []⟩ = get? d key := by
  rw [at?]
  cases get? d key with
  | none => rfl
  | some v => exact Value.follow_nil v

/-- A path that goes on from another one starts with what stands there. -/
theorem at?_of_extends {back : List String} (h : q.segments = p.segments ++ back) (d : Document) :
    at? d q = (at? d p).bind (Value.follow · back) := by
  obtain ⟨hhead, hrest⟩ := List.cons.inj h
  change q.rest = p.rest ++ back at hrest
  rw [at?, at?, hhead, hrest]
  cases get? d p.head with
  | none => rfl
  | some inner => exact Value.follow_append inner p.rest back

/-! ## One segment of a write -/

/-- Where a write goes on below a key: in the document there, or in an empty one under a new key. -/
def inside? (d : Document) (key : String) : Option Document :=
  match get? d key with
  | none => some []
  | some (.document inner) => some inner
  | some _ => none

theorem inside?_of_new (h : get? d head = none) : inside? d head = some [] := by
  rw [inside?, h]

theorem inside?_of_document (h : get? d head = some (.document inner)) :
    inside? d head = some inner := by
  rw [inside?, h]

theorem inside?_insert (d inner : Document) (key : String) :
    inside? (insert d key (.document inner)) key = some inner :=
  inside?_of_document (get?_insert_self d key _)

/-- Nothing is inside a key exactly when something else than a document stands there. -/
theorem inside?_eq_none_iff :
    inside? d head = none ↔ ∃ w, get? d head = some w ∧ ∀ inner, w ≠ .document inner := by
  rw [inside?]
  cases get? d head with
  | none => simp
  | some w => cases w <;> simp

/-- Paths through a key go on inside it. -/
theorem at?_of_inside? (h : inside? d head = some inner) :
    at? d ⟨head, next :: after⟩ = at? inner ⟨next, after⟩ := by
  rw [inside?] at h
  split at h
  · rename_i hnone
    cases h
    rw [at?, hnone]
    rfl
  · rename_i fields hsome
    cases h
    rw [at?, hsome]
    rfl
  · cases h

theorem setAt_cons (d : Document) (head next : String) (after : List String) (v : Value) :
    setAt d head (next :: after) v = match inside? d head with
      | some inner => (setAt inner next after v).map fun inner => insert d head (.document inner)
      | none => .error ⟨next :: after, head⟩ := by
  rw [setAt, inside?]
  split <;> simp_all

theorem setAt_segments (d : Document) (head : String) (p : Path) (v : Value) :
    setAt d head p.segments v = match inside? d head with
      | some inner => (setAt inner p.head p.rest v).map fun inner => insert d head (.document inner)
      | none => .error ⟨p.segments, head⟩ :=
  setAt_cons d head p.head p.rest v

/-- A write through a key is a write inside it. -/
theorem setAt_cons_eq_ok : setAt d head (next :: after) v = .ok d' ↔
    ∃ inner inner', inside? d head = some inner ∧ setAt inner next after v = .ok inner' ∧
      d' = insert d head (.document inner') := by
  rw [setAt_cons]
  cases inside? d head with
  | none => simp
  | some inner =>
    refine map_eq_ok.trans ⟨?_, ?_⟩
    · rintro ⟨inner', hinner, rfl⟩
      exact ⟨inner, inner', rfl, hinner, rfl⟩
    · rintro ⟨_, inner', hsame, hinner, rfl⟩
      cases hsame
      exact ⟨inner', hinner, rfl⟩

/-! ## What paths read after a write -/

/-- What is written at a path is read at the path. -/
theorem at?_setAt (h : setAt d head rest v = .ok d') : at? d' ⟨head, rest⟩ = some v := by
  induction rest generalizing d d' head with
  | nil =>
    rw [setAt, Except.ok.injEq] at h
    rw [← h, at?_key, get?_insert_self]
  | cons next after ih =>
    obtain ⟨inner, inner', -, hinner, rfl⟩ := setAt_cons_eq_ok.mp h
    rw [at?_of_inside? (inside?_insert d inner' head), ih hinner]

/-- What is written at a path is not seen at a path apart from it. -/
theorem at?_setAt_of_apart {head' : String} {rest' : List String}
    (hapart : Path.Apart ⟨head, rest⟩ ⟨head', rest'⟩) (h : setAt d head rest v = .ok d') :
    at? d' ⟨head', rest'⟩ = at? d ⟨head', rest'⟩ := by
  induction rest generalizing d d' head head' rest' with
  | nil =>
    rw [setAt, Except.ok.injEq] at h
    have hne : head ≠ head' := by
      rintro rfl
      exact hapart.1 (List.cons_prefix_cons.mpr ⟨rfl, List.nil_prefix⟩)
    rw [← h, at?, at?, get?_insert_of_ne hne]
  | cons next after ih =>
    obtain ⟨inner, inner', hinside, hinner, rfl⟩ := setAt_cons_eq_ok.mp h
    by_cases hhead : head = head'
    · subst hhead
      -- both paths go on inside the same key, and they part later
      cases rest' with
      | nil => exact absurd (List.cons_prefix_cons.mpr ⟨rfl, List.nil_prefix⟩) hapart.2
      | cons next' after' =>
        have hrest : Path.Apart ⟨next, after⟩ ⟨next', after'⟩ :=
          ⟨fun hp => hapart.1 (List.cons_prefix_cons.mpr ⟨rfl, hp⟩),
            fun hp => hapart.2 (List.cons_prefix_cons.mpr ⟨rfl, hp⟩)⟩
        rw [at?_of_inside? (inside?_insert d inner' head), at?_of_inside? hinside,
          ih hrest hinner]
    · rw [at?, at?, get?_insert_of_ne hhead]

/-- What a path reads after a write, by where it leads: beside the path of the write it reads what
it read before, at that path and below it the written value, and above it a document. -/
theorem at?_after (h : setAt out p.head p.rest v = .ok out') (q : Path) :
    (p.Apart q ∧ at? out' q = at? out q) ∨
      (∃ back, q.segments = p.segments ++ back ∧ at? out' q = Value.follow v back) ∨
      ∃ back inner, back ≠ [] ∧ p.segments = q.segments ++ back ∧
        at? out' q = some (.document inner) := by
  have hhere : at? out' p = some v := at?_setAt h
  rcases p.apart_or_extends q with hapart | ⟨back, hback⟩ | ⟨back, hne, hback⟩
  · exact Or.inl ⟨hapart, at?_setAt_of_apart hapart h⟩
  · refine Or.inr (Or.inl ⟨back, hback, ?_⟩)
    rw [at?_of_extends hback, hhere]
    rfl
  · rw [at?_of_extends hback] at hhere
    obtain ⟨u, hu, hfollow⟩ := Option.bind_eq_some_iff.mp hhere
    obtain ⟨inner, rfl⟩ := Value.exists_document_of_follow hfollow hne
    exact Or.inr (Or.inr ⟨back, inner, hne, hback, hu⟩)

/-- A second write along the same segments forgets the first. -/
theorem setAt_of_setAt (h : setAt d head rest v = .ok d') (w : Value) :
    setAt d' head rest w = setAt d head rest w := by
  induction rest generalizing d d' head with
  | nil =>
    cases h
    exact congrArg Except.ok (insert_insert d head v w)
  | cons next after ih =>
    obtain ⟨inner, inner', hinside, hinner, rfl⟩ := setAt_cons_eq_ok.mp h
    rw [setAt_cons, setAt_cons, inside?_insert, hinside]
    simp only [ih hinner, insert_insert]

/-- Writing what stands at the path already changes nothing. -/
theorem setAt_of_at? (h : at? d ⟨head, rest⟩ = some v) : setAt d head rest v = .ok d := by
  induction rest generalizing d head with
  | nil =>
    rw [at?_key] at h
    rw [setAt, insert_of_get? h]
  | cons next after ih =>
    obtain ⟨u, hu, hfollow⟩ := Option.bind_eq_some_iff.mp h
    obtain ⟨inner, rfl⟩ := Value.exists_document_of_follow hfollow (List.cons_ne_nil _ _)
    refine setAt_cons_eq_ok.mpr ⟨inner, inner, inside?_of_document hu, ih hfollow, ?_⟩
    rw [insert_of_get? hu]

/-! ## Writes that are refused -/

/-- In an empty document nothing stands in the way. -/
theorem setAt_nil_ne_nil (operand : Value) (head : String) (rest : List String) :
    ∃ inner, setAt [] head rest operand = .ok inner ∧ inner ≠ [] := by
  induction rest generalizing head with
  | nil => exact ⟨_, rfl, List.cons_ne_nil _ _⟩
  | cons next after ih =>
    obtain ⟨inner, hinner, -⟩ := ih next
    exact ⟨_, setAt_cons_eq_ok.mpr ⟨[], inner, rfl, hinner, rfl⟩, List.cons_ne_nil _ _⟩

/-- A write along segments is refused when some of them lead to something that is not a
document. -/
theorem exists_setAt_eq_error_iff : (∃ b, setAt d head rest v = .error b) ↔
    ∃ front back w, rest = front ++ back ∧ back ≠ [] ∧ at? d ⟨head, front⟩ = some w ∧
      ∀ inner, w ≠ .document inner := by
  induction rest generalizing d head with
  | nil =>
    constructor
    · rintro ⟨b, hb⟩
      cases hb
    · rintro ⟨front, back, w, happend, hback, -, -⟩
      exact absurd (List.append_eq_nil_iff.mp happend.symm).2 hback
  | cons next after ih =>
    rw [setAt_cons]
    cases hinside : inside? d head with
    | none =>
      obtain ⟨w, hw, hblocks⟩ := inside?_eq_none_iff.mp hinside
      exact iff_of_true ⟨_, rfl⟩ ⟨[], next :: after, w, rfl, List.cons_ne_nil _ _,
        (at?_key d head).trans hw, hblocks⟩
    | some inner =>
      refine exists_map_eq_error_iff.trans (ih.trans ?_)
      constructor
      · rintro ⟨front, back, w, rfl, hback, hw, hblocks⟩
        exact ⟨next :: front, back, w, rfl, hback, (at?_of_inside? hinside).trans hw, hblocks⟩
      · rintro ⟨front, back, w, happend, hback, hw, hblocks⟩
        cases front with
        | nil =>
          -- the first segment itself leads to nothing or to a document
          rw [at?_key] at hw
          rw [inside?_eq_none_iff.mpr ⟨w, hw, hblocks⟩] at hinside
          cases hinside
        | cons first front =>
          obtain ⟨rfl, rfl⟩ := List.cons.inj happend
          rw [at?_of_inside? hinside] at hw
          exact ⟨front, back, w, rfl, hback, hw, hblocks⟩

/-! ## Parts of a document -/

/-- What stands at a path in one document stands there in the other, or documents stand there in
both. -/
def PartOf (out d : Document) : Prop :=
  ∀ p w, at? out p = some w → at? d p = some w ∨
    ∃ inner fields, w = .document inner ∧ at? d p = some (.document fields)

namespace PartOf

theorem refl (d : Document) : PartOf d d := fun _ _ hw => Or.inl hw

/-- A value that is no document is the source's own. -/
theorem at?_eq (h : PartOf out d) (hw : at? out p = some w)
    (hplain : ∀ inner, w ≠ .document inner) : at? d p = some w := by
  rcases h p w hw with hsame | ⟨inner, -, rfl, -⟩
  · exact hsame
  · exact absurd rfl (hplain inner)

/-- Where the source has nothing, its part has nothing. -/
theorem at?_eq_none (h : PartOf out d) (hnone : at? d p = none) : at? out p = none := by
  cases hw : at? out p with
  | none => rfl
  | some w =>
    rcases h p w hw with hsame | ⟨-, fields, -, hdocument⟩
    · cases hnone.symm.trans hsame
    · cases hnone.symm.trans hdocument

/-- What the source has at a path can be written there: on the way to it the source has documents
only, so its part has documents or nothing. -/
theorem exists_setAt (h : PartOf out d) (hv : at? d p = some v) (w : Value) :
    ∃ out', setAt out p.head p.rest w = .ok out' := by
  cases hset : setAt out p.head p.rest w with
  | ok out' => exact ⟨out', rfl⟩
  | error b =>
    obtain ⟨front, back, u, hrest, hback, hu, hblocks⟩ := exists_setAt_eq_error_iff.mp ⟨b, hset⟩
    have hsource : at? d ⟨p.head, front⟩ = some u := h.at?_eq hu hblocks
    have hextends : p.segments = Path.segments ⟨p.head, front⟩ ++ back := congrArg _ hrest
    rw [at?_of_extends hextends, hsource] at hv
    obtain ⟨inner, rfl⟩ := Value.exists_document_of_follow hv hback
    exact absurd rfl (hblocks inner)

/-- With a value of the source written at its path, a part is a part still. -/
theorem setAt (h : PartOf out d) (hv : at? d p = some v)
    (hset : Document.setAt out p.head p.rest v = .ok out') : PartOf out' d := by
  intro q w hw
  rcases at?_after hset q with
    ⟨-, hbefore⟩ | ⟨back, hback, hbelow⟩ | ⟨back, inner, hne, hback, habove⟩
  · exact h q w (hbefore.symm.trans hw)
  · left
    rw [at?_of_extends hback, hv]
    exact hbelow.symm.trans hw
  · right
    rw [at?_of_extends hback] at hv
    obtain ⟨u, hu, hfollow⟩ := Option.bind_eq_some_iff.mp hv
    obtain ⟨fields, rfl⟩ := Value.exists_document_of_follow hfollow hne
    exact ⟨inner, fields, Option.some.inj (hw.symm.trans habove), hu⟩

end PartOf

/-- A path that reads what it reads in the source goes on doing so when another value of the source
is written. -/
theorem at?_settled (hq : at? out q = at? d q) (hv : at? d p = some v)
    (hset : setAt out p.head p.rest v = .ok out') : at? out' q = at? d q := by
  rcases at?_after hset q with ⟨-, hbefore⟩ | ⟨back, hback, hbelow⟩ | ⟨back, -, -, hback, -⟩
  · exact hbefore.trans hq
  · rw [hbelow, at?_of_extends hback, hv]
    rfl
  · -- the path of the write leads into what is settled, so its value stands there already
    have hout : at? out p = some v := by
      rw [at?_of_extends hback, hq, ← at?_of_extends hback, hv]
    rw [setAt_of_at? hout] at hset
    cases hset
    exact hq

/-! ## Writes of updates -/

/-- A write at a path without dots puts the value under its key. -/
theorem write_of_dotless (h : '.' ∉ path.toList) (d : Document) (v : Value) :
    write d path v = .ok (insert d path v) := by
  rw [write, setPath, Path.ofString_of_dotless h, setAt]

theorem getPath?_write (h : write d path v = .ok d') : getPath? d' path = some v := by
  unfold write at h
  split at h
  · rename_i after hafter
    rw [Except.ok.injEq] at h
    exact h ▸ at?_setAt hafter
  · cases h

/-- Writing what stands at the path already changes nothing. -/
theorem write_of_getPath? (h : getPath? d path = some v) : write d path v = .ok d := by
  have hset : setPath d path v = .ok d := setAt_of_at? h
  rw [write, hset]

/-- Where something stands, it can be written over. -/
theorem exists_write (h : getPath? d path = some w) (v : Value) :
    ∃ d', write d path v = .ok d' := by
  obtain ⟨d', hd'⟩ := (PartOf.refl d).exists_setAt h v
  have hset : setPath d path v = .ok d' := hd'
  exact ⟨d', by rw [write, hset]⟩

/-- There is room for a value at a path: no segment but the last leads to something that is not a
document. -/
def HasRoom (d : Document) (path : String) : Prop :=
  ∀ front back w, (Path.ofString path).rest = front ++ back → back ≠ [] →
    at? d ⟨(Path.ofString path).head, front⟩ = some w → ∃ inner, w = .document inner

/-- A value can be written exactly where there is room for it. -/
theorem exists_write_iff : (∃ d', write d path v = .ok d') ↔ d.HasRoom path := by
  -- writing fails exactly at a value, read above the end of the path, that is no document
  have hrefused : (∃ b, setAt d (Path.ofString path).head (Path.ofString path).rest v = .error b) ↔
      ∃ front back w, (Path.ofString path).rest = front ++ back ∧ back ≠ [] ∧
        at? d ⟨(Path.ofString path).head, front⟩ = some w ∧ ∀ inner, w ≠ .document inner :=
    exists_setAt_eq_error_iff
  rw [write, setPath]
  constructor
  · rintro ⟨d', hd'⟩ front back w hrest hback hw
    by_contra hblocks
    obtain ⟨b, hb⟩ := hrefused.mpr
      ⟨front, back, w, hrest, hback, hw, fun inner hinner => hblocks ⟨inner, hinner⟩⟩
    rw [hb] at hd'
    cases hd'
  · intro hroom
    cases hset : setAt d (Path.ofString path).head (Path.ofString path).rest v with
    | ok d' => exact ⟨d', rfl⟩
    | error b =>
      obtain ⟨front, back, w, hrest, hback, hw, hblocks⟩ := hrefused.mp ⟨b, hset⟩
      obtain ⟨inner, hinner⟩ := hroom front back w hrest hback hw
      exact absurd hinner (hblocks inner)

/-- Where there is no room, the write fails with what stands in the way. -/
theorem write_of_not_hasRoom (h : ¬ d.HasRoom path) (v : Value) :
    ∃ b, write d path v = .error (.driver (.pathBlocked b)) := by
  rw [← exists_write_iff (v := v), write] at h
  rw [write]
  cases hset : setPath d path v with
  | ok d' => exact absurd ⟨d', by rw [hset]⟩ h
  | error b => exact ⟨b, rfl⟩

/-- There is room where the first segment leads to nothing, or to an empty document. -/
theorem hasRoom_of_head
    (h : ∀ w, get? d (Path.ofString path).head = some w → w = .document []) :
    d.HasRoom path := by
  intro front back w _ _ hw
  cases front with
  | nil => exact ⟨[], h w ((at?_key _ _).symm.trans hw)⟩
  | cons next after =>
    obtain ⟨u, hu, hfollow⟩ := Option.bind_eq_some_iff.mp hw
    cases h u hu
    cases hfollow

theorem getPath?_write_of_apart {path other : String}
    (hapart : (Path.ofString path).Apart (Path.ofString other))
    (h : write d path v = .ok d') : getPath? d' other = getPath? d other := by
  unfold write at h
  split at h
  · rename_i after hafter
    rw [Except.ok.injEq] at h
    exact h ▸ at?_setAt_of_apart hapart hafter
  · cases h

end Document

end DocMapper
