import DocMapper.Proofs.Failures
import DocMapper.Proofs.Increments
import DocMapper.Proofs.Seeds
import DocMapper.Proofs.Targets

namespace DocMapper

/-! # Replacements

A replacement takes the place of the first document that the filter selects. It gets the identifier
that stands there, as it is stored, and nothing else of the old document. Where nothing is selected,
an upsert puts it at the end, and the filter has a say in the identifier alone. Whatever is refused
leaves the store as it was.
-/

namespace Document

/-! ## The identifier that a filter fixes -/

/-- A path into the identifier looks at nothing but the identifier. -/
theorem getPath?_singleton_id {seed : Document} {id : Value} {path : String}
    (hid : id? seed = some id) (hhead : (Path.ofString path).head = idKey) :
    getPath? [(idKey, id)] path = getPath? seed path := by
  unfold id? at hid
  rw [getPath?, getPath?, at?, at?, hhead, hid, get?_cons_self]

/-- A filter fixes an identifier: it asks for equality at the identifier's path or at paths into it,
and these values make up the identifier. -/
structure FixesId (filter : Document) (id : Value) : Prop where
  asked : ∃ entry ∈ fixedValues filter, (Path.ofString entry.1).head = idKey
  seeded : ∃ seed, fixedBy filter = .ok seed ∧ id? seed = some id
  reads : ∀ entry ∈ fixedValues filter, (Path.ofString entry.1).head = idKey →
    (∀ other ∈ fixedValues filter,
      other = entry ∨ (Path.ofString other.1).Apart (Path.ofString entry.1)) →
    getPath? [(idKey, id)] entry.1 = some entry.2

section FixedId

variable {filter seed : Document} {id : Value}

theorem id?_eq_some_iff_mem_keys {d : Document} : (∃ id, id? d = some id) ↔ idKey ∈ keys d := by
  constructor
  · rintro ⟨id, hid⟩
    exact mem_keys_of_mem (mem_of_get?_eq_some hid)
  · exact exists_get?_of_mem_keys

/-- The fixed values bring in an identifier exactly when one of them stands at or inside it. -/
theorem exists_id?_of_fixedBy (h : fixedBy filter = .ok seed) :
    (∃ id, id? seed = some id) ↔
      ∃ entry ∈ fixedValues filter, (Path.ofString entry.1).head = idKey := by
  rw [fixedBy_eq] at h
  rw [id?_eq_some_iff_mem_keys, writesAt_write.mem_keys h]
  exact or_iff_right List.not_mem_nil

theorem fixesId_of_fixedBy (h : fixedBy filter = .ok seed) (hid : id? seed = some id) :
    FixesId filter id where
  asked := (exists_id?_of_fixedBy h).mp ⟨id, hid⟩
  seeded := ⟨seed, h, hid⟩
  reads := by
    intro entry hentry hhead halone
    rw [getPath?_singleton_id hid hhead]
    rw [fixedBy_eq] at h
    -- it is written once, and the writes after it are apart from it or repeat it
    refine foldlM_each (fun e c => e = entry → getPath? c e.1 = some e.2) ?_ ?_ h _ hentry rfl
    · intro e _ c c' hwrite _
      exact getPath?_write hwrite
    · intro e _ other hother c c' hbefore hwrite he
      subst he
      rcases halone other hother with rfl | hapart
      · exact getPath?_write hwrite
      · rw [getPath?_write_of_apart hapart hwrite]
        exact hbefore rfl

end FixedId

/-! ## The first selected document -/

/-- A filter selects a document of a list, and none of those before it. -/
structure FirstSelected (filter : Document) (docs before : List Document) (d : Document)
    (after : List Document) : Prop where
  split : docs = before ++ d :: after
  spared : ∀ e ∈ before, satisfies e filter = .ok false
  selected : satisfies d filter = .ok true

section Replacing

variable {filter replacement d next : Document} {docs docs' before after : List Document}
  {id : Value}

/-- A replacement in a list swaps the first selected document, or leaves a list of which nothing is
selected. -/
theorem replaceFirst_eq_ok {outcome : Option UpdateReport}
    (h : replaceFirst filter replacement docs = .ok (outcome, docs')) :
    (∃ before d after next, FirstSelected filter docs before d after ∧
      replace d replacement = .ok next ∧ outcome.isSome = true ∧
      docs' = before ++ next :: after) ∨
    (∀ d ∈ docs, satisfies d filter = .ok false) ∧ outcome = none ∧ docs' = docs := by
  induction docs generalizing outcome docs' with
  | nil =>
    cases h
    exact Or.inr ⟨fun d hd => absurd hd List.not_mem_nil, rfl, rfl⟩
  | cons d rest ih =>
    rw [replaceFirst] at h
    obtain ⟨selected, hselected, h⟩ := bind_eq_ok.mp h
    cases selected with
    | true =>
      rw [if_pos rfl] at h
      obtain ⟨next, hnext, h⟩ := bind_eq_ok.mp h
      cases h
      exact Or.inl ⟨[], d, rest, next, ⟨rfl, fun e he => absurd he List.not_mem_nil, hselected⟩,
        hnext, rfl, rfl⟩
    | false =>
      rw [if_neg (by decide)] at h
      obtain ⟨⟨later, after⟩, hlater, h⟩ := bind_eq_ok.mp h
      cases h
      rcases ih hlater with ⟨before, found, behind, next, hfirst, hnext, hreport, rfl⟩ |
        ⟨hnone, rfl, rfl⟩
      · -- the first selected of the rest is the first of all, this one being passed over
        have hspared : ∀ e ∈ d :: before, satisfies e filter = .ok false :=
          List.forall_mem_cons.mpr ⟨hselected, hfirst.spared⟩
        have hsplit : d :: rest = d :: before ++ found :: behind :=
          congrArg (d :: ·) hfirst.split
        exact Or.inl ⟨d :: before, found, behind, next, ⟨hsplit, hspared, hfirst.selected⟩, hnext,
          hreport, rfl⟩
      · exact Or.inr ⟨List.forall_mem_cons.mpr ⟨hselected, hnone⟩, rfl, rfl⟩

theorem FirstSelected.replaceFirst_eq (hfirst : FirstSelected filter docs before d after) :
    replaceFirst filter replacement docs = (replace d replacement).map fun next =>
      (some (UpdateReport.count {} (!beq next d)), before ++ next :: after) := by
  rw [hfirst.split, replaceFirst_append hfirst.spared, replaceFirst, hfirst.selected, ok_bind,
    if_pos rfl]
  cases replace d replacement <;> rfl

/-- A replaced document has its identifier first, and then what the replacement has beside one. -/
theorem replace_eq_ok (hid : id? d = some id) (h : replace d replacement = .ok next) :
    next = (idKey, id) :: erase replacement idKey := by
  unfold replace at h
  split at h
  · cases h
  · rw [Except.ok.injEq] at h
    rw [← h, idEntry, hid]
    rfl

theorem replace_of_id (hid : id? d = some id)
    (hsame : ∀ other, id? replacement = some other → id.equals other = true) :
    ∃ next, replace d replacement = .ok next := by
  have hkeeps : (id? replacement).any (changesId d ·) = false := by
    cases hother : id? replacement with
    | none => rfl
    | some other => simp [changesId, hid, hsame other hother]
  exact ⟨_, by rw [replace, hkeeps, if_neg (by decide)]⟩

theorem replace_of_other_id {other : Value} (hid : id? d = some id)
    (hother : id? replacement = some other) (hne : id.equals other = false) :
    replace d replacement = .error (.driver .immutableId) := by
  have hchanges : (id? replacement).any (changesId d ·) = true := by
    simp [changesId, hid, hother, hne]
  rw [replace, hchanges, if_pos rfl]

theorem refuseOperators_of_operator {key : String} (hkey : key ∈ keys replacement)
    (h : isOperatorKey key = true) :
    ∃ key', refuseOperators replacement = .error (.driver (.replacementOperator key')) := by
  rw [refuseOperators]
  cases hfind : (keys replacement).find? isOperatorKey with
  | none => exact absurd h (List.find?_eq_none.mp hfind key hkey)
  | some key' => exact ⟨key', rfl⟩

end Replacing

end Document

namespace Store

/-- The identifier of a document that a replacement creates: the one of the replacement, else the
one that the filter fixes, else a fresh one. -/
inductive ReplacementId (s : Store) (filter replacement : Document) : Value → Prop
  | given {id : Value} (h : Document.id? replacement = some id) :
      ReplacementId s filter replacement id
  | fixed {id : Value} (h : Document.id? replacement = none)
      (hfixed : Document.FixesId filter id) : ReplacementId s filter replacement id
  | fresh (h : Document.id? replacement = none)
      (hfree : ∀ entry ∈ Document.fixedValues filter,
        (Path.ofString entry.1).head ≠ Document.idKey) :
      ReplacementId s filter replacement (.objectId s.ids.fresh)

variable {s s' : Store} {filter replacement d created : Document} {before after : List Document}
  {id : Value} {upsert : Bool} {report : UpdateReport}

/-- What an upsert inserts has the fields of the replacement beside its identifier, and nothing else
of the filter. -/
theorem Inserted.of_upsertedReplacement
    (hcreated : Document.upsertedReplacement filter replacement = .ok created)
    (h : s.Inserted created id s') :
    s.ReplacementId filter replacement id ∧
      Document.erase created Document.idKey = Document.erase replacement Document.idKey := by
  unfold Document.upsertedReplacement at hcreated
  cases hreplacement : Document.id? replacement with
  | some own =>
    rw [hreplacement, Except.ok.injEq] at hcreated
    subst hcreated
    -- an identifier of its own goes before one the filter fixes
    exact ⟨h.given own hreplacement ▸ .given hreplacement, rfl⟩
  | none =>
    rw [hreplacement] at hcreated
    obtain ⟨seed, hseed, hcreated⟩ := bind_eq_ok.mp hcreated
    rw [pure_eq_ok] at hcreated
    subst hcreated
    cases hid : Document.id? seed with
    | some fixed =>
      -- the filter fixes the identifier, and the insertion keeps it
      have hentry : Document.idEntry seed = [(Document.idKey, fixed)] := by
        rw [Document.idEntry, hid]
      rw [hentry] at h ⊢
      have hown : id = fixed := h.given fixed (Document.get?_cons_self _ _ _)
      refine ⟨.fixed hreplacement (hown ▸ Document.fixesId_of_fixedBy hseed hid), ?_⟩
      rw [List.singleton_append, Document.erase_cons, if_pos rfl]
    | none =>
      have hentry : Document.idEntry seed = [] := by
        rw [Document.idEntry, hid]
      rw [hentry, List.nil_append] at h ⊢
      -- neither has one, so the store generates it; were a fixed entry to reach it, the seed would
      -- hold it
      refine ⟨h.fresh hreplacement ▸ .fresh hreplacement fun entry hmem hhead => ?_, rfl⟩
      obtain ⟨fixed, hfixed⟩ :=
        (Document.exists_id?_of_fixedBy hseed).mpr ⟨entry, hmem, hhead⟩
      rw [hid] at hfixed
      cases hfixed

/-- A replacement that succeeds swaps the first selected document. Where nothing is selected, it
does nothing, or an upsert inserts what the replacement and the filter make up. -/
theorem replaceOne_eq_ok (h : s.replaceOne filter replacement upsert = .ok (report, s')) :
    (∃ before d after next, Document.FirstSelected filter s.documents before d after ∧
      Document.replace d replacement = .ok next ∧
      s' = { s with documents := before ++ next :: after }) ∨
    (∀ d ∈ s.documents, Document.satisfies d filter = .ok false) ∧
      ((upsert = false ∧ s' = s) ∨ upsert = true ∧ ∃ created id,
        Document.upsertedReplacement filter replacement = .ok created ∧
          s.insert created = .ok (id, s')) := by
  unfold replaceOne at h
  obtain ⟨-, -, h⟩ := bind_eq_ok.mp h
  obtain ⟨⟨outcome, docs'⟩, hreplaced, h⟩ := bind_eq_ok.mp h
  rcases Document.replaceFirst_eq_ok hreplaced with
    ⟨before, d, after, next, hfirst, hnext, hreport, rfl⟩ | ⟨hnone, rfl, rfl⟩
  · -- a document was selected, so it is replaced where it stands
    obtain ⟨outcome, rfl⟩ := Option.isSome_iff_exists.mp hreport
    cases pure_eq_ok.mp h
    exact Or.inl ⟨before, d, after, next, hfirst, hnext, rfl⟩
  · -- none was, so the store changes only by an upsert
    refine Or.inr ⟨hnone, ?_⟩
    dsimp only at h
    cases upsert with
    | true =>
      rw [if_pos rfl] at h
      obtain ⟨created, hcreated, h⟩ := bind_eq_ok.mp h
      obtain ⟨⟨id, t⟩, hinsert, h⟩ := bind_eq_ok.mp h
      cases pure_eq_ok.mp h
      exact Or.inr ⟨rfl, created, id, hcreated, hinsert⟩
    | false =>
      rw [if_neg (by decide)] at h
      cases pure_eq_ok.mp h
      exact Or.inl ⟨rfl, rfl⟩

/-- Replacing where a document is selected comes down to that document. -/
theorem replaceOne_of_first (hfirst : Document.FirstSelected filter s.documents before d after)
    (hcheck : Document.refuseOperators replacement = .ok ()) :
    s.replaceOne filter replacement upsert = (Document.replace d replacement).map fun next =>
      (UpdateReport.count {} (!Document.beq next d),
        { s with documents := before ++ next :: after }) := by
  rw [replaceOne, hcheck, ok_bind, hfirst.replaceFirst_eq]
  cases Document.replace d replacement <;> rfl

/-- A replacement that succeeds where a document is selected leaves, in the place of the first such
document, its identifier and the other fields of the replacement. -/
theorem swapped_of_replaceOne (hids : ∀ d ∈ s.documents, ∃ id, Document.id? d = some id)
    (h : s.replaceOne filter replacement upsert = .ok (report, s'))
    (hselected : ∃ e ∈ s.documents, Document.satisfies e filter = .ok true) :
    ∃ before d after id, Document.FirstSelected filter s.documents before d after ∧
      Document.id? d = some id ∧
      s' = { s with documents := before ++
        ((Document.idKey, id) :: Document.erase replacement Document.idKey) :: after } := by
  rcases replaceOne_eq_ok h with ⟨before, d, after, next, hfirst, hnext, rfl⟩ | ⟨hnone, -⟩
  · obtain ⟨id, hid⟩ := hids d (hfirst.split ▸ List.mem_append_right _ List.mem_cons_self)
    rw [Document.replace_eq_ok hid hnext]
    exact ⟨before, d, after, id, hfirst, hid, rfl⟩
  · obtain ⟨e, he, hyes⟩ := hselected
    rw [hnone e he] at hyes
    cases hyes

/-- A replacement that succeeds where nothing is selected changes nothing, or an upsert has put an
identifier and the other fields of the replacement to the end. -/
theorem appended_of_replaceOne (h : s.replaceOne filter replacement upsert = .ok (report, s'))
    (hnone : ∀ e ∈ s.documents, Document.satisfies e filter ≠ .ok true) :
    (upsert = false → s' = s) ∧
      (upsert = true → ∃ id, s.ReplacementId filter replacement id ∧
        s'.documents = s.documents ++
          [(Document.idKey, id) :: Document.erase replacement Document.idKey] ∧
        s'.indexes = s.indexes) := by
  rcases replaceOne_eq_ok h with ⟨before, d, after, next, hfirst, -, -⟩ | ⟨-, hcases⟩
  · -- the case of a document that was replaced, which nothing selects here
    have hd : d ∈ s.documents := hfirst.split ▸ List.mem_append_right _ List.mem_cons_self
    exact absurd hfirst.selected (hnone d hd)
  · rcases hcases with ⟨rfl, rfl⟩ | ⟨rfl, created, id, hcreated, hinsert⟩
    · constructor
      · intro _
        rfl
      · intro hupsert
        cases hupsert
    · constructor
      · intro hupsert
        cases hupsert
      · intro _
        have hinserted := insert_eq_ok hinsert
        rcases hinserted.of_upsertedReplacement hcreated with ⟨hid, hfields⟩
        rw [hinserted.documents, hfields]
        exact ⟨id, hid, rfl, hinserted.indexes⟩

/-- An operator among the keys of a replacement is an error. -/
theorem replaceOne_of_operator {key : String} (hkey : key ∈ Document.keys replacement)
    (hoperator : isOperatorKey key = true) :
    ∃ e, s.replaceOne filter replacement upsert = .error e := by
  rcases Document.refuseOperators_of_operator hkey hoperator with ⟨key', hrefused⟩
  refine ⟨.driver (.replacementOperator key'), ?_⟩
  rw [replaceOne, hrefused]
  rfl

/-- An identifier that differs from that of the first selected document is an error. -/
theorem replaceOne_of_other_id {other : Value}
    (hfirst : Document.FirstSelected filter s.documents before d after)
    (hid : Document.id? d = some id) (hother : Document.id? replacement = some other)
    (hne : id.equals other = false) :
    ∃ e, s.replaceOne filter replacement upsert = .error e := by
  -- an operator among the keys is found before the documents are looked at
  cases hcheck : Document.refuseOperators replacement with
  | error e =>
    refine ⟨e, ?_⟩
    rw [replaceOne, hcheck]
    rfl
  | ok =>
    refine ⟨.driver .immutableId, ?_⟩
    rw [replaceOne_of_first hfirst hcheck, Document.replace_of_other_id hid hother hne]
    rfl

/-- A replacement without operators, and with no identifier but an equal one, takes the place of the
first selected document. -/
theorem replaceOne_of_same_id
    (hfirst : Document.FirstSelected filter s.documents before d after)
    (hid : Document.id? d = some id)
    (hplain : ∀ key ∈ Document.keys replacement, isOperatorKey key = false)
    (hsame : ∀ other, Document.id? replacement = some other → id.equals other = true) :
    ∃ outcome, s.replaceOne filter replacement upsert = .ok outcome := by
  obtain ⟨next, hnext⟩ := Document.replace_of_id hid hsame
  rw [replaceOne_of_first hfirst (Document.refuseOperators_of_plain hplain), hnext]
  exact ⟨_, rfl⟩

/-- A replacement swaps one document and keeps its identity. When it succeeds and a document is
selected, the first selected one gives way to its own identifier followed by the other fields of the
replacement, and nothing else changes. When it succeeds and nothing is selected, nothing changes
without upsert; with upsert one document comes to the end, made of an identifier and the other
fields of the replacement. An operator among the keys, and an identifier that differs from that of
the first selected document, are errors that change nothing; else a selected document is
replaced. -/
theorem replacement_swaps_one (hids : ∀ d ∈ s.documents, ∃ id, Document.id? d = some id) :
    let run := Action.atomic (·.replaceOne filter replacement upsert)
    (∀ report s', run s = (.ok report, s') →
      ((∃ e ∈ s.documents, Document.satisfies e filter = .ok true) →
        ∃ before d after id, Document.FirstSelected filter s.documents before d after ∧
          Document.id? d = some id ∧
          s' = { s with documents := before ++
            ((Document.idKey, id) :: Document.erase replacement Document.idKey) :: after }) ∧
      ((∀ e ∈ s.documents, Document.satisfies e filter ≠ .ok true) →
        (upsert = false → s' = s) ∧
        (upsert = true → ∃ id, s.ReplacementId filter replacement id ∧
          s'.documents = s.documents ++
            [(Document.idKey, id) :: Document.erase replacement Document.idKey] ∧
          s'.indexes = s.indexes))) ∧
    (∀ key ∈ Document.keys replacement, isOperatorKey key = true → ∃ e, run s = (.error e, s)) ∧
    (∀ before d after id, Document.FirstSelected filter s.documents before d after →
      Document.id? d = some id →
      (∀ other, Document.id? replacement = some other → id.equals other = false →
        ∃ e, run s = (.error e, s)) ∧
      ((∀ key ∈ Document.keys replacement, isOperatorKey key = false) →
        (∀ other, Document.id? replacement = some other → id.equals other = true) →
        ∃ report s', run s = (.ok report, s'))) := by
  intro run
  -- an operation of the store that fails leaves it as it was
  have hfails : (∃ e, s.replaceOne filter replacement upsert = .error e) →
      ∃ e, run s = (.error e, s) := by
    rintro ⟨e, he⟩
    exact ⟨e, Action.atomic_apply_eq_error.mpr ⟨he, rfl⟩⟩
  refine ⟨?_, ?_, ?_⟩
  · intro report s' h
    have hreplaced := Action.atomic_apply_eq_ok.mp h
    exact ⟨swapped_of_replaceOne hids hreplaced, appended_of_replaceOne hreplaced⟩
  · intro key hkey hoperator
    exact hfails (replaceOne_of_operator hkey hoperator)
  · intro before d after id hfirst hid
    refine ⟨?_, ?_⟩
    · intro other hother hne
      exact hfails (replaceOne_of_other_id hfirst hid hother hne)
    · intro hplain hsame
      obtain ⟨⟨report, s'⟩, hdone⟩ := replaceOne_of_same_id hfirst hid hplain hsame
      exact ⟨report, s', Action.atomic_apply_eq_ok.mpr hdone⟩

/-- The identifier that stays is the stored one, and not an equal one of another width that the
replacement has. -/
theorem replacement_swaps_one_of_other_width :
    ∃ s : Store,
      s.documents = [[("_id", .int32 1), ("name", .string "a")],
        [("_id", .int32 2), ("name", .string "b"), ("tag", .null)],
        [("_id", .int32 3), ("name", .string "b")]] ∧
      (∀ d ∈ s.documents, ∃ id, Document.id? d = some id) ∧
      ∃ report s' before d after id,
        Action.atomic (·.replaceOne [("name", .string "b")]
          [("n", .bool true), ("_id", .int64 2), ("name", .string "c")] false) s =
            (.ok report, s') ∧
        Document.FirstSelected [("name", .string "b")] s.documents before d after ∧
        Document.id? d = some id ∧
        s'.documents =
          before ++ [(Document.idKey, id), ("n", .bool true), ("name", .string "c")] :: after := by
  let s : Store :=
    { documents := [[("_id", .int32 1), ("name", .string "a")],
        [("_id", .int32 2), ("name", .string "b"), ("tag", .null)],
        [("_id", .int32 3), ("name", .string "b")]]
      ids := ⟨fun _ => ⟨0⟩, 0⟩ }
  have hids : ∀ d ∈ s.documents, ∃ id, Document.id? d = some id := by
    intro d hd
    simp only [s, List.mem_cons, List.not_mem_nil, or_false] at hd
    rcases hd with rfl | rfl | rfl
    · exact ⟨_, rfl⟩
    · exact ⟨_, rfl⟩
    · exact ⟨_, rfl⟩
  have hfirst : Document.FirstSelected [("name", .string "b")] s.documents
      [[("_id", .int32 1), ("name", .string "a")]]
      [("_id", .int32 2), ("name", .string "b"), ("tag", .null)]
      [[("_id", .int32 3), ("name", .string "b")]] := by
    refine ⟨rfl, fun e he => ?_, rfl⟩
    rw [List.mem_singleton.mp he]
    rfl
  -- the replacement names the identifier in another width
  have hsame : ∀ other, Document.id? [("n", .bool true), ("_id", .int64 2),
      ("name", .string "c")] = some other → (Value.int32 2).equals other = true := by
    rintro other ⟨⟩
    show (Value.int32 2).equals (.int64 2) = true
    decide +kernel
  have hswaps := @replacement_swaps_one s [("name", .string "b")]
    [("n", .bool true), ("_id", .int64 2), ("name", .string "c")] false hids
  rcases (hswaps.2.2 _ _ _ _ hfirst rfl).2 (by decide) hsame with ⟨report, s', hrun⟩
  have hselected : ∃ e ∈ s.documents,
      Document.satisfies e [("name", .string "b")] = .ok true :=
    ⟨_, List.mem_cons_of_mem _ List.mem_cons_self, rfl⟩
  rcases (hswaps.1 _ _ hrun).1 hselected with ⟨before, d, after, id, hfound, hid, hdocs⟩
  exact ⟨s, rfl, hids, report, s', before, d, after, id, hrun, hfound, hid,
    congrArg (fun t : Store => t.documents) hdocs⟩

end Store

end DocMapper
