import DocMapper.Proofs.Selection
import DocMapper.Proofs.StoreInvariant

namespace DocMapper

/-! # Changing the document that is found

A call that finds a document and changes it selects, sorts and skips a copy of the documents, takes
the identifier of the first that is left, and looks for that identifier among the stored documents.
Where identifiers tell documents apart, this is the place of the document that was found. Without
sorting and skipping it is the first document that the filter selects, which the calls that walk
over the stored documents change.
-/

/-- A change of one document: an update by operators, or a replacement. -/
inductive Change where
  | update (changes : Document)
  | replacement (other : Document)

namespace Change

/-- What the change makes of a document. -/
def apply : Change → Document → Except Error Document
  | update changes, d => Document.updated d changes
  | replacement other, d => Document.replace d other

/-- An update has operators only, and a replacement has none. -/
def check : Change → Except Error Unit
  | update changes => Document.requireOperators changes
  | replacement other => Document.refuseOperators other

/-- The document that an upsert creates. -/
def created (filter : Document) : Change → Except Error Document
  | update changes => Document.upserted filter changes
  | replacement other => Document.upsertedReplacement filter other

/-- Changes the first matching document in the order of the options, and answers with it: the calls
`find_one_and_update` and `find_one_and_replace`. -/
def ofFound (filter : Document) (options : ReadOptions) (upsert : Bool) (s : Store) :
    Change → Except Error (Option Document × Store)
  | update changes => s.findOneAndUpdate filter changes options upsert
  | replacement other => s.findOneAndReplace filter other options upsert

/-- Changes the first matching document in the order of storage, and answers with a report: the
calls `update_one` and `replace_one`. -/
def ofFirst (filter : Document) (upsert : Bool) : Change → Action UpdateReport
  | update changes => Action.updateOne filter changes upsert
  | replacement other => .atomic (·.replaceOne filter other upsert)

end Change

namespace Document

variable {filter d next : Document} {options : ReadOptions} {before after docs : List Document}

/-- Identifiers tell the documents apart: every document has one, which equals itself and none of
those after it. -/
structure ToldApart (docs : List Document) : Prop where
  own : ∀ d ∈ docs, ∃ id, id? d = some id ∧ id.equals id = true
  distinct : (docs.map id?).Pairwise fun a b =>
    ∀ x y, a = some x → b = some y → x.equals y = false

/-- An identifier is found at the first document that has it. -/
theorem findIdx?_hasId {id : Value} (hbefore : ∀ e ∈ before, hasId id e = false)
    (hd : hasId id d = true) :
    (before ++ d :: after).findIdx? (hasId id) = some before.length := by
  rw [List.findIdx?_append, List.findIdx?_eq_none_iff.mpr hbefore, Option.none_or,
    List.findIdx?_cons, if_pos hd, Option.map_some, Nat.zero_add]

/-- Documents that are told apart are found by their identifiers where they stand. -/
theorem ToldApart.findIdx?_of_id? (h : ToldApart (before ++ d :: after)) {id : Value}
    (hid : id? d = some id) : (before ++ d :: after).findIdx? (hasId id) = some before.length := by
  refine findIdx?_hasId (fun e he => ?_) ?_
  · obtain ⟨x, hx, -⟩ := h.own e (List.mem_append_left _ he)
    have hdistinct := h.distinct
    rw [List.map_append, List.pairwise_append] at hdistinct
    rw [hasId, hx, Option.any_some]
    exact hdistinct.2.2 _ (List.mem_map_of_mem he) _ (List.mem_map_of_mem List.mem_cons_self)
      x id hx hid
  · obtain ⟨x, hx, hequals⟩ := h.own d (List.mem_append_right _ List.mem_cons_self)
    cases hid.symm.trans hx
    rw [hasId, hid, Option.any_some, hequals]

/-! ## Reading one document -/

/-- The documents in the order of the options. -/
def arranged (options : ReadOptions) (docs : List Document) : List Document :=
  match options.sort? with
  | some sort => sortBy sort docs
  | none => docs

theorem find_eq (filter : Document) (options : ReadOptions) (docs : List Document) :
    find filter options docs =
      (select filter docs).map fun selected => page options (arranged options selected) := by
  rw [find]
  cases select filter docs <;> rfl

theorem mem_of_mem_page (h : d ∈ page options docs) : d ∈ docs := by
  rw [page] at h
  split at h
  · exact List.mem_of_mem_drop h
  · split at h
    · exact List.mem_of_mem_drop h
    · exact List.mem_of_mem_drop (List.mem_of_mem_take h)

theorem mem_arranged : d ∈ arranged options docs ↔ d ∈ docs := by
  rw [arranged]
  split
  · exact mem_sortBy
  · rfl

/-- What is read is stored. -/
theorem mem_of_mem_find {found : List Document} (h : find filter options docs = .ok found)
    (hd : d ∈ found) : d ∈ docs := by
  rw [find_eq] at h
  obtain ⟨selected, hselect, rfl⟩ := map_eq_ok.mp h
  exact ((mem_select hselect).mp (mem_arranged.mp (mem_of_mem_page hd))).1

/-- A sort by nothing leaves the order. -/
theorem sortBy_nil (docs : List Document) : sortBy [] docs = docs :=
  List.mergeSort_of_pairwise (List.pairwise_of_forall fun _ _ => rfl)

theorem page_single (hskip : options.skip?.getD 0 = 0) (docs : List Document) :
    page options.single docs = docs.take 1 := by
  change List.take 1 (docs.drop (options.skip?.getD 0)) = _
  rw [hskip, List.drop_zero]

/-- Without skipping, reading one document gives the first that is selected in the order of the
options. -/
theorem find_single_of_select {selected : List Document} (hskip : options.skip?.getD 0 = 0)
    (h : select filter docs = .ok selected) :
    find filter options.single docs = .ok ((arranged options selected).take 1) := by
  rw [find_eq, h]
  exact congrArg Except.ok (page_single hskip _)

/-- Without sorting and skipping, reading one document gives the first that is selected. -/
theorem find_single_eq (hsort : options.sort?.getD [] = []) (hskip : options.skip?.getD 0 = 0)
    (filter : Document) (docs : List Document) :
    find filter options.single docs = (select filter docs).map (List.take 1) := by
  have harranged : ∀ docs : List Document, arranged options docs = docs := by
    intro docs
    rw [arranged]
    split
    · rename_i sort hcase
      rw [hcase, Option.getD_some] at hsort
      rw [hsort, sortBy_nil]
    · rfl
  cases hselect : select filter docs with
  | error e =>
    rw [find_eq, hselect]
    rfl
  | ok selected =>
    rw [find_single_of_select hskip hselect, harranged]
    rfl

/-- What reading finds is looked for by its identifier. -/
theorem target_of_find {found : List Document} (h : find filter options.single docs = .ok found) :
    target filter options docs =
      .ok (found.head?.bind fun d => (id? d).bind fun id => docs.findIdx? (hasId id)) := by
  rw [target, h]
  rfl

/-! ## Replacing the first selected document -/

theorem replaceFirst_of_selected {replacement : Document}
    (hbefore : ∀ e ∈ before, satisfies e filter = .ok false) (hd : satisfies d filter = .ok true)
    (hnext : replace d replacement = .ok next) :
    replaceFirst filter replacement (before ++ d :: after) =
      .ok (some (UpdateReport.count {} (!beq next d)), before ++ next :: after) := by
  rw [replaceFirst_append hbefore, replaceFirst, hd, ok_bind, if_pos rfl, hnext]
  rfl

theorem replaceFirst_of_spared {replacement : Document}
    (h : ∀ d ∈ docs, satisfies d filter = .ok false) :
    replaceFirst filter replacement docs = .ok (none, docs) := by
  rw [← List.append_nil docs, replaceFirst_append h]
  rfl

end Document

namespace Store

variable {filter d : Document} {options : ReadOptions} {upsert : Bool}
  {before after : List Document} {change : Document → Except Error Document}
  {create : Except Error Document} {s s' : Store}

/-! ## The call that finds and changes -/

/-- Finding one document reads it and shows what the options ask for. -/
theorem findOne_eq (s : Store) (filter : Document) (options : ReadOptions) :
    s.findOne filter options = (Document.find filter options.single s.documents).map
      fun found => found.head?.map (Document.shaped options) := by
  have hsame : ∀ found : List Document,
      (found.map (Document.shaped options.single)).head? =
        found.head?.map (Document.shaped options) := fun found => List.head?_map
  rw [findOne, find]
  change (do return (← (do
    return (← Document.find filter options.single s.documents).map
      (Document.shaped options.single))).head?) = _
  cases Document.find filter options.single s.documents with
  | error e => rfl
  | ok found => exact congrArg Except.ok (hsame found)

/-- Without a projection, a document is found whole. -/
theorem findOne_whole (s : Store) (filter : Document) (options : ReadOptions) :
    s.findOne filter { options with projection? := none } =
      (Document.find filter options.single s.documents).map List.head? := by
  rw [findOne_eq]
  refine congrArg (Except.map · _) (funext fun found => ?_)
  cases found <;> rfl

/-- What is found is stored. -/
theorem mem_of_findOne
    (hfound : s.findOne filter { options with projection? := none } = .ok (some d)) :
    d ∈ s.documents := by
  rw [findOne_whole] at hfound
  obtain ⟨found, hfind, hhead⟩ := map_eq_ok.mp hfound
  exact Document.mem_of_mem_find hfind (List.mem_of_mem_head? hhead)

/-- A call that has a target changes the document there. -/
theorem modifyOne_of_target {i : Nat}
    (htarget : Document.target filter options s.documents = .ok (some i))
    (hd : s.documents[i]? = some d) :
    s.modifyOne filter options upsert change create = (change d).map fun next =>
      (some (Document.shaped options next), { s with documents := s.documents.set i next }) := by
  rw [modifyOne, htarget, ok_bind, Option.bind_some, hd, Option.map_some]
  dsimp only
  cases change d <;> rfl

/-- A call without a target creates a document, or does nothing. -/
theorem modifyOne_of_no_target
    (htarget : Document.target filter options s.documents = .ok none) :
    s.modifyOne filter options upsert change create =
      if upsert then do
        let (id, s) ← s.insert (← create)
        return ((s.documents.find? (Document.hasId id)).map (Document.shaped options), s)
      else return (none, s) := by
  rw [modifyOne, htarget]
  rfl

/-- Where identifiers tell documents apart, a call that changes the first matching document changes
the one that is found, where it stands. -/
theorem modifyOne_of_found (hids : Document.ToldApart s.documents)
    (hdocs : s.documents = before ++ d :: after)
    (hfound : s.findOne filter { options with projection? := none } = .ok (some d)) :
    s.modifyOne filter options upsert change create = (change d).map fun next =>
      (some (Document.shaped options next), { s with documents := before ++ next :: after }) := by
  rw [findOne_whole] at hfound
  obtain ⟨found, hfind, hhead⟩ := map_eq_ok.mp hfound
  rw [hdocs] at hids
  obtain ⟨id, hid, -⟩ := hids.own d (List.mem_append_right _ List.mem_cons_self)
  have htarget : Document.target filter options s.documents = .ok (some before.length) := by
    rw [Document.target_of_find hfind, hhead, Option.bind_some, hid, Option.bind_some, hdocs,
      hids.findIdx?_of_id? hid]
  have hplace : s.documents[before.length]? = some d := by
    rw [hdocs, List.getElem?_append_right (Nat.le_refl _), Nat.sub_self, List.getElem?_cons_zero]
  have hset : ∀ next, s.documents.set before.length next = before ++ next :: after := by
    intro next
    rw [hdocs, List.set_append_right _ _ (Nat.le_refl _), Nat.sub_self, List.set_cons_zero]
  rw [modifyOne_of_target htarget hplace]
  simp only [hset]

/-- A filter that cannot be evaluated is an error of the call. -/
theorem modifyOne_of_error {e : Error}
    (hfound : s.findOne filter { options with projection? := none } = .error e) :
    s.modifyOne filter options upsert change create = .error e := by
  rw [findOne_whole] at hfound
  cases hfind : Document.find filter options.single s.documents with
  | ok found =>
    rw [hfind] at hfound
    cases hfound
  | error e' =>
    rw [hfind] at hfound
    cases hfound
    rw [modifyOne, Document.target, hfind]
    rfl

/-- A call that finds no document to change creates one, or does nothing. -/
theorem modifyOne_of_not_found
    (hfound : s.findOne filter { options with projection? := none } = .ok none) :
    s.modifyOne filter options upsert change create =
      if upsert then do
        let (id, s) ← s.insert (← create)
        return ((s.documents.find? (Document.hasId id)).map (Document.shaped options), s)
      else return (none, s) := by
  rw [findOne_whole] at hfound
  obtain ⟨found, hfind, hhead⟩ := map_eq_ok.mp hfound
  refine modifyOne_of_no_target ?_
  rw [Document.target_of_find hfind, hhead]
  rfl

end Store

namespace Change

variable {filter d next : Document} {options : ReadOptions} {upsert : Bool} {change : Change}
  {before after : List Document} {s s' : Store} {answer : Option Document}

theorem ofFound_eq (change : Change) : change.ofFound filter options upsert s =
    change.check >>= fun _ =>
      s.modifyOne filter options upsert change.apply (change.created filter) := by
  cases change <;> rfl

/-! ## The calls that walk over the stored documents -/

/-- The first document that the filter selects is changed where it stands. -/
theorem ofFirst_of_selected (hcheck : change.check = .ok ())
    (hdocs : s.documents = before ++ d :: after)
    (hbefore : ∀ e ∈ before, Document.satisfies e filter = .ok false)
    (hd : Document.satisfies d filter = .ok true) (hnext : change.apply d = .ok next) :
    ∃ report, change.ofFirst filter upsert s =
      (.ok report, { s with documents := before ++ next :: after }) := by
  refine ⟨UpdateReport.count {} (!Document.beq next d), ?_⟩
  -- both kinds pass over what comes before, and act on the first selected
  cases change with
  | update changes =>
    change Action.update filter changes upsert false s = _
    rw [check] at hcheck
    rw [apply] at hnext
    rw [Action.update, Action.check_bind_apply hcheck, Action.bind_apply, hdocs,
      Document.updateEach_append hbefore, Document.updateEach, hd]
    simp only [hnext]
    rfl
  | replacement other =>
    change Action.atomic (·.replaceOne filter other upsert) s = _
    rw [check] at hcheck
    rw [apply] at hnext
    rw [Action.atomic_apply_eq_ok, Store.replaceOne, hcheck, ok_bind, hdocs,
      Document.replaceFirst_of_selected hbefore hd hnext]
    rfl

/-- Where the filter selects nothing, an upsert inserts what it creates. -/
theorem ofFirst_of_created {id : Value} (hcheck : change.check = .ok ())
    (hnone : ∀ d ∈ s.documents, Document.satisfies d filter = .ok false)
    (hcreated : change.created filter = .ok d) (hinsert : s.insert d = .ok (id, s')) :
    change.ofFirst filter true s = (.ok { upsertedId? := some id }, s') := by
  -- both kinds find nothing to act on, and insert what they create
  cases change with
  | update changes =>
    change Action.update filter changes true false s = _
    rw [check] at hcheck
    rw [created] at hcreated
    rw [Action.update, Action.check_bind_apply hcheck, Action.bind_apply,
      Document.updateEach_of_spared hnone]
    change (do
      let id ← Action.insertOne (← Action.check (Document.upserted filter changes))
      return { ({} : UpdateReport) with upsertedId? := some id } : Action UpdateReport) s = _
    rw [hcreated, Action.bind_apply, Action.check]
    dsimp only
    rw [Action.bind_apply, Action.insertOne, Action.atomic, hinsert]
    rfl
  | replacement other =>
    change Action.atomic (·.replaceOne filter other true) s = _
    rw [check] at hcheck
    rw [created] at hcreated
    rw [Action.atomic_apply_eq_ok, Store.replaceOne, hcheck, ok_bind,
      Document.replaceFirst_of_spared hnone, ok_bind, hcreated]
    dsimp only
    rw [if_pos rfl, ok_bind, hinsert]
    rfl

/-- Without an upsert, nothing happens where the filter selects nothing. -/
theorem ofFirst_of_spared (hcheck : change.check = .ok ())
    (hnone : ∀ d ∈ s.documents, Document.satisfies d filter = .ok false) :
    change.ofFirst filter false s = (.ok {}, s) := by
  cases change with
  | update changes =>
    rw [check] at hcheck
    rw [ofFirst, Action.updateOne, Action.update_false_apply hcheck,
      Document.updateEach_of_spared hnone]
  | replacement other =>
    rw [check] at hcheck
    rw [ofFirst, Action.atomic_apply_eq_ok, Store.replaceOne, hcheck, ok_bind,
      Document.replaceFirst_of_spared hnone]
    rfl

/-! ## Both calls -/

/-- Without sorting and skipping, the call that finds the document leaves the store as the call that
walks over the documents does. -/
theorem ofFirst_of_ofFound (hids : Document.ToldApart s.documents)
    (h : change.ofFound filter options upsert s = .ok (answer, s'))
    (hsort : options.sort?.getD [] = []) (hskip : options.skip?.getD 0 = 0) :
    ∃ report, change.ofFirst filter upsert s = (.ok report, s') := by
  rw [ofFound_eq] at h
  obtain ⟨⟨⟩, hcheck, h⟩ := bind_eq_ok.mp h
  have hfind : s.findOne filter { options with projection? := none } =
      (Document.select filter s.documents).map List.head? := by
    rw [Store.findOne_whole, Document.find_single_eq hsort hskip]
    cases Document.select filter s.documents with
    | error e => rfl
    | ok selected => cases selected <;> rfl
  -- The filter fails on a document, selects none, or has a first match that both calls change.
  cases hselect : Document.select filter s.documents with
  | error e =>
    rw [Store.modifyOne_of_error (hfind.trans (by rw [hselect]; rfl))] at h
    cases h
  | ok selected =>
    rw [hselect] at hfind
    cases selected with
    | nil =>
      rw [Store.modifyOne_of_not_found hfind] at h
      have hnone := Document.select_eq_nil.mp hselect
      cases upsert with
      | true =>
        rw [if_pos rfl] at h
        obtain ⟨d, hcreated, h⟩ := bind_eq_ok.mp h
        obtain ⟨⟨id, t⟩, hinsert, h⟩ := bind_eq_ok.mp h
        cases pure_eq_ok.mp h
        exact ⟨_, ofFirst_of_created hcheck hnone hcreated hinsert⟩
      | false =>
        rw [if_neg Bool.false_ne_true] at h
        cases pure_eq_ok.mp h
        exact ⟨_, ofFirst_of_spared hcheck hnone⟩
    | cons d others =>
      obtain ⟨before, after, hdocs, hbefore, hd⟩ := Document.select_eq_cons hselect
      rw [Store.modifyOne_of_found hids hdocs hfind] at h
      obtain ⟨next, hnext, h⟩ := map_eq_ok.mp h
      cases h
      exact ofFirst_of_selected hcheck hdocs hbefore hd hnext

/-- A call that finds one document and changes it acts on the document that is found. Where
identifiers tell the documents apart and a successful call has a document to find, that document
alone is changed, where it stands, and the call answers with it as it is stored afterwards, in the
shape that the options ask for. Where the options neither sort nor skip, the store is left as the
call that walks over the stored documents leaves it, with and without a document to find. -/
theorem ofFound_acts_on_found (change : Change) (hids : Document.ToldApart s.documents)
    (h : change.ofFound filter options upsert s = .ok (answer, s')) :
    (∀ shown, s.findOne filter options = .ok (some shown) →
      ∃ before d after next, s.documents = before ++ d :: after ∧
        s.findOne filter { options with projection? := none } = .ok (some d) ∧
        shown = Document.shaped options d ∧ change.apply d = .ok next ∧
        s' = { s with documents := before ++ next :: after } ∧
        answer = some (Document.shaped options next)) ∧
    (options.sort?.getD [] = [] → options.skip?.getD 0 = 0 →
      ∃ report, change.ofFirst filter upsert s = (.ok report, s')) := by
  refine ⟨fun shown hshown => ?_, ofFirst_of_ofFound hids h⟩
  rw [Store.findOne_eq] at hshown
  obtain ⟨found, hfind, hhead⟩ := map_eq_ok.mp hshown
  obtain ⟨d, hd, hshown⟩ := Option.map_eq_some_iff.mp hhead
  have hfound : s.findOne filter { options with projection? := none } = .ok (some d) := by
    rw [Store.findOne_whole, hfind]
    exact congrArg Except.ok hd
  -- the document found is stored, so it splits the store where it stands
  obtain ⟨before, after, hdocs⟩ := List.append_of_mem (Store.mem_of_findOne hfound)
  rw [ofFound_eq, Store.modifyOne_of_found hids hdocs hfound] at h
  obtain ⟨-, -, h⟩ := bind_eq_ok.mp h
  obtain ⟨next, hnext, h⟩ := map_eq_ok.mp h
  cases h
  exact ⟨before, d, after, next, hdocs, hfound, hshown.symm, hnext, rfl, rfl⟩

/-- The theorem at an update that skips the first of two documents, and at a replacement that skips
none and leaves the store as a walk over the documents does. -/
theorem ofFound_acts_on_found_second :
    ∃ s : Store,
      s.documents = [[("_id", .string "a"), ("kind", .string "old")],
        [("_id", .string "b"), ("kind", .string "new")],
        [("_id", .string "c"), ("kind", .string "new")]] ∧
      (∃ before after s', s.documents =
          before ++ [("_id", .string "c"), ("kind", .string "new")] :: after ∧
        ofFound [("kind", .string "new")] { skip? := some 1 } false s
            (.update [("$set", .document [("kind", .string "seen")])]) =
          .ok (some [("_id", .string "c"), ("kind", .string "seen")], s') ∧
        s'.documents = before ++ [("_id", .string "c"), ("kind", .string "seen")] :: after) ∧
      ∃ report s', ofFound [("kind", .string "new")] {} false s
            (.replacement [("kind", .string "seen")]) =
          .ok (some [("_id", .string "b"), ("kind", .string "seen")], s') ∧
        ofFirst [("kind", .string "new")] false (.replacement [("kind", .string "seen")]) s =
          (.ok report, s') := by
  let s : Store :=
    { documents := [[("_id", .string "a"), ("kind", .string "old")],
        [("_id", .string "b"), ("kind", .string "new")],
        [("_id", .string "c"), ("kind", .string "new")]]
      ids := ⟨fun _ => ⟨0⟩, 0⟩ }
  have hids : Document.ToldApart s.documents := by
    constructor
    · intro d hd
      simp only [s, List.mem_cons, List.not_mem_nil, or_false] at hd
      obtain rfl | rfl | rfl := hd
      · exact ⟨_, rfl, rfl⟩
      · exact ⟨_, rfl, rfl⟩
      · exact ⟨_, rfl, rfl⟩
    · change List.Pairwise _ [some (Value.string "a"), some (.string "b"), some (.string "c")]
      have hab : (Value.string "a").equals (.string "b") = false := rfl
      have hac : (Value.string "a").equals (.string "c") = false := rfl
      have hbc : (Value.string "b").equals (.string "c") = false := rfl
      simp [hab, hac, hbc]
  obtain ⟨s', h⟩ : ∃ s', ofFound [("kind", .string "new")] { skip? := some 1 } false s
      (.update [("$set", .document [("kind", .string "seen")])]) =
      .ok (some [("_id", .string "c"), ("kind", .string "seen")], s') := ⟨_, rfl⟩
  obtain ⟨t', ht⟩ : ∃ s', ofFound [("kind", .string "new")] {} false s
      (.replacement [("kind", .string "seen")]) =
      .ok (some [("_id", .string "b"), ("kind", .string "seen")], s') := ⟨_, rfl⟩
  obtain ⟨before, d, after, next, hdocs, hfound, -, hnext, hleft, -⟩ :=
    (ofFound_acts_on_found _ hids h).1 _ rfl
  obtain ⟨report, hfirst⟩ := (ofFound_acts_on_found _ hids ht).2 rfl rfl
  cases hfound
  cases hnext
  exact ⟨s, rfl, ⟨before, after, s', hdocs, h, hleft ▸ rfl⟩, report, t', ht, hfirst⟩

end Change

end DocMapper
