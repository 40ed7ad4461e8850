import Mathlib.Algebra.Group.Int.Defs
import Mathlib.Algebra.Group.Nat.Defs
import DocMapper.Proofs.ConformingStore
import DocMapper.Proofs.Joins
import DocMapper.Proofs.Targets

namespace DocMapper

/-! # Pages of joins

A find sorts the selected documents, skips some and takes a number of the rest. A join does the same
with its rows, by stages of its pipeline. Both sort alike, because a join keeps the fields that it
sorts by, or puts a document in place of a document, and documents have no order among each other.
They page alike as long as the stages can say what the options ask for: the number of rows to skip
is a signed one in the pipeline, and a limit below zero, of which a find takes the magnitude, has no
stage at all.
-/

/-- The ranges of the numbers that options can hold. -/
structure ReadOptions.InRange (options : ReadOptions) : Prop where
  skip : ∀ n, options.skip? = some n → n < 2 ^ 64
  limit : ∀ n, options.limit? = some n → -2 ^ 63 ≤ n ∧ n < 2 ^ 63

/-! ## Sorting -/

namespace Document

variable {sort a a' b b' : Document} {options : ReadOptions} {docs : List Document}

/-- Documents whose values at the paths of a sort have the same order are sorted in the same way. -/
theorem sortOrder_congr (h : ∀ path ∈ keys sort,
      Value.order (getPath? a' path) (getPath? b' path) =
        Value.order (getPath? a path) (getPath? b path)) :
    sortOrder sort a' b' = sortOrder sort a b := by
  induction sort with
  | nil => rfl
  | cons entry rest ih =>
    obtain ⟨path, direction⟩ := entry
    rw [keys_cons] at h
    rw [sortOrder, sortOrder, h path List.mem_cons_self,
      ih fun p hp => h p (List.mem_cons_of_mem _ hp)]

/-- Changing documents after a sort is sorting the changed ones, if the values that are sorted by
keep their order. -/
theorem sortBy_map {f : Document → Document}
    (h : ∀ a ∈ docs, ∀ b ∈ docs, ∀ path ∈ keys sort,
      Value.order (getPath? (f a) path) (getPath? (f b) path) =
        Value.order (getPath? a path) (getPath? b path)) :
    sortBy sort (docs.map f) = (sortBy sort docs).map f := by
  refine (List.map_mergeSort fun a ha b hb => ?_).symm
  rw [sortOrder_congr (h a ha b hb)]

end Document

/-! ## Paging -/

namespace Join

variable {collection : String → List Document} {options : ReadOptions} {rows : List Document}

/-- The part of the rows that a join asks for. A limit that is not positive is none. -/
def part (options : ReadOptions) (rows : List Document) : List Document :=
  let rest := rows.drop (options.skip?.getD 0)
  match options.limit? with
  | none => rest
  | some n => if 0 < n then rest.take n.toNat else rest

theorem part_map (f : Document → Document) (options : ReadOptions) (rows : List Document) :
    part options (rows.map f) = (part options rows).map f := by
  rw [part, part]
  split
  · rw [List.map_drop]
  · split
    · rw [List.map_take, List.map_drop]
    · rw [List.map_drop]

/-- A join pages as a find does, unless the limit is below zero and there are more rows. -/
theorem part_eq_page (h : ∀ n, options.limit? = some n → n < 0 →
      rows.length ≤ options.skip?.getD 0 + n.natAbs) :
    part options rows = Document.page options rows := by
  rw [part, Document.page]
  cases hlimit : options.limit? with
  | none => rfl
  | some n =>
    dsimp only
    rcases Int.lt_trichotomy n 0 with hn | rfl | hn
    · -- the join takes all rows that are left
      rw [if_neg (by omega), if_neg (by omega), List.take_of_length_le]
      rw [List.length_drop]
      have := h n hlimit hn
      omega
    · rfl
    · have hsame : n.toNat = n.natAbs := by omega
      rw [if_pos hn, if_neg (by omega), hsame]

/-- If a join takes as many rows as a find, a limit below zero leaves none out. -/
theorem limit_of_length_part
    (h : (part options rows).length = (Document.page options rows).length) :
    ∀ n, options.limit? = some n → n < 0 → rows.length ≤ options.skip?.getD 0 + n.natAbs := by
  intro n hlimit hn
  rw [part, Document.page, hlimit] at h
  dsimp only at h
  rw [if_neg (by omega), if_neg (by omega), List.length_take, List.length_drop] at h
  omega

theorem readCount_of_toInt (name : String) {i : Int64} {n : Nat} (h : i.toInt = n) :
    Stage.readCount name (.int64 i) = .ok n := by
  have hread : (Value.int64 i).toInt? = some (.ofNat n) := congrArg some h
  rw [Stage.readCount, hread]

theorem readCount_of_neg (name : String) {i : Int64} (h : i.toInt < 0) :
    Stage.readCount name (.int64 i) = .error (.driver (.stageCount name)) := by
  obtain ⟨n, hn⟩ := Int.eq_negSucc_of_lt_zero h
  have hread : (Value.int64 i).toInt? = some (.negSucc n) := congrArg some hn
  rw [Stage.readCount, hread]

/-- The stage that skips. -/
def skipping (options : ReadOptions) : List Document :=
  match options.skip? with
  | some n => [[("$skip", .int64 (Int64.ofNat n))]]
  | none => []

/-- The stage that limits. -/
def limiting (options : ReadOptions) : List Document :=
  match options.limit? with
  | some n => if 0 < n then [[("$limit", .int64 (Int64.ofInt n))]] else []
  | none => []

theorem runAll_paging_eq (collection : String → List Document) (options : ReadOptions)
    (rows : List Document) :
    Stage.runAll collection (paging options) rows =
      Stage.runAll collection (skipping options) rows >>=
        Stage.runAll collection (limiting options) :=
  List.foldlM_append

theorem runAll_singleton (stage : Document) :
    Stage.runAll collection [stage] rows = Stage.runDocument collection rows stage := by
  rw [Stage.runAll, List.foldlM_cons]
  cases Stage.runDocument collection rows stage <;> rfl

theorem runDocument_skip (v : Value) : Stage.runDocument collection rows [("$skip", v)] =
    (Stage.readCount "$skip" v).map fun n => rows.drop n := by
  change (Stage.readCount "$skip" v).map Stage.skip >>= Stage.run collection rows = _
  cases Stage.readCount "$skip" v <;> rfl

theorem runDocument_limit (v : Value) : Stage.runDocument collection rows [("$limit", v)] =
    (Stage.readCount "$limit" v).map fun n => rows.take n := by
  change (Stage.readCount "$limit" v).map Stage.limit >>= Stage.run collection rows = _
  cases Stage.readCount "$limit" v <;> rfl

/-- A number that a stage can hold is skipped. -/
theorem runAll_skipping (h : ∀ n, options.skip? = some n → n < 2 ^ 63) :
    Stage.runAll collection (skipping options) rows =
      .ok (rows.drop (options.skip?.getD 0)) := by
  rw [skipping]
  cases hskip : options.skip? with
  | none => rfl
  | some n =>
    dsimp only
    rw [runAll_singleton, runDocument_skip,
      readCount_of_toInt "$skip" (Int64.toInt_ofNat_of_lt (h n hskip))]
    rfl

/-- A positive limit is taken, and no other is. -/
theorem runAll_limiting (h : ∀ n, options.limit? = some n → n < 2 ^ 63) :
    Stage.runAll collection (limiting options) rows = .ok (match options.limit? with
      | none => rows
      | some n => if 0 < n then rows.take n.toNat else rows) := by
  rw [limiting]
  cases hlimit : options.limit? with
  | none => rfl
  | some n =>
    dsimp only
    by_cases hn : 0 < n
    · have htoInt : (Int64.ofInt n).toInt = n.toNat := by
        rw [Int64.toInt_ofInt_of_le (by omega) (h n hlimit)]
        omega
      rw [if_pos hn, if_pos hn, runAll_singleton, runDocument_limit,
        readCount_of_toInt "$limit" htoInt]
      rfl
    · rw [if_neg hn, if_neg hn]
      rfl

/-- The stages of a join take the part of the rows that the options ask for, if the number of rows
to skip is one that a stage can hold. -/
theorem runAll_paging (hrange : options.InRange)
    (hskip : ∀ n, options.skip? = some n → n < 2 ^ 63) :
    Stage.runAll collection (paging options) rows = .ok (part options rows) := by
  rw [runAll_paging_eq, runAll_skipping hskip, ok_bind,
    runAll_limiting fun n hn => (hrange.limit n hn).2]
  rfl

/-- A number that is too large for the stage is read as a negative one, and that is an error. -/
theorem runAll_paging_of_large {n : Nat} (hrange : options.InRange) (hskip : options.skip? = some n)
    (hlarge : 2 ^ 63 ≤ n) :
    Stage.runAll collection (paging options) rows = .error (.driver (.stageCount "$skip")) := by
  have hbelow := hrange.skip n hskip
  have hneg : (Int64.ofNat n).toInt < 0 := by
    have hsize : (Int64.size : Int) = 2 ^ 64 := rfl
    rw [Int64.toInt_ofNat', Int.bmod_def, hsize]
    split <;> omega
  rw [runAll_paging_eq, skipping, hskip]
  dsimp only
  rw [runAll_singleton, runDocument_skip, readCount_of_neg "$skip" hneg]
  rfl

end Join

namespace Model

variable {m related : Model} {j : Join} {collection : String → List Document}
  {foreign : List Document} {kwargs filter d : Document} {options : ReadOptions} {s : Store}
  {selected : List Document} {shown : JoinedRow}

/-! ## Finding -/

/-- Without a projection, finding sorts the selected documents, pages them and reads them as
instances. -/
theorem find_paged (hprojection : options.projection? = none)
    (hfilter : m.filter kwargs = .ok filter)
    (hselect : Document.select filter s.documents = .ok selected) :
    m.find kwargs options s = ((Document.page options
      (Document.sortBy (options.sort?.getD ReadOptions.idSort) selected)).mapM m.decode, s) := by
  have hshaped : ∀ docs : List Document, docs.map (Document.shaped options.ordered) = docs := by
    intro docs
    refine (List.map_congr_left fun d _ => ?_).trans (List.map_id docs)
    simp only [Document.shaped, ReadOptions.ordered, hprojection, id]
  have hfind : s.find filter options.ordered = .ok (Document.page options
      (Document.sortBy (options.sort?.getD ReadOptions.idSort) selected)) := by
    rw [Store.find, Document.find_eq, hselect]
    exact congrArg Except.ok (hshaped _)
  rw [find, Action.check_bind_apply hfilter, Model.all, Action.read_bind_apply hfind]
  rfl

/-- A find that succeeds changes nothing and answers the page of the selected documents in their
order, each of which is an instance. -/
theorem find_eq_ok (hprojection : options.projection? = none) {found : List Document} {s' : Store}
    (h : m.find kwargs options s = (.ok found, s')) :
    s' = s ∧ ∃ filter selected, m.filter kwargs = .ok filter ∧
      Document.select filter s.documents = .ok selected ∧
      found = Document.page options
        (Document.sortBy (options.sort?.getD ReadOptions.idSort) selected) ∧
      ∀ d ∈ found, m.decode d = .ok d := by
  obtain ⟨filter, t, hcheck, hall⟩ := Action.bind_apply_eq_ok.mp h
  obtain ⟨hfilter, rfl⟩ := Action.check_apply_eq_ok.mp hcheck
  obtain ⟨docs, t, hread, -⟩ := Action.bind_apply_eq_ok.mp hall
  obtain ⟨whole, hwhole, -⟩ := bind_eq_ok.mp (Prod.mk.inj hread).1
  rw [Document.find_eq] at hwhole
  obtain ⟨selected, hselect, -⟩ := map_eq_ok.mp hwhole
  rw [find_paged hprojection hfilter hselect, Prod.mk.injEq] at h
  obtain ⟨rfl, hdecodes⟩ := decodes_eq_ok.mp h.1
  exact ⟨h.2.symm, filter, selected, hfilter, hselect, rfl, hdecodes⟩

/-! ## The rows of a join -/

/-- The row that a join makes of a document, before it is read. -/
def rowOf (m related : Model) (j : Join) (foreign : List Document) (d : Document) : Document :=
  m.joinedForm related j ((j.attach related.schema.name foreign d).toOption.getD d)

/-- What the row of a document needs to be read with the document's identifier. Without a dot in the
output, the documents that belong to it are read as instances. An output inside of the identifier
changes it, unless these documents stand there already. -/
structure RowIdentifies (m related : Model) (j : Join) (foreign : List Document)
    (d : Document) : Prop where
  instances : '.' ∉ (j.output related.schema.name).toList →
    ∀ e ∈ foreign.filter (j.relates d), related.decode e = .ok e
  id : (Path.ofString (j.output related.schema.name)).head = Document.idKey →
    Document.getPath? d (j.output related.schema.name) =
      some (.array ((foreign.filter (j.relates d)).map .document))

/-- Options sort by known fields, also where they leave the order to the identifiers. -/
theorem isSome_field?_of_sort (hsort : ∀ sort, options.sort? = some sort →
      ∀ name ∈ Document.keys sort, (m.schema.field? name).isSome = true) :
    ∀ name ∈ Document.keys (options.sort?.getD ReadOptions.idSort),
      (m.schema.field? name).isSome = true := by
  cases hcase : options.sort? with
  | none =>
    intro name hname
    cases List.mem_singleton.mp hname
    rfl
  | some sort => exact hsort sort hcase

/-- A row that was read has the identifier of the row. -/
theorem id?_of_readRow (haccepts : m.Accepts related j) {row : Document}
    (h : m.readRow related (j.output related.schema.name) row = .ok shown) :
    Document.id? shown.inst = Document.id? row := by
  obtain ⟨hinst, -⟩ := decode_eq_ok.mp (readRow_eq_ok.mp h).2
  rw [hinst, Document.id?, Document.get?_erase_of_ne (haccepts.output_ne (Or.inl rfl))]
  rfl

section Plain

variable (houtput : m.schema.field? (Path.ofString (j.output related.schema.name)).head = none)

include houtput

/-- An output outside of the declared fields has room in every stored document. -/
theorem hasRoom_of_conforms (hd : m.schema.Conforms d) :
    d.HasRoom (j.output related.schema.name) := by
  refine Document.hasRoom_of_head fun v hv => ?_
  have hkey := Document.mem_keys_of_mem (Document.mem_of_get?_eq_some hv)
  rw [hd.keys, List.mem_cons] at hkey
  have hsome := Schema.isSome_field?.mpr hkey
  rw [houtput] at hsome
  cases hsome

/-- An output outside of the declared fields leaves the identifier alone, so the row of a document
identifies it when the related documents are instances. -/
theorem rowIdentifies_of_instances (hforeign : ∀ e ∈ foreign, related.decode e = .ok e)
    (d : Document) : m.RowIdentifies related j foreign d where
  instances _ e he := hforeign e (List.mem_of_mem_filter he)
  id hhead := by
    rw [hhead] at houtput
    cases houtput

end Plain

section Rows

variable (hs : m.schema.WellFormed)

include hs

/-- A join keeps the values of known fields as they are when the related documents are attached. -/
theorem get?_joinedForm_of_known {name : String} (hname : (m.schema.field? name).isSome = true)
    (attached : Document) :
    Document.get? (m.joinedForm related j attached) name = Document.get? attached name := by
  obtain ⟨f, hf⟩ := Option.isSome_iff_exists.mp hname
  have hlegal : LegalName name := (Schema.field?_eq_some hf).1 ▸ hs.legal_of_field? hf
  refine Document.get?_project_including ((Schema.isSome_field?.mp hname).imp_right fun hmem => ?_)
  exact ⟨List.mem_append_left _ hmem, hlegal.dotless⟩

/-- A row has the values of its document in all known fields that the output does not lie in. -/
theorem get?_rowOf {name : String} (hname : (m.schema.field? name).isSome = true)
    (hhead : (Path.ofString (j.output related.schema.name)).head ≠ name) :
    Document.get? (m.rowOf related j foreign d) name = Document.get? d name := by
  rw [rowOf, get?_joinedForm_of_known hs hname]
  cases hattach : j.attach related.schema.name foreign d with
  | error e => rfl
  | ok attached =>
    obtain ⟨w, rfl, -⟩ := Document.write_eq_ok hattach
    exact Document.get?_insert_of_ne hhead d w

/-- In the field that an accepted output lies in, a stored document with room has a document, and so
has its row. -/
theorem exists_documents_at_head (haccepts : m.Accepts related j) (hd : m.schema.Conforms d)
    (hroom : d.HasRoom (j.output related.schema.name)) {name : String}
    (hname : (m.schema.field? name).isSome = true)
    (hhead : (Path.ofString (j.output related.schema.name)).head = name) (foreign : List Document) :
    ∃ before after, Document.get? d name = some (.document before) ∧
      Document.get? (m.rowOf related j foreign d) name = some (.document after) := by
  -- an output that is a whole field is not accepted
  have hrest : (Path.ofString (j.output related.schema.name)).rest ≠ [] := fun hrest =>
    haccepts.output_ne (Schema.isSome_field?.mp hname)
      (hhead.symm.trans (Path.head_of_rest_eq_nil hrest))
  obtain ⟨v, hv⟩ := Document.exists_get?_of_mem_keys
    (hd.keys ▸ List.mem_cons.mpr (Schema.isSome_field?.mp hname) : name ∈ Document.keys d)
  obtain ⟨before, rfl⟩ := hroom [] _ v rfl hrest (by rw [Document.at?_key, hhead, hv])
  obtain ⟨attached, hattach⟩ : ∃ attached, j.attach related.schema.name foreign d = .ok attached :=
    Join.exists_attach_iff.mpr hroom
  obtain ⟨w, hw, hwritten⟩ := Document.write_eq_ok hattach
  obtain ⟨after, rfl⟩ : ∃ after, w = .document after := by
    generalize (Path.ofString (j.output related.schema.name)).rest = rest at hrest hwritten
    cases hwritten with
    | whole => exact absurd rfl hrest
    | @inside _ inner => exact ⟨inner, rfl⟩
  refine ⟨before, after, hv, ?_⟩
  rw [rowOf, hattach, get?_joinedForm_of_known hs hname]
  rw [Except.toOption, Option.getD_some, hw, hhead, Document.get?_insert_self]

/-- The rows of stored documents have the order of the documents in every known field: where the
values change, they are documents, which have no order among each other. -/
theorem order_rowOf (haccepts : m.Accepts related j) {e : Document} (hd : m.schema.Conforms d)
    (he : m.schema.Conforms e) (hroom : d.HasRoom (j.output related.schema.name))
    (hroom' : e.HasRoom (j.output related.schema.name)) {name : String}
    (hname : (m.schema.field? name).isSome = true) :
    Value.order (Document.get? (m.rowOf related j foreign d) name)
        (Document.get? (m.rowOf related j foreign e) name) =
      Value.order (Document.get? d name) (Document.get? e name) := by
  by_cases hhead : (Path.ofString (j.output related.schema.name)).head = name
  · obtain ⟨before, after, hbefore, hafter⟩ :=
      exists_documents_at_head hs haccepts hd hroom hname hhead foreign
    obtain ⟨before', after', hbefore', hafter'⟩ :=
      exists_documents_at_head hs haccepts he hroom' hname hhead foreign
    rw [hbefore, hafter, hbefore', hafter']
    rfl
  · rw [get?_rowOf hs hname hhead, get?_rowOf hs hname hhead]

/-- The row of a document with room has the document's identifier exactly when the output does not
lie inside of it, or the related documents stand there already. -/
theorem id?_rowOf_iff (hrelated : related.schema.WellFormed) (haccepts : m.Accepts related j)
    (hroom : d.HasRoom (j.output related.schema.name)) (foreign : List Document) :
    Document.id? (m.rowOf related j foreign d) = Document.id? d ↔
      ((Path.ofString (j.output related.schema.name)).head = Document.idKey →
        Document.getPath? d (j.output related.schema.name) =
          some (.array ((foreign.filter (j.relates d)).map .document))) := by
  by_cases hhead : (Path.ofString (j.output related.schema.name)).head = Document.idKey
  · obtain ⟨attached, hattach⟩ : ∃ attached, j.attach related.schema.name foreign d =
        .ok attached := Join.exists_attach_iff.mpr hroom
    rw [rowOf, hattach, Document.id?, get?_joinedForm_of_known hs rfl]
    rw [Join.attach, Join.joined_eq_filter (haccepts.dotless_localField hs)
      (haccepts.dotless_foreignField hrelated)] at hattach
    constructor
    · -- what stands in the identifier of the row was there before
      intro hsame _
      rw [← Document.getPath?_write hattach, Document.getPath?, Document.getPath?, Document.at?,
        Document.at?, hhead]
      exact congrArg (Option.bind · _) hsame.symm
    · intro hthere
      rw [Document.write_of_getPath? (hthere hhead), Except.ok.injEq] at hattach
      rw [← hattach]
      rfl
  · exact iff_of_true (get?_rowOf hs rfl hhead) fun h => absurd h hhead

/-- A row can be read with the identifier of its document, a stored instance with room, exactly when
it identifies it. -/
theorem exists_readRow_rowOf_iff (hrelated : related.schema.WellFormed)
    (haccepts : m.Accepts related j) (hd : m.schema.Conforms d) (hdecode : m.decode d = .ok d)
    (hroom : d.HasRoom (j.output related.schema.name)) (foreign : List Document) :
    (∃ shown, m.readRow related (j.output related.schema.name) (m.rowOf related j foreign d) =
        .ok shown ∧ Document.id? shown.inst = Document.id? d) ↔
      m.RowIdentifies related j foreign d := by
  have hid := id?_rowOf_iff hs hrelated haccepts hroom foreign
  constructor
  · rintro ⟨shown, hshown, hsame⟩
    refine ⟨fun hdotless => ?_, hid.mp ((id?_of_readRow haccepts hshown).symm.trans hsame)⟩
    have hattach := attach_of_dotless hs hrelated haccepts hdotless foreign d
    obtain ⟨hjoined, -⟩ := readRow_eq_ok.mp hshown
    rw [rowOf, hattach] at hjoined
    rw [Except.toOption, Option.getD_some, get?_joinedForm hs hdotless (Or.inr rfl),
      Document.get?_insert_self, readJoined_documents] at hjoined
    exact (decodes_eq_ok.mp hjoined).2
  · intro hrow
    -- a document that is read has all required fields, and a stored one has no other fields
    have hrequired : ∀ name ∈ m.required, (m.schema.field? name).isSome = true := by
      intro name hname
      have hkey := (decode_eq_ok.mp hdecode).2 name hname
      rw [hd.keys, List.mem_cons] at hkey
      exact Schema.isSome_field?.mpr hkey
    obtain ⟨shown, attached, hattach, hshown⟩ : ∃ shown, Makes m related j foreign d shown := by
      by_cases hdot : '.' ∈ (j.output related.schema.name).toList
      · exact exists_makes_of_dot hs haccepts hrequired hdot hdecode hroom
      · exact exists_makes_of_dotless hs hrelated haccepts hrequired hdot hdecode
          (hrow.instances hdot)
    have hmade : m.readRow related (j.output related.schema.name) (m.rowOf related j foreign d) =
        .ok shown := by
      rw [rowOf, hattach]
      exact hshown
    exact ⟨shown, hmade, (id?_of_readRow haccepts hmade).trans (hid.mpr hrow.id)⟩

section Paged

variable (haccepts : m.Accepts related j) (hunwind : j.unwind = false)
  (hfilter : m.filter kwargs = .ok filter)
  (hselect : Document.select filter s.documents = .ok selected)

omit hs in
include haccepts hunwind hfilter hselect in
/-- A join fails when a selected document has no room for what belongs to it. -/
theorem join_of_no_room (hd : d ∈ selected)
    (hroom : ¬ d.HasRoom (j.output related.schema.name)) :
    ∃ b, m.join collection related j kwargs options s = (.error (.driver (.pathBlocked b)), s) := by
  rw [join_apply_paged haccepts hunwind, hfilter, ok_bind, hselect, ok_bind]
  cases hattached : selected.mapM
      (j.attach related.schema.name (collection related.schema.name)) with
  | ok attached =>
    -- attaching succeeds only where there is room, also for this document
    obtain ⟨a, ha⟩ := exists_mapM_eq_ok_iff.mp ⟨attached, hattached⟩ d hd
    exact absurd (Join.exists_attach_iff.mp ⟨a, ha⟩) hroom
  | error e =>
    obtain ⟨d', -, hfails⟩ := exists_of_mapM_eq_error hattached
    have hblocked : ¬ d'.HasRoom (j.output related.schema.name) := by
      intro hroom'
      obtain ⟨a, ha⟩ := Join.exists_attach_iff.mpr hroom'
      rw [hfails] at ha
      cases ha
    obtain ⟨b, hb⟩ := Document.write_of_not_hasRoom hblocked (.array
      ((Stage.joined (Stage.localValues d' j.localField) j.foreignField
        (collection related.schema.name)).map .document))
    cases hfails.symm.trans hb
    exact ⟨b, rfl⟩

include haccepts hunwind hfilter hselect

variable (hstored : s.Conforms m.schema)
  (hsort : ∀ name ∈ Document.keys (options.sort?.getD ReadOptions.idSort),
    (m.schema.field? name).isSome = true)
  (hroom : ∀ d ∈ selected, d.HasRoom (j.output related.schema.name))

include hstored hsort hroom

/-- A join of stored instances sorts them, makes rows of them and pages the rows, if they have room
for what belongs to them. -/
theorem join_eq_rows :
    m.join collection related j kwargs options s = (do
      let paged ← Stage.runAll collection (Join.paging options)
        ((Document.sortBy (options.sort?.getD ReadOptions.idSort) selected).map
          (m.rowOf related j (collection related.schema.name)))
      paged.mapM (m.readRow related (j.output related.schema.name)), s) := by
  have hattached : selected.mapM
      (j.attach related.schema.name (collection related.schema.name)) =
      .ok (selected.map fun d =>
        (j.attach related.schema.name (collection related.schema.name) d).toOption.getD d) := by
    refine mapM_eq_ok_of_forall₂ ?_
    rw [List.forall₂_map_right_iff]
    refine List.forall₂_same.mpr fun d hd => ?_
    obtain ⟨attached, hattach⟩ := Join.exists_attach_iff.mpr (hroom d hd)
    rw [hattach]
    rfl
  have hconforms : ∀ d ∈ selected, m.schema.Conforms d := fun d hd =>
    hstored d ((Document.mem_select hselect).mp hd).1
  -- the rows are made before they are sorted, but they sort as their documents do
  have hsorted : Document.sortBy (options.sort?.getD ReadOptions.idSort)
      (selected.map (m.rowOf related j (collection related.schema.name))) =
      (Document.sortBy (options.sort?.getD ReadOptions.idSort) selected).map
        (m.rowOf related j (collection related.schema.name)) := by
    refine Document.sortBy_map fun a ha b hb name hname => ?_
    obtain ⟨f, hf⟩ := Option.isSome_iff_exists.mp (hsort name hname)
    have hlegal : LegalName name := (Schema.field?_eq_some hf).1 ▸ hs.legal_of_field? hf
    simp only [Document.getPath?_of_legalName hlegal]
    exact order_rowOf hs haccepts (hconforms a ha) (hconforms b hb) (hroom a ha) (hroom b hb)
      (hsort name hname)
  rw [join_apply_paged haccepts hunwind, hfilter, ok_bind, hselect, ok_bind, hattached, ok_bind,
    List.map_map, ← hsorted]
  rfl

/-- In the range of the stages, the rows are made of the part of the documents that a join takes. -/
theorem join_eq_part (hrange : options.InRange)
    (hskip : ∀ n, options.skip? = some n → n < 2 ^ 63) :
    m.join collection related j kwargs options s =
      ((Join.part options
          (Document.sortBy (options.sort?.getD ReadOptions.idSort) selected)).mapM fun d =>
        m.readRow related (j.output related.schema.name)
          (m.rowOf related j (collection related.schema.name) d), s) := by
  rw [join_eq_rows hs haccepts hunwind hfilter hselect hstored hsort hroom,
    Join.runAll_paging hrange hskip, ok_bind, Join.part_map, List.mapM_map]
  rfl

/-- A number to skip that is too large for the stage fails the join. -/
theorem join_of_large_skip (hrange : options.InRange) {n : Nat} (hskip : options.skip? = some n)
    (hlarge : 2 ^ 63 ≤ n) :
    m.join collection related j kwargs options s =
      (.error (.driver (.stageCount "$skip")), s) := by
  rw [join_eq_rows hs haccepts hunwind hfilter hselect hstored hsort hroom,
    Join.runAll_paging_of_large hrange hskip hlarge]
  rfl

end Paged

end Rows

/-! ## Joins and finds -/

/-- When a join pages like a find. Let both models have schemas that were built, let the stored
documents conform to the schema, and let the options sort by known fields and project nothing. Where
the find succeeds, the join succeeds with rows that have the identifiers of the documents found, in
their order, exactly when each of these holds: all matching documents have room for what belongs to
them, the rows of the documents found identify these, the number of documents to skip fits into a
signed number, and the magnitude of a limit below zero reaches over all matching documents that are
left. A matching document without room fails the join, and a larger number to skip does too. -/
theorem join_pages_like_find_iff {draft draft' : SchemaDraft}
    (hbuild : draft.build = .ok m.schema) (hbuild' : draft'.build = .ok related.schema)
    (haccepts : m.Accepts related j) (hunwind : j.unwind = false)
    (hstored : s.Conforms m.schema)
    (hsort : ∀ sort, options.sort? = some sort → ∀ name ∈ Document.keys sort,
      (m.schema.field? name).isSome = true)
    (hprojection : options.projection? = none) (hrange : options.InRange)
    {found : List Document} (hfind : m.find kwargs options s = (.ok found, s)) :
    ∃ filter matching, m.filter kwargs = .ok filter ∧
      Document.select filter s.documents = .ok matching ∧
      m.count kwargs s = (.ok matching.length, s) ∧
      ((∃ rows, m.join collection related j kwargs options s = (.ok rows, s) ∧
          rows.map (fun row => Document.id? row.inst) = found.map Document.id?) ↔
        (∀ d ∈ matching, d.HasRoom (j.output related.schema.name)) ∧
        (∀ d ∈ found, m.RowIdentifies related j (collection related.schema.name) d) ∧
        (∀ n, options.skip? = some n → n < 2 ^ 63) ∧
        ∀ n, options.limit? = some n → n < 0 →
          matching.length ≤ options.skip?.getD 0 + n.natAbs) ∧
      (∀ d ∈ matching, ¬ d.HasRoom (j.output related.schema.name) → ∃ b,
        m.join collection related j kwargs options s =
          (.error (.driver (.pathBlocked b)), s)) ∧
      ((∀ d ∈ matching, d.HasRoom (j.output related.schema.name)) →
        ∀ n, options.skip? = some n → 2 ^ 63 ≤ n →
          m.join collection related j kwargs options s =
            (.error (.driver (.stageCount "$skip")), s)) := by
  have hs := SchemaDraft.build_wellFormed hbuild
  have hrelated := SchemaDraft.build_wellFormed hbuild'
  obtain ⟨-, filter, selected, hfilter, hselect, hfound, hdecodes⟩ := find_eq_ok hprojection hfind
  have hkeys := isSome_field?_of_sort hsort
  -- What fails the join: a document without room, or a number to skip that no stage can hold.
  have hblocked : ∀ d ∈ selected, ¬ d.HasRoom (j.output related.schema.name) → ∃ b,
      m.join collection related j kwargs options s = (.error (.driver (.pathBlocked b)), s) :=
    fun _ => join_of_no_room haccepts hunwind hfilter hselect
  have hlarge : (∀ d ∈ selected, d.HasRoom (j.output related.schema.name)) →
      ∀ n, options.skip? = some n → 2 ^ 63 ≤ n →
        m.join collection related j kwargs options s =
          (.error (.driver (.stageCount "$skip")), s) := fun hroom _ =>
    join_of_large_skip hs haccepts hunwind hfilter hselect hstored hkeys hroom hrange
  -- Else both page the sorted documents, and differ only in how many they take.
  let sorted := Document.sortBy (options.sort?.getD ReadOptions.idSort) selected
  have hlength : sorted.length = selected.length := List.length_mergeSort _
  have hpaged : (∀ d ∈ selected, d.HasRoom (j.output related.schema.name)) →
      (∀ n, options.skip? = some n → n < 2 ^ 63) →
      m.join collection related j kwargs options s = ((Join.part options sorted).mapM fun d =>
        m.readRow related (j.output related.schema.name)
          (m.rowOf related j (collection related.schema.name) d), s) := fun hroom =>
    join_eq_part hs haccepts hunwind hfilter hselect hstored hkeys hroom hrange
  -- On the documents found, rows with their identifiers are made of each of them.
  have hrows : (∀ d ∈ selected, d.HasRoom (j.output related.schema.name)) →
      ((∃ rows, (found.mapM fun d => m.readRow related (j.output related.schema.name)
            (m.rowOf related j (collection related.schema.name) d)) = .ok rows ∧
          rows.map (fun row => Document.id? row.inst) = found.map Document.id?) ↔
        ∀ d ∈ found, m.RowIdentifies related j (collection related.schema.name) d) := by
    intro hroom
    rw [exists_mapM_map_eq_iff]
    refine forall₂_congr fun d hd => ?_
    have hmem : d ∈ selected := Document.mem_sortBy.mp (Document.mem_of_mem_page (hfound ▸ hd))
    exact exists_readRow_rowOf_iff hs hrelated haccepts
      (hstored d ((Document.mem_select hselect).mp hmem).1) (hdecodes d hd) (hroom d hmem)
      (collection related.schema.name)
  refine ⟨filter, selected, hfilter, hselect, count_apply hfilter hselect, ⟨?_, ?_⟩, hblocked,
    hlarge⟩
  · rintro ⟨rows, hjoin, hids⟩
    have hroom : ∀ d ∈ selected, d.HasRoom (j.output related.schema.name) := by
      intro d hd
      by_contra hno
      obtain ⟨b, hb⟩ := hblocked d hd hno
      rw [hb] at hjoin
      cases hjoin
    have hskip : ∀ n, options.skip? = some n → n < 2 ^ 63 := by
      intro n hn
      by_contra hge
      rw [hlarge hroom n hn (by omega)] at hjoin
      cases hjoin
    rw [hpaged hroom hskip, Prod.mk.injEq] at hjoin
    -- as many rows as documents found means that the limit left none out
    have hlimit : ∀ n, options.limit? = some n → n < 0 →
        selected.length ≤ options.skip?.getD 0 + n.natAbs := by
      rw [← hlength]
      refine Join.limit_of_length_part ?_
      have hcount := congrArg List.length hids
      rw [List.length_map, List.length_map] at hcount
      rw [(forall₂_of_mapM_eq_ok hjoin.1).length_eq, hcount, hfound]
    have hpart : Join.part options sorted = found :=
      hfound ▸ Join.part_eq_page (hlength ▸ hlimit)
    rw [hpart] at hjoin
    exact ⟨hroom, (hrows hroom).mp ⟨rows, hjoin.1, hids⟩, hskip, hlimit⟩
  · rintro ⟨hroom, hidentify, hskip, hlimit⟩
    obtain ⟨rows, hread, hids⟩ := (hrows hroom).mpr hidentify
    have hpart : Join.part options sorted = found :=
      hfound ▸ Join.part_eq_page (hlength ▸ hlimit)
    refine ⟨rows, ?_, hids⟩
    rw [hpaged hroom hskip, hpart, hread]

/-- Two stored instances with owners, in the order of their identifiers. -/
def ownedStore : Store where
  documents := [[("_id", .int32 1), ("owner", .string "u")],
    [("_id", .int32 2), ("owner", .string "v")]]
  ids := ⟨fun _ => ⟨0⟩, 0⟩

theorem conforms_ownedStore : ownedStore.Conforms ownedModel.schema := by
  intro d hd
  have howner : ∀ id text, ownedModel.schema.Conforms
      [("_id", .int32 id), ("owner", .string text)] := by
    refine fun id text => ⟨rfl, fun f hf v hv => ?_⟩
    cases List.mem_singleton.mp hf
    cases hv
    exact fun path => rfl
  rcases List.mem_pair.mp hd with rfl | rfl
  · exact howner 1 "u"
  · exact howner 2 "v"

theorem sortBy_ownedStore :
    Document.sortBy ReadOptions.idSort ownedStore.documents = ownedStore.documents :=
  List.mergeSort_of_pairwise (List.pairwise_pair.mpr (by decide +kernel))

/-- Finding everything in the store pages its documents. -/
theorem find_ownedStore {options : ReadOptions} (hsort : options.sort? = none)
    (hprojection : options.projection? = none) :
    ownedModel.find [] options ownedStore =
      (.ok (Document.page options ownedStore.documents), ownedStore) := by
  have hselect : Document.select [] ownedStore.documents = .ok ownedStore.documents := rfl
  have hdecodes : ∀ docs : List Document, docs.mapM ownedModel.decode = .ok docs :=
    fun docs => decodes_eq_ok.mpr ⟨rfl, fun d _ => rfl⟩
  rw [find_paged hprojection rfl hselect, hsort, Option.getD_none, sortBy_ownedStore, hdecodes]

/-- Joining everything in the store with an empty collection pages the rows of its documents. -/
theorem join_ownedStore {options : ReadOptions} (hsort : options.sort? = none) :
    ownedModel.join (fun _ => []) (namedModel "users") { localField := "owner" } [] options
        ownedStore = (do
      let paged ← Stage.runAll (fun _ => []) (Join.paging options) (ownedStore.documents.map
        (ownedModel.rowOf (namedModel "users") { localField := "owner" } []))
      paged.mapM (ownedModel.readRow (namedModel "users") "users"), ownedStore) := by
  have hs := SchemaDraft.build_wellFormed build_ownedModel
  have hkeys : ∀ name ∈ Document.keys (options.sort?.getD ReadOptions.idSort),
      (ownedModel.schema.field? name).isSome = true :=
    isSome_field?_of_sort fun sort h => by cases hsort.symm.trans h
  have hselect : Document.select [] ownedStore.documents = .ok ownedStore.documents := rfl
  rw [join_eq_rows hs (accepts_owner (by decide)) rfl rfl hselect conforms_ownedStore hkeys
    fun d hd => hasRoom_of_conforms rfl (conforms_ownedStore d hd), hsort, Option.getD_none,
    sortBy_ownedStore]
  rfl

/-- The theorem at one page of two stored instances: the join gives the row of the second, which the
find gives too. -/
theorem join_pages_like_find_second :
    ∃ (found : List Document) (rows : List JoinedRow),
      ownedModel.find [] { skip? := some 1, limit? := some 1 } ownedStore =
        (.ok found, ownedStore) ∧
      found.map Document.id? = [some (.int32 2)] ∧
      ownedModel.join (fun _ => []) (namedModel "users") { localField := "owner" } []
        { skip? := some 1, limit? := some 1 } ownedStore = (.ok rows, ownedStore) ∧
      rows.map (fun row => Document.id? row.inst) = [some (.int32 2)] := by
  have hbuild : SchemaDraft.build
      { collection := "users", fields := [{ name := "name", type := .string }] } =
      .ok (namedModel "users").schema := SchemaDraft.build_one_field rfl rfl (by decide) rfl
  have hrange : ReadOptions.InRange { skip? := some 1, limit? := some 1 } :=
    ⟨fun n hn => by cases hn; decide, fun n hn => by cases hn; decide⟩
  obtain ⟨filter, matching, -, hselect, -, hiff, -⟩ := @join_pages_like_find_iff ownedModel
    (namedModel "users") { localField := "owner" } (fun _ => []) [] _ ownedStore _ _
    build_ownedModel hbuild (accepts_owner (by decide)) rfl conforms_ownedStore
    (fun sort h => by cases h) rfl hrange _ (find_ownedStore rfl rfl)
  -- the output lies outside of the declared fields, and nothing is related to the documents
  obtain ⟨rows, hrows, hids⟩ := hiff.mpr
    ⟨fun d hd => hasRoom_of_conforms rfl
        (conforms_ownedStore d ((Document.mem_select hselect).mp hd).1),
      fun d _ => rowIdentifies_of_instances rfl (fun e he => absurd he List.not_mem_nil) d,
      fun n hn => by cases hn; decide, fun n hn hneg => by cases hn; cases hneg⟩
  exact ⟨_, rows, find_ownedStore rfl rfl, rfl, hrows, hids⟩

/-- A join takes no notice of a limit below zero, of which a find takes the magnitude, and fails
where the number of documents to skip does not fit into a signed number. -/
theorem join_pages_unlike_find :
    ownedStore.documents.map Document.id? = [some (.int32 1), some (.int32 2)] ∧
    (∃ (found : List Document) (rows : List JoinedRow),
      ownedModel.find [] { limit? := some (-1) } ownedStore = (.ok found, ownedStore) ∧
      found.map Document.id? = [some (.int32 1)] ∧
      ownedModel.join (fun _ => []) (namedModel "users") { localField := "owner" } []
        { limit? := some (-1) } ownedStore = (.ok rows, ownedStore) ∧
      rows.map (fun row => Document.id? row.inst) = [some (.int32 1), some (.int32 2)]) ∧
    ownedModel.find [] { skip? := some (2 ^ 63) } ownedStore = (.ok [], ownedStore) ∧
    ownedModel.join (fun _ => []) (namedModel "users") { localField := "owner" } []
        { skip? := some (2 ^ 63) } ownedStore =
      (.error (.driver (.stageCount "$skip")), ownedStore) := by
  have hs := SchemaDraft.build_wellFormed build_ownedModel
  have haccepts : ownedModel.Accepts (namedModel "users") { localField := "owner" } :=
    accepts_owner (by decide)
  have hbuild : SchemaDraft.build
      { collection := "users", fields := [{ name := "name", type := .string }] } =
      .ok (namedModel "users").schema := SchemaDraft.build_one_field rfl rfl (by decide) rfl
  have hlimit : ReadOptions.InRange { limit? := some (-1) } :=
    ⟨fun n hn => (by cases hn), fun n hn => by cases hn; decide⟩
  have hskip : ReadOptions.InRange { skip? := some (2 ^ 63) } :=
    ⟨fun n hn => by cases hn; decide, fun n hn => (by cases hn)⟩
  refine ⟨rfl, ?_, find_ownedStore rfl rfl, ?_⟩
  · obtain ⟨rows, hrows, hids⟩ := exists_mapM_map_eq_iff.mpr fun d hd =>
      (exists_readRow_rowOf_iff hs (SchemaDraft.build_wellFormed hbuild) haccepts
        (conforms_ownedStore d hd) rfl (hasRoom_of_conforms rfl (conforms_ownedStore d hd)) []).mpr
          (rowIdentifies_of_instances rfl (fun e he => absurd he List.not_mem_nil) d)
    refine ⟨_, rows, find_ownedStore rfl rfl, rfl, ?_, hids⟩
    -- a limit below zero leaves all rows in
    have hpart : ∀ rows : List Document, Join.part { limit? := some (-1) } rows = rows :=
      fun rows => rfl
    rw [join_ownedStore rfl, Join.runAll_paging hlimit fun n hn => (by cases hn), ok_bind, hpart,
      List.mapM_map]
    exact congrArg (·, ownedStore) hrows
  · rw [join_ownedStore rfl, Join.runAll_paging_of_large (n := 2 ^ 63) hskip rfl (by decide),
      error_bind]

end Model

end DocMapper
