import Mathlib.Data.List.Perm.Basic
import DocMapper.Database
import DocMapper.Model.Summary
import DocMapper.Proofs.Projections
import DocMapper.Proofs.Selection
import DocMapper.Proofs.Schemas

namespace DocMapper

/-! # What joins attach

A join writes the related documents of each matching document at the path of its output, and reads
them back at its key. The two are one place exactly when the output has no dot. Then every row has
the related documents, all of them, in the order of storage; otherwise the documents stay where they
were written, and no row has any.
-/

namespace Join

variable {j : Join} {d : Document}

/-- The field of the related collection. -/
def foreignField (j : Join) : String := j.foreignField?.getD Document.idKey

/-- A document of the related collection belongs to a document: its foreign field equals the local
field, or an item of it when that is a list, or null when it is missing. -/
def relates (j : Join) (d e : Document) : Bool :=
  let foreign := Document.get? e j.foreignField
  match Document.get? d j.localField with
  | some (.array items) => items.any (Value.equalsOperand foreign)
  | some value => Value.equalsOperand foreign value
  | none => Value.equalsOperand foreign .null

/-- What the lookup finds are the documents that belong to a document. -/
theorem joined_eq_filter (hlocal : '.' ∉ j.localField.toList)
    (hforeign : '.' ∉ j.foreignField.toList) (d : Document) (foreign : List Document) :
    Stage.joined (Stage.localValues d j.localField) j.foreignField foreign =
      foreign.filter (j.relates d) := by
  refine List.filter_congr fun e _ => ?_
  rw [Stage.localValues, Document.getPath?_of_dotless hlocal,
    Document.getPath?_of_dotless hforeign, relates]
  cases hvalue : Document.get? d j.localField with
  | none => exact Bool.or_false _
  | some value =>
    cases value with
    | array items => rfl
    | _ => exact Bool.or_false _

/-! ## The pipeline of a join -/

/-- Writes the related documents at the output of a document. -/
def attach (j : Join) (source : String) (foreign : List Document) (d : Document) :
    Except Error Document :=
  Document.write d (j.output source) (.array
    ((Stage.joined (Stage.localValues d j.localField) j.foreignField foreign).map .document))

/-- The related documents can be attached exactly where there is room for them. -/
theorem exists_attach_iff {source : String} {foreign : List Document} :
    (∃ attached, j.attach source foreign d = .ok attached) ↔ d.HasRoom (j.output source) :=
  Document.exists_write_iff

/-- Without unwinding, the pipeline attaches the related documents to what the filter selects,
projects and sorts the result, and pages it. -/
theorem runAll_pipeline {source : String} {fields : List String} {filter : Document}
    {options : ReadOptions} (hunwind : j.unwind = false) (collection : String → List Document)
    (docs : List Document) :
    Stage.runAll collection (j.pipeline source fields filter options) docs = (do
      let selected ← Document.select filter docs
      let attached ← selected.mapM (j.attach source (collection source))
      Stage.runAll collection (Join.paging options)
        (Document.sortBy (options.sort?.getD ReadOptions.idSort) (attached.map
          (Document.project (Document.including (fields ++ [j.output source])))))) := by
  rw [pipeline, hunwind]
  rfl

theorem paging_eq_nil {options : ReadOptions} (hskip : options.skip? = none)
    (hlimit : options.limit? = none) : Join.paging options = [] := by
  rw [paging, hskip, hlimit]
  rfl

end Join

/-- The first segment of a path has no dot. -/
theorem Path.dotless_head (path : String) : '.' ∉ (Path.ofString path).head.toList := by
  have hcut : ∀ s : List Char, '.' ∉ (Text.cut '.' s).1 := by
    intro s
    induction s with
    | nil => exact List.not_mem_nil
    | cons c rest ih =>
      rw [Text.cut]
      by_cases hc : c = '.'
      · simp [hc]
      · have hne : '.' ≠ c := fun he => hc he.symm
        simp [hc, hne, ih]
  simp [Path.ofString, hcut]

/-- The names that a schema knows are the identifier and the declared fields. -/
theorem Schema.isSome_field? {s : Schema} {name : String} :
    (s.field? name).isSome = true ↔ name = Document.idKey ∨ name ∈ s.fieldNames := by
  constructor
  · intro h
    obtain ⟨f, hf⟩ := Option.isSome_iff_exists.mp h
    obtain ⟨hname, rfl | hmem⟩ := field?_eq_some hf
    · exact Or.inl hname.symm
    · exact Or.inr (hname ▸ List.mem_map_of_mem hmem)
  · rintro (rfl | hname)
    · rfl
    · obtain ⟨f, hf, rfl⟩ := List.mem_map.mp hname
      rw [field?]
      split
      · rfl
      · rw [List.find?_isSome]
        exact ⟨f, hf, by simp⟩

namespace Model

variable {m related : Model} {j : Join} {foreign : List Document} {d row : Document}

/-- The checks of a join: its fields are declared, and its output is no field of the model. -/
structure Accepts (m related : Model) (j : Join) : Prop where
  localField : (m.schema.field? j.localField).isSome = true
  foreignField : ∀ field, j.foreignField? = some field →
    (related.schema.field? field).isSome = true
  output : m.schema.field? (j.output related.schema.name) = none

/-- A row of a join shows a document: the identifier and the declared fields of the document and
nothing else, and the documents that belong to it, in their order. -/
structure Shows (m : Model) (j : Join) (foreign : List Document) (d : Document)
    (row : JoinedRow) : Prop where
  kept : ∀ key, key = Document.idKey ∨ key ∈ m.schema.fieldNames →
    Document.get? row.inst key = Document.get? d key
  nothingElse : ∀ key ∈ Document.keys row.inst,
    key = Document.idKey ∨ key ∈ m.schema.fieldNames
  related : row.related = foreign.filter (j.relates d)

/-- What a join keeps of a document with related documents: the identifier, the declared fields and
the output. -/
def joinedForm (m related : Model) (j : Join) (attached : Document) : Document :=
  Document.project
    (Document.including (m.schema.fieldNames ++ [j.output related.schema.name])) attached

namespace Accepts

/-- The checks of an accepted join pass. -/
theorem checks (h : m.Accepts related j) :
    (∃ f, m.schema.declared j.localField = .ok f) ∧
      related.schema.checkDeclared j.foreignField?.toList = .ok () ∧
      m.checkOutput (j.output related.schema.name) = .ok () := by
  refine ⟨?_, ?_, ?_⟩
  · obtain ⟨f, hf⟩ := Option.isSome_iff_exists.mp h.localField
    exact ⟨f, Schema.declared_eq_ok.mpr hf⟩
  · refine forM_eq_ok.mpr fun name hname => ?_
    obtain ⟨f, hf⟩ := Option.isSome_iff_exists.mp
      (h.foreignField name (Option.mem_toList.mp hname))
    rw [Schema.declared_eq_ok.mpr hf]
    rfl
  · rw [checkOutput, h.output]
    rfl

theorem output_ne (h : m.Accepts related j) {name : String}
    (hname : name = Document.idKey ∨ name ∈ m.schema.fieldNames) :
    name ≠ j.output related.schema.name := by
  rintro rfl
  have hsome := Schema.isSome_field?.mpr hname
  rw [h.output] at hsome
  cases hsome

theorem dotless_localField (h : m.Accepts related j) (hs : m.schema.WellFormed) :
    '.' ∉ j.localField.toList := by
  obtain ⟨f, hf⟩ := Option.isSome_iff_exists.mp h.localField
  rw [← (Schema.field?_eq_some hf).1]
  exact (hs.legal_of_field? hf).dotless

theorem dotless_foreignField (h : m.Accepts related j) (hs : related.schema.WellFormed) :
    '.' ∉ j.foreignField.toList := by
  rw [Join.foreignField]
  cases hfield : j.foreignField? with
  | none => exact LegalName.id.dotless
  | some field =>
    obtain ⟨f, hf⟩ := Option.isSome_iff_exists.mp (h.foreignField field hfield)
    rw [Option.getD_some, ← (Schema.field?_eq_some hf).1]
    exact (hs.legal_of_field? hf).dotless

end Accepts

/-! ## One row -/

/-- Documents that were joined are read one by one. -/
theorem readJoined_documents (output : String) (docs : List Document) :
    readJoined related output (some (.array (docs.map .document))) = docs.mapM related.decode := by
  rw [readJoined]
  induction docs with
  | nil => rfl
  | cons e rest ih => rw [List.map_cons, List.mapM_cons, List.mapM_cons, ih]

theorem readRow_eq_ok {output : String} {shown : JoinedRow} :
    m.readRow related output row = .ok shown ↔
      readJoined related output (Document.get? row output) = .ok shown.related ∧
        m.decode (Document.erase row output) = .ok shown.inst := by
  rw [readRow, bind_eq_ok]
  constructor
  · rintro ⟨joined, hjoined, h⟩
    obtain ⟨inst, hinst, h⟩ := bind_eq_ok.mp h
    cases pure_eq_ok.mp h
    exact ⟨hjoined, hinst⟩
  · rintro ⟨hjoined, hinst⟩
    exact ⟨shown.related, hjoined, by rw [hinst]; rfl⟩

section Row

variable {attached : Document} {shown : JoinedRow}

/-- A join keeps no keys but the identifier, the declared fields and the first segment of its
output. -/
theorem mem_keys_joinedForm (hs : m.schema.WellFormed) {key : String}
    (h : key ∈ Document.keys (m.joinedForm related j attached)) :
    (key = Document.idKey ∨ key ∈ m.schema.fieldNames) ∨
      key = (Path.ofString (j.output related.schema.name)).head := by
  rcases Document.mem_keys_project h with hid | ⟨path, hpath, hkey⟩
  · exact Or.inl (Or.inl hid)
  rcases List.mem_append.mp (Document.mem_keys_including.mp hpath) with hfield | houtput
  · obtain ⟨f, hf, hname⟩ := List.mem_map.mp hfield
    have hdotless : '.' ∉ path.toList := hname ▸ (hs.legal f hf).dotless
    rw [Path.ofString_of_dotless hdotless] at hkey
    exact Or.inl (Or.inr (hkey ▸ hfield))
  · rw [List.mem_singleton.mp houtput] at hkey
    exact Or.inr hkey

/-- With an output without dots, attaching puts the documents that belong to a document under it. -/
theorem attach_of_dotless (hs : m.schema.WellFormed) (hrelated : related.schema.WellFormed)
    (haccepts : m.Accepts related j) (hdotless : '.' ∉ (j.output related.schema.name).toList)
    (foreign : List Document) (d : Document) :
    j.attach related.schema.name foreign d = .ok (Document.insert d (j.output related.schema.name)
      (.array ((foreign.filter (j.relates d)).map .document))) := by
  rw [Join.attach, Join.joined_eq_filter (haccepts.dotless_localField hs)
    (haccepts.dotless_foreignField hrelated), Document.write_of_dotless hdotless]

/-- With an output without dots, a join keeps the identifier, the declared fields and the output. -/
theorem get?_joinedForm (hs : m.schema.WellFormed) {key : String}
    (hdotless : '.' ∉ (j.output related.schema.name).toList)
    (hkey : (key = Document.idKey ∨ key ∈ m.schema.fieldNames) ∨
      key = j.output related.schema.name) :
    Document.get? (m.joinedForm related j attached) key = Document.get? attached key := by
  refine Document.get?_project_including ?_
  rcases hkey with (hid | hfield) | houtput
  · exact Or.inl hid
  · obtain ⟨f, hf, rfl⟩ := List.mem_map.mp hfield
    exact Or.inr ⟨List.mem_append_left _ hfield, (hs.legal f hf).dotless⟩
  · exact Or.inr ⟨List.mem_append_right _ (List.mem_singleton.mpr houtput), houtput ▸ hdotless⟩

/-- With an output without dots, a row shows the document that it was made of. -/
theorem shows_of_readRow (hs : m.schema.WellFormed) (hrelated : related.schema.WellFormed)
    (haccepts : m.Accepts related j) (hdotless : '.' ∉ (j.output related.schema.name).toList)
    (hattach : j.attach related.schema.name foreign d = .ok attached)
    (hrow : m.readRow related (j.output related.schema.name)
      (m.joinedForm related j attached) = .ok shown) :
    m.Shows j foreign d shown := by
  rw [attach_of_dotless hs hrelated haccepts hdotless, Except.ok.injEq] at hattach
  obtain ⟨hjoined, hinst⟩ := readRow_eq_ok.mp hrow
  obtain ⟨hinst, -⟩ := decode_eq_ok.mp hinst
  refine ⟨?_, ?_, ?_⟩
  · -- no declared field is called like the output, so taking it out leaves them
    intro key hkey
    have hne := haccepts.output_ne hkey
    rw [hinst, Document.get?_erase_of_ne hne, get?_joinedForm hs hdotless (Or.inl hkey),
      ← hattach, Document.get?_insert_of_ne hne.symm]
  · -- and the output was the only other key
    intro key hkey
    rw [hinst, Document.mem_keys_erase] at hkey
    obtain ⟨hne, hkey⟩ := hkey
    refine (mem_keys_joinedForm hs hkey).resolve_right fun hhead => hne ?_
    rw [hhead, Path.ofString_of_dotless hdotless]
  · -- under the output stand the documents that belong to this one
    rw [get?_joinedForm hs hdotless (Or.inr rfl), ← hattach, Document.get?_insert_self,
      readJoined_documents] at hjoined
    exact (decodes_eq_ok.mp hjoined).1

/-- An output with a dot is no key of a row, so nothing is read there. -/
theorem get?_output_of_dot (hs : m.schema.WellFormed)
    (hdot : '.' ∈ (j.output related.schema.name).toList) :
    Document.get? (m.joinedForm related j attached) (j.output related.schema.name) = none := by
  refine Document.get?_eq_none_iff.mpr fun hkey => ?_
  rcases mem_keys_joinedForm hs hkey with (hid | hfield) | hhead
  · exact LegalName.id.dotless (hid ▸ hdot)
  · obtain ⟨f, hf, hname⟩ := List.mem_map.mp hfield
    exact (hs.legal f hf).dotless (hname ▸ hdot)
  · exact Path.dotless_head _ (hhead ▸ hdot)

/-- A row can be read when the documents joined to it can, and the document that it was made of is
an instance. -/
theorem exists_readRow (haccepts : m.Accepts related j) (hs : m.schema.WellFormed)
    (hrequired : ∀ name ∈ m.required, (m.schema.field? name).isSome = true)
    (hd : m.decode d = .ok d) (hattach : j.attach related.schema.name foreign d = .ok attached)
    {joined : List Document}
    (hjoined : readJoined related (j.output related.schema.name) (Document.get?
      (m.joinedForm related j attached) (j.output related.schema.name)) = .ok joined) :
    ∃ shown, m.readRow related (j.output related.schema.name)
      (m.joinedForm related j attached) = .ok shown := by
  refine ⟨⟨_, joined⟩, readRow_eq_ok.mpr ⟨hjoined, decode_eq_ok.mpr ⟨rfl, ?_⟩⟩⟩
  intro name hname
  have hknown := Schema.isSome_field?.mp (hrequired name hname)
  have hkey : name ∈ Document.keys attached := by
    obtain ⟨w, rfl, -⟩ := Document.write_eq_ok hattach
    exact Document.mem_keys_insert.mpr (Or.inl ((decode_eq_ok.mp hd).2 name hname))
  refine Document.mem_keys_erase.mpr ⟨haccepts.output_ne hknown, ?_⟩
  refine Document.mem_keys_project_including (hknown.imp_right fun hfield => ?_) hkey
  obtain ⟨f, hf, rfl⟩ := List.mem_map.mp hfield
  exact ⟨List.mem_append_left _ hfield, (hs.legal f hf).dotless⟩

end Row

/-! ## All rows -/

section Rows

variable {kwargs : Document} {options : ReadOptions} {s : Store} {rows : List JoinedRow}
  {collection : String → List Document}

/-- A row that a join makes of a document. -/
def Makes (m related : Model) (j : Join) (foreign : List Document) (d : Document)
    (shown : JoinedRow) : Prop :=
  ∃ attached, j.attach related.schema.name foreign d = .ok attached ∧
    m.readRow related (j.output related.schema.name)
      (m.joinedForm related j attached) = .ok shown

/-- An accepted join changes nothing, and reads the rows that its pipeline makes of the stored
documents. -/
theorem join_eq_readRows (haccepts : m.Accepts related j) (kwargs : Document)
    (options : ReadOptions) (s : Store) :
    m.join collection related j kwargs options s = (do
      let filter ← m.filter kwargs
      let made ← Stage.runAll collection
        (j.pipeline related.schema.name m.schema.fieldNames filter options) s.documents
      made.mapM (m.readRow related (j.output related.schema.name)), s) := by
  obtain ⟨⟨f, hlocal⟩, hforeign, houtput⟩ := haccepts.checks
  simp only [join, Action.bind_apply, Action.check, hlocal, hforeign, houtput]
  cases m.filter kwargs with
  | error e => rfl
  | ok filter =>
    simp only [Action.aggregate, Action.read, ok_bind]
    cases Stage.runAll collection
      (j.pipeline related.schema.name m.schema.fieldNames filter options) s.documents <;> rfl

/-- An accepted join without unwinding changes nothing, and reads the rows that the pipeline makes
of the selected documents. -/
theorem join_apply_paged (haccepts : m.Accepts related j) (hunwind : j.unwind = false)
    (kwargs : Document) (options : ReadOptions) (s : Store) :
    m.join collection related j kwargs options s = (do
      let filter ← m.filter kwargs
      let selected ← Document.select filter s.documents
      let attached ← selected.mapM
        (j.attach related.schema.name (collection related.schema.name))
      let paged ← Stage.runAll collection (Join.paging options) (Document.sortBy
        (options.sort?.getD ReadOptions.idSort) (attached.map (m.joinedForm related j)))
      paged.mapM (m.readRow related (j.output related.schema.name)), s) := by
  rw [join_eq_readRows haccepts]
  cases m.filter kwargs with
  | error e => rfl
  | ok filter =>
    simp only [ok_bind, Join.runAll_pipeline hunwind, bind_assoc]
    rfl

/-- An accepted join without unwinding and paging changes nothing, and reads the rows that the
pipeline makes of the selected documents. -/
theorem join_apply (haccepts : m.Accepts related j) (hunwind : j.unwind = false)
    (hskip : options.skip? = none) (hlimit : options.limit? = none) (kwargs : Document)
    (s : Store) :
    m.join collection related j kwargs options s = (do
      let filter ← m.filter kwargs
      let selected ← Document.select filter s.documents
      let attached ← selected.mapM
        (j.attach related.schema.name (collection related.schema.name))
      (Document.sortBy (options.sort?.getD ReadOptions.idSort)
        (attached.map (m.joinedForm related j))).mapM
          (m.readRow related (j.output related.schema.name)), s) := by
  rw [join_apply_paged haccepts hunwind, Join.paging_eq_nil hskip hlimit]
  rfl

/-- The rows of a join are made of the selected documents, each of one, in some order. -/
theorem makes_of_join (haccepts : m.Accepts related j) (hunwind : j.unwind = false)
    (hskip : options.skip? = none) (hlimit : options.limit? = none) {s' : Store}
    (h : m.join collection related j kwargs options s = (.ok rows, s')) :
    ∃ filter selected order, m.filter kwargs = .ok filter ∧
      Document.select filter s.documents = .ok selected ∧ order.Perm selected ∧
      List.Forall₂ (Makes m related j (collection related.schema.name)) order rows := by
  rw [join_apply haccepts hunwind hskip hlimit, Prod.mk.injEq] at h
  obtain ⟨filter, hfilter, h⟩ := bind_eq_ok.mp h.1
  obtain ⟨selected, hselected, h⟩ := bind_eq_ok.mp h
  obtain ⟨attached, hattached, hrows⟩ := bind_eq_ok.mp h
  let R (d row : Document) : Prop := ∃ a,
    j.attach related.schema.name (collection related.schema.name) d = .ok a ∧
      row = m.joinedForm related j a
  have hprojected : List.Forall₂ R selected (attached.map (m.joinedForm related j)) := by
    rw [List.forall₂_map_right_iff]
    exact (forall₂_of_mapM_eq_ok hattached).imp fun d a ha => ⟨a, ha, rfl⟩
  -- sorting the projected documents is sorting the documents that they were made of
  have hsorted : Relation.Comp (List.Forall₂ R) List.Perm selected (Document.sortBy
      (options.sort?.getD ReadOptions.idSort) (attached.map (m.joinedForm related j))) :=
    ⟨_, hprojected, (List.mergeSort_perm _ _).symm⟩
  rw [List.forall₂_comp_perm_eq_perm_comp_forall₂] at hsorted
  obtain ⟨order, horder, hmade⟩ := hsorted
  refine ⟨filter, selected, order, hfilter, hselected, horder.symm, ?_⟩
  refine forall₂_trans ?_ hmade (forall₂_of_mapM_eq_ok hrows)
  rintro d row shown ⟨a, ha, rfl⟩ hshown
  exact ⟨a, ha, hshown⟩

/-- A join succeeds when a row can be made of every selected document. -/
theorem exists_join (haccepts : m.Accepts related j) (hunwind : j.unwind = false)
    (hskip : options.skip? = none) (hlimit : options.limit? = none) {filter : Document}
    {selected : List Document} (hfilter : m.filter kwargs = .ok filter)
    (hselected : Document.select filter s.documents = .ok selected)
    (hmakes : ∀ d ∈ selected, ∃ shown,
      Makes m related j (collection related.schema.name) d shown) :
    ∃ rows, m.join collection related j kwargs options s = (.ok rows, s) := by
  obtain ⟨attached, hattached⟩ := exists_mapM_eq_ok fun d hd =>
    (hmakes d hd).elim fun _ hmakes => hmakes.imp fun _ h => h.1
  -- sorting loses which document a row was made of, so the rows are taken one by one
  have hrows : ∀ row ∈ Document.sortBy (options.sort?.getD ReadOptions.idSort)
      (attached.map (m.joinedForm related j)), ∃ shown,
      m.readRow related (j.output related.schema.name) row = .ok shown := by
    intro row hrow
    rw [Document.mem_sortBy] at hrow
    obtain ⟨a, ha, rfl⟩ := List.mem_map.mp hrow
    obtain ⟨d, hd, hattach⟩ := exists_of_mem_mapM hattached ha
    obtain ⟨shown, a', hattach', hshown⟩ := hmakes d hd
    cases hattach.symm.trans hattach'
    exact ⟨shown, hshown⟩
  obtain ⟨rows, hread⟩ := exists_mapM_eq_ok hrows
  refine ⟨rows, ?_⟩
  rw [join_apply haccepts hunwind hskip hlimit, hfilter, ok_bind, hselected, ok_bind, hattached,
    ok_bind, hread]

/-- With an output without dots, a made row shows its document. -/
theorem Makes.shows {shown : JoinedRow} (h : Makes m related j foreign d shown)
    (hs : m.schema.WellFormed) (hrelated : related.schema.WellFormed)
    (haccepts : m.Accepts related j) (hdotless : '.' ∉ (j.output related.schema.name).toList) :
    m.Shows j foreign d shown := by
  obtain ⟨attached, hattach, hrow⟩ := h
  exact shows_of_readRow hs hrelated haccepts hdotless hattach hrow

/-- With a dot in the output, a made row has no related documents. -/
theorem Makes.related_eq_nil {shown : JoinedRow} (h : Makes m related j foreign d shown)
    (hs : m.schema.WellFormed) (hdot : '.' ∈ (j.output related.schema.name).toList) :
    shown.related = [] := by
  obtain ⟨attached, -, hrow⟩ := h
  obtain ⟨hjoined, -⟩ := readRow_eq_ok.mp hrow
  rw [get?_output_of_dot hs hdot] at hjoined
  exact (Except.ok.inj hjoined).symm

/-- With an output without dots, a row can be made of every instance if the documents that belong to
it are instances too. -/
theorem exists_makes_of_dotless (hs : m.schema.WellFormed) (hrelated : related.schema.WellFormed)
    (haccepts : m.Accepts related j)
    (hrequired : ∀ name ∈ m.required, (m.schema.field? name).isSome = true)
    (hdotless : '.' ∉ (j.output related.schema.name).toList) (hd : m.decode d = .ok d)
    (hforeign : ∀ e ∈ foreign.filter (j.relates d), related.decode e = .ok e) :
    ∃ shown, Makes m related j foreign d shown := by
  have hattach := attach_of_dotless hs hrelated haccepts hdotless foreign d
  have hjoined : (foreign.filter (j.relates d)).mapM related.decode =
      .ok (foreign.filter (j.relates d)) := decodes_eq_ok.mpr ⟨rfl, hforeign⟩
  rw [← readJoined_documents (j.output related.schema.name), ← Document.get?_insert_self d,
    ← get?_joinedForm hs hdotless (Or.inr rfl)] at hjoined
  obtain ⟨shown, hshown⟩ := exists_readRow haccepts hs hrequired hd hattach hjoined
  exact ⟨shown, _, hattach, hshown⟩

/-- With a dot in the output, a row can be made of every instance that has room for it. -/
theorem exists_makes_of_dot (hs : m.schema.WellFormed) (haccepts : m.Accepts related j)
    (hrequired : ∀ name ∈ m.required, (m.schema.field? name).isSome = true)
    (hdot : '.' ∈ (j.output related.schema.name).toList) (hd : m.decode d = .ok d)
    (hroom : d.HasRoom (j.output related.schema.name)) :
    ∃ shown, Makes m related j foreign d shown := by
  obtain ⟨attached, hattach⟩ := Join.exists_attach_iff.mpr hroom
  have hjoined : readJoined related (j.output related.schema.name) (Document.get?
      (m.joinedForm related j attached) (j.output related.schema.name)) = .ok [] := by
    rw [get?_output_of_dot hs hdot]
    rfl
  obtain ⟨shown, hshown⟩ := exists_readRow haccepts hs hrequired hd hattach hjoined
  exact ⟨shown, attached, hattach, hshown⟩

end Rows

/-! ## Joins in a database -/

/-- A join of two models of a database, without pages, answers rows. -/
def Answers (m related : Model) (j : Join) (db : Database) (kwargs : Document)
    (options : ReadOptions) (rows : List JoinedRow) : Prop :=
  options.skip? = none ∧ options.limit? = none ∧
    ∃ db', db.run m.schema.name (m.join db.documents related j kwargs options) = (.ok rows, db')

/-- The rows of a join are one for each document that the keyword arguments select, and show it. -/
def Relates (m related : Model) (j : Join) (db : Database) (kwargs : Document)
    (rows : List JoinedRow) : Prop :=
  ∃ filter selected order, m.filter kwargs = .ok filter ∧
    Document.select filter (db.documents m.schema.name) = .ok selected ∧ order.Perm selected ∧
    List.Forall₂ (m.Shows j (db.documents related.schema.name)) order rows

/-- A document with an empty document under every name. -/
def blank (names : List String) : Document :=
  Document.ofEntries (names.map fun name => (name, .document []))

theorem get?_blank {names : List String} {name : String} (h : name ∈ names) :
    Document.get? (blank names) name = some (.document []) := by
  have hunique : ∀ entry ∈ names.map fun name => (name, Value.document []),
      ∀ other ∈ names.map fun name => (name, Value.document []),
      entry.1 = other.1 → entry = other := by
    intro entry hentry other hother hkey
    obtain ⟨k, -, rfl⟩ := List.mem_map.mp hentry
    obtain ⟨k', -, rfl⟩ := List.mem_map.mp hother
    exact Prod.ext hkey rfl
  have hmem : (name, Value.document []) ∈ blank names :=
    (Document.mem_ofEntries hunique).mpr (List.mem_map_of_mem h)
  have hempty : (Document.keys []).Nodup := List.nodup_nil
  exact (Document.get?_eq_some_iff (Document.nodup_keys_insertAll hempty _)).mpr hmem

theorem eq_of_get?_blank {names : List String} {key : String} {v : Value}
    (h : Document.get? (blank names) key = some v) : v = .document [] := by
  have hmem := (Document.mem_of_mem_insertAll (Document.mem_of_get?_eq_some h)).resolve_right
    List.not_mem_nil
  obtain ⟨name, -, heq⟩ := List.mem_map.mp hmem
  exact (Prod.mk.inj heq).2.symm

section Databases

variable {db : Database} {kwargs : Document} {options : ReadOptions} {rows : List JoinedRow}

/-- The rows that a join answers are made of the selected documents, each of one, in some order. -/
theorem Answers.makes (h : Answers m related j db kwargs options rows)
    (haccepts : m.Accepts related j) (hunwind : j.unwind = false) :
    ∃ filter selected order, m.filter kwargs = .ok filter ∧
      Document.select filter (db.documents m.schema.name) = .ok selected ∧ order.Perm selected ∧
      List.Forall₂ (Makes m related j (db.documents related.schema.name)) order rows := by
  obtain ⟨hskip, hlimit, db', hrun⟩ := h
  exact makes_of_join haccepts hunwind hskip hlimit (Prod.ext (Prod.mk.inj hrun).1 rfl)

theorem answers_of_join (hskip : options.skip? = none) (hlimit : options.limit? = none) {s : Store}
    (h : m.join db.documents related j kwargs options ⟨db.collection m.schema.name, db.ids⟩ =
      (.ok rows, s)) : Answers m related j db kwargs options rows := by
  have hanswer : (db.run m.schema.name (m.join db.documents related j kwargs options)).1 =
      .ok rows := congrArg Prod.fst h
  exact ⟨hskip, hlimit, _, Prod.ext hanswer rfl⟩

/-- A join answers when a row can be made of every selected document. -/
theorem exists_answers (haccepts : m.Accepts related j) (hunwind : j.unwind = false)
    (hskip : options.skip? = none) (hlimit : options.limit? = none) {filter : Document}
    {selected : List Document} (hfilter : m.filter kwargs = .ok filter)
    (hselected : Document.select filter (db.documents m.schema.name) = .ok selected)
    (hmakes : ∀ d ∈ selected, ∃ shown,
      Makes m related j (db.documents related.schema.name) d shown) :
    ∃ rows, Answers m related j db kwargs options rows := by
  obtain ⟨rows, hrows⟩ : ∃ rows, m.join db.documents related j kwargs options
      ⟨db.collection m.schema.name, db.ids⟩ = (.ok rows, _) :=
    exists_join haccepts hunwind hskip hlimit hfilter hselected hmakes
  exact ⟨rows, answers_of_join hskip hlimit hrows⟩

/-- A document with an empty document under every name that the models of a join know. -/
def sample (m related : Model) : Document :=
  blank (Document.idKey :: (m.schema.fieldNames ++ related.schema.fieldNames))

/-- A database with the sample of a join in both of its collections. -/
def sampled (m related : Model) : Database where
  collections := [(m.schema.name, { documents := [sample m related] }),
    (related.schema.name, { documents := [sample m related] })]
  ids := ⟨fun _ => ⟨0⟩, 0⟩

theorem documents_sampled (m related : Model) {name : String}
    (h : name = m.schema.name ∨ name = related.schema.name) :
    (sampled m related).documents name = [sample m related] := by
  rw [Database.documents, Database.collection, sampled, List.lookup_cons, List.lookup_cons]
  by_cases hname : name = m.schema.name
  · simp [hname]
  · rw [h.resolve_left hname, beq_self_eq_true]
    cases related.schema.name == m.schema.name <;> rfl

theorem get?_sample_of_known (related : Model) {name : String}
    (h : (m.schema.field? name).isSome = true) :
    Document.get? (sample m related) name = some (.document []) := by
  refine get?_blank ?_
  rcases Schema.isSome_field?.mp h with hid | hfield
  · exact hid ▸ List.mem_cons_self
  · exact List.mem_cons_of_mem _ (List.mem_append_left _ hfield)

/-- The sample of a join belongs to itself. -/
theorem relates_sample (haccepts : m.Accepts related j) :
    j.relates (sample m related) (sample m related) = true := by
  have hforeign : Document.get? (sample m related) j.foreignField = some (.document []) := by
    refine get?_blank ?_
    rw [Join.foreignField]
    cases hfield : j.foreignField? with
    | none => exact List.mem_cons_self
    | some field =>
      rcases Schema.isSome_field?.mp (haccepts.foreignField field hfield) with hid | hfield
      · exact hid ▸ List.mem_cons_self
      · exact List.mem_cons_of_mem _ (List.mem_append_right _ hfield)
  rw [Join.relates, get?_sample_of_known related haccepts.localField, hforeign]
  rfl

/-- With a dot in the output, a join of the sampled database answers. -/
theorem exists_answers_sampled (hs : m.schema.WellFormed) (haccepts : m.Accepts related j)
    (hunwind : j.unwind = false)
    (hrequired : ∀ name ∈ m.required, (m.schema.field? name).isSome = true)
    (hdot : '.' ∈ (j.output related.schema.name).toList) :
    ∃ rows, Answers m related j (sampled m related) [] {} rows := by
  have hsample : m.decode (sample m related) = .ok (sample m related) := by
    refine decode_eq_ok.mpr ⟨rfl, fun name hname => ?_⟩
    have hget := get?_sample_of_known related (hrequired name hname)
    exact Document.mem_keys_of_mem (Document.mem_of_get?_eq_some hget)
  have hselected : Document.select [] ((sampled m related).documents m.schema.name) =
      .ok [sample m related] := by
    rw [documents_sampled m related (Or.inl rfl)]
    rfl
  have hfilter : m.filter [] = .ok [] := rfl
  refine exists_answers haccepts hunwind rfl rfl hfilter hselected fun d hd => ?_
  rw [List.mem_singleton.mp hd]
  exact exists_makes_of_dot hs haccepts hrequired hdot hsample
    (Document.hasRoom_of_head fun v => eq_of_get?_blank)

/-- In the sampled database, a row that shows the sample relates it to itself. -/
theorem related_of_relates_sampled (haccepts : m.Accepts related j)
    (h : Relates m related j (sampled m related) [] rows) :
    ∃ row ∈ rows, row.related = [sample m related] := by
  obtain ⟨filter, selected, order, hfilter, hselected, horder, hshows⟩ := h
  rw [documents_sampled m related (Or.inl rfl)] at hselected
  rw [documents_sampled m related (Or.inr rfl)] at hshows
  cases hfilter
  cases hselected
  cases List.perm_singleton.mp horder
  cases hshows with
  | @cons _ row _ _ hrow _ =>
    refine ⟨row, List.mem_cons_self, ?_⟩
    rw [hrow.related, List.filter_singleton, relates_sample haccepts]
    rfl

/-- With an output without dots, a join returns one row for each selected document, with exactly the
documents that belong to it. With a dot in the output, no row ever has a related document. If the
fields that the model requires are declared, a join without a dot answers whenever the filter can be
evaluated and the documents are instances; and with a dot there is a database where a join leaves
out what it should relate. -/
theorem join_relates_without_dot (m related : Model) (j : Join) {draft draft' : SchemaDraft}
    (hbuild : draft.build = .ok m.schema) (hbuild' : draft'.build = .ok related.schema)
    (haccepts : m.Accepts related j) (hunwind : j.unwind = false) :
    ('.' ∉ (j.output related.schema.name).toList →
      ∀ db kwargs options rows, Answers m related j db kwargs options rows →
        Relates m related j db kwargs rows) ∧
    ('.' ∈ (j.output related.schema.name).toList →
      ∀ db kwargs options rows, Answers m related j db kwargs options rows →
        ∀ row ∈ rows, row.related = []) ∧
    ((∀ name ∈ m.required, (m.schema.field? name).isSome = true) →
      ('.' ∉ (j.output related.schema.name).toList →
        ∀ db kwargs filter selected, ∀ options : ReadOptions, options.skip? = none →
          options.limit? = none → m.filter kwargs = .ok filter →
          Document.select filter (db.documents m.schema.name) = .ok selected →
          (∀ d ∈ selected, m.decode d = .ok d) →
          (∀ e ∈ db.documents related.schema.name, related.decode e = .ok e) →
          ∃ rows, Answers m related j db kwargs options rows) ∧
      ('.' ∈ (j.output related.schema.name).toList →
        ∃ db rows, Answers m related j db [] {} rows ∧ ¬ Relates m related j db [] rows)) := by
  have hs := SchemaDraft.build_wellFormed hbuild
  have hrelated := SchemaDraft.build_wellFormed hbuild'
  have hempty : '.' ∈ (j.output related.schema.name).toList →
      ∀ db kwargs options rows, Answers m related j db kwargs options rows →
        ∀ row ∈ rows, row.related = [] := by
    intro hdot db kwargs options rows hanswers row hrow
    obtain ⟨-, -, order, -, -, -, hmakes⟩ := hanswers.makes haccepts hunwind
    obtain ⟨d, -, hmade⟩ := forall₂_exists_of_mem hmakes hrow
    exact hmade.related_eq_nil hs hdot
  refine ⟨?_, hempty, fun hrequired => ⟨?_, ?_⟩⟩
  · intro hdotless db kwargs options rows hanswers
    obtain ⟨filter, selected, order, hfilter, hselected, horder, hmakes⟩ :=
      hanswers.makes haccepts hunwind
    exact ⟨filter, selected, order, hfilter, hselected, horder,
      hmakes.imp fun d row hmade => hmade.shows hs hrelated haccepts hdotless⟩
  · intro hdotless db kwargs filter selected options hskip hlimit hfilter hselected hinstances
      hforeign
    refine exists_answers haccepts hunwind hskip hlimit hfilter hselected fun d hd => ?_
    exact exists_makes_of_dotless hs hrelated haccepts hrequired hdotless (hinstances d hd)
      fun e he => hforeign e (List.mem_of_mem_filter he)
  · -- the sample belongs to itself, but its row has nothing related
    intro hdot
    obtain ⟨rows, hanswers⟩ := exists_answers_sampled hs haccepts hunwind hrequired hdot
    refine ⟨sampled m related, rows, hanswers, fun hrelates => ?_⟩
    obtain ⟨row, hrow, hsample⟩ := related_of_relates_sampled haccepts hrelates
    rw [hempty hdot _ _ _ _ hanswers row hrow] at hsample
    cases hsample

/-- Instances that name an owner. -/
def ownedModel : Model := { schema := ⟨⟨"t"⟩, [{ name := "owner", type := .string }]⟩ }

/-- Named instances, in a collection with the given name. -/
def namedModel (collection : String) : Model :=
  { schema := ⟨⟨collection⟩, [{ name := "name", type := .string }]⟩ }

theorem build_ownedModel : SchemaDraft.build
    { collection := "t", fields := [{ name := "owner", type := .string }] } =
    .ok ownedModel.schema :=
  SchemaDraft.build_one_field rfl rfl (by decide) rfl

theorem accepts_owner {collection : String} (h : collection ≠ "_id" ∧ collection ≠ "owner") :
    ownedModel.Accepts (namedModel collection) { localField := "owner" } := by
  refine ⟨rfl, fun _ hfield => (by cases hfield), ?_⟩
  change ownedModel.schema.field? collection = none
  have hid : collection ≠ Document.idKey := h.1
  simp [ownedModel, Schema.field?, hid, h.2.symm]

/-- The theorem at a join whose output is the name of the related collection, which has no dot: the
related document is the one whose identifier is the owner. -/
theorem join_relates_owner :
    ∃ (db : Database) (row : JoinedRow),
      db.documents "t" = [[("_id", .string "a"), ("owner", .string "u")]] ∧
      db.documents "users" = [[("_id", .string "v"), ("name", .string "x")],
        [("_id", .string "u"), ("name", .string "y")]] ∧
      Answers ownedModel (namedModel "users") { localField := "owner" } db [] {} [row] ∧
      Document.get? row.inst "owner" = some (.string "u") ∧
      row.related = [[("_id", .string "u"), ("name", .string "y")]] := by
  let db : Database :=
    { collections := [("t", { documents := [[("_id", .string "a"), ("owner", .string "u")]] }),
        ("users", { documents := [[("_id", .string "v"), ("name", .string "x")],
          [("_id", .string "u"), ("name", .string "y")]] })], ids := ⟨fun _ => ⟨0⟩, 0⟩ }
  have hbuild : SchemaDraft.build
      { collection := "users", fields := [{ name := "name", type := .string }] } =
      .ok (namedModel "users").schema := SchemaDraft.build_one_field rfl rfl (by decide) rfl
  obtain ⟨hrelates, -, hanswers⟩ := join_relates_without_dot _ _ _ build_ownedModel hbuild
    (accepts_owner (by decide)) rfl
  have hdotless : '.' ∉ (Join.output { localField := "owner" } "users").toList := by decide
  obtain ⟨rows, hrows⟩ := (hanswers (by decide)).1 hdotless db [] [] (db.documents "t") {} rfl rfl
    rfl rfl (fun d _ => rfl) (fun e _ => rfl)
  obtain ⟨filter, selected, order, hfilter, hselected, horder, hshows⟩ :=
    hrelates hdotless db [] {} rows hrows
  cases hfilter
  cases hselected
  cases List.perm_singleton.mp horder
  cases hshows with
  | @cons _ row _ _ hrow hrest =>
    cases hrest
    refine ⟨db, row, rfl, rfl, hrows, ?_, ?_⟩
    · exact hrow.kept "owner" (Or.inr List.mem_cons_self)
    · rw [hrow.related]
      rfl

/-- A join with a related collection whose name has a dot leaves the related document out, and shows
it inside the instance. -/
theorem join_misses_dotted_collection :
    ∃ db : Database,
      db.documents "t" = [[("_id", .string "a"), ("owner", .string "u")]] ∧
      db.documents "app.users" = [[("_id", .string "u"), ("name", .string "y")]] ∧
      Answers ownedModel (namedModel "app.users") { localField := "owner" } db [] {}
        [{ inst := [("_id", .string "a"), ("owner", .string "u"), ("app", .document [("users",
            .array [.document [("_id", .string "u"), ("name", .string "y")]])])],
           related := [] }] ∧
      Join.relates { localField := "owner" } [("_id", .string "a"), ("owner", .string "u")]
        [("_id", .string "u"), ("name", .string "y")] = true := by
  let db : Database :=
    { collections := [("t", { documents := [[("_id", .string "a"), ("owner", .string "u")]] }),
        ("app.users", { documents := [[("_id", .string "u"), ("name", .string "y")]] })],
      ids := ⟨fun _ => ⟨0⟩, 0⟩ }
  let shown : Document := [("_id", .string "a"), ("owner", .string "u"), ("app", .document
    [("users", .array [.document [("_id", .string "u"), ("name", .string "y")]])])]
  have hsorted : Document.sortBy ReadOptions.idSort [shown] = [shown] :=
    List.mergeSort_singleton shown
  -- the path goes through the dot, so the list is kept inside of `app`
  have hkept : Document.project [("owner", .int32 1), ("app.users", .int32 1)] shown = shown := by
    simp only [Document.project, List.foldl_cons, List.foldl_nil, Document.excludes_one]
    rfl
  let s : Store := ⟨db.collection "t", db.ids⟩
  have hrows : ownedModel.join db.documents (namedModel "app.users") { localField := "owner" } [] {}
      s = (.ok [{ inst := shown, related := [] }], s) := by
    rw [join_apply (accepts_owner (by decide)) rfl rfl rfl]
    change ((Document.sortBy ReadOptions.idSort
      [Document.project [("owner", .int32 1), ("app.users", .int32 1)] shown]).mapM
        (ownedModel.readRow (namedModel "app.users") "app.users"), s) = _
    rw [hkept, hsorted]
    rfl
  exact ⟨db, rfl, rfl, answers_of_join rfl rfl hrows, rfl⟩

end Databases

end Model

end DocMapper
