import DocMapper.Proofs.JoinPages

namespace DocMapper

/-! # Joins with unwound rows

A join that unwinds writes each related document at the output, in place of their list, and gets one
row for each. Up to that stage its pipeline is the one without unwinding, and a row is read with the
same related documents from a single document as from a list of one. So unwinding flattens the rows,
and its pages are pages of flattened rows.
-/

/-- One row for each related document of a row, in their order. -/
def JoinedRow.unwound (row : JoinedRow) : List JoinedRow :=
  row.related.map fun e => { row with related := [e] }

/-- Running an operation puts back the collection that it leaves. -/
theorem Database.run_of_apply {α : Type} {db : Database} {name : String} {action : Action α}
    {answer : Except Error α} {s : Store}
    (h : action ⟨db.collection name, db.ids⟩ = (answer, s)) :
    db.run name action =
      (answer, { collections := put name s.toCollection db.collections, ids := s.ids }) := by
  rw [run, h]

/-! ## The stage that unwinds -/

namespace Stage

variable {collection : String → List Document} {docs : List Document}

theorem runAll_append (p q : List Document) :
    runAll collection (p ++ q) docs = runAll collection p docs >>= runAll collection q :=
  List.foldlM_append

/-- The stage that unwinds a field gives the documents for each item of its lists, one list after
the other. -/
theorem runAll_unwind (field : String) :
    runAll collection [[("$unwind", .ofField field)]] docs =
      (docs.mapM (unwound field false)).map List.flatten := by
  have hread : readUnwindPath ("$" ++ field) false = .ok (unwind field false) := by
    simp [readUnwindPath]
  have hstage : ofDocument [("$unwind", .ofField field)] = .ok (unwind field false) := hread
  rw [Join.runAll_singleton, runDocument, hstage, ok_bind, run]
  cases docs.mapM (unwound field false) <;> rfl

/-- A list of documents is unwound into one document for each of them. -/
theorem unwound_documents {output : String} {d : Document} {items : List Document}
    (hdotless : '.' ∉ output.toList)
    (h : Document.get? d output = some (.array (items.map .document))) :
    unwound output false d = .ok (items.map fun e => Document.insert d output (.document e)) := by
  rw [unwound, Document.getPath?_of_dotless hdotless, h]
  cases items with
  | nil => rfl
  | cons e rest =>
    refine mapM_eq_ok_of_forall₂ (l := (e :: rest).map Value.document) ?_
    rw [List.forall₂_map_left_iff, List.forall₂_map_right_iff]
    exact List.forall₂_same.mpr fun e _ => Document.write_of_dotless hdotless d (.document e)

end Stage

namespace Join

variable {j : Join} {source : String} {fields : List String} {filter : Document}
  {options paged : ReadOptions}

/-- With unwinding, the pipeline of a join unwinds the rows that it makes without, and pages what
comes of them. -/
theorem runAll_pipeline_unwind (hskip : options.skip? = none) (hlimit : options.limit? = none)
    (hsort : paged.sort? = options.sort?) (collection : String → List Document)
    (docs : List Document) :
    Stage.runAll collection ({ j with unwind := true }.pipeline source fields filter paged) docs =
      (do
        let whole ← Stage.runAll collection
          ({ j with unwind := false }.pipeline source fields filter options) docs
        let parts ← whole.mapM (Stage.unwound (j.output source) false)
        Stage.runAll collection (paging paged) parts.flatten) := by
  have hsplit : { j with unwind := true }.pipeline source fields filter paged =
      { j with unwind := false }.pipeline source fields filter options ++
        ([[("$unwind", .ofField (j.output source))]] ++ paging paged) := by
    rw [pipeline, pipeline, paging_eq_nil hskip hlimit, hsort]
    rfl
  rw [hsplit, Stage.runAll_append]
  refine bind_congr fun whole => ?_
  rw [Stage.runAll_append, Stage.runAll_unwind]
  cases whole.mapM (Stage.unwound (j.output source) false) <;> rfl

end Join

namespace Model

variable {m related : Model} {j : Join} {collection : String → List Document}
  {kwargs filter row : Document} {options : ReadOptions} {s s' : Store}
  {rows : List JoinedRow} {shown : JoinedRow}

/-! ## Reading unwound rows -/

/-- With a single document at the output, a row is read as a row with that document alone. -/
theorem readRow_insert {output : String} {e : Document}
    (hrow : m.decode (Document.erase row output) = .ok shown.inst) (he : related.decode e = .ok e) :
    m.readRow related output (Document.insert row output (.document e)) =
      .ok { shown with related := [e] } := by
  refine readRow_eq_ok.mpr ⟨?_, ?_⟩
  · rw [Document.get?_insert_self, readJoined, he]
    rfl
  · rw [Document.erase_insert_self, hrow]

/-- What a row is unwound into is read as the unwound row. -/
theorem exists_unwound_readRow {output : String} {items : List Document}
    (hdotless : '.' ∉ output.toList)
    (hlist : Document.get? row output = some (.array (items.map .document)))
    (hrow : m.readRow related output row = .ok shown) :
    ∃ part, Stage.unwound output false row = .ok part ∧
      part.mapM (m.readRow related output) = .ok shown.unwound := by
  obtain ⟨hjoined, hinst⟩ := readRow_eq_ok.mp hrow
  rw [hlist, readJoined_documents] at hjoined
  obtain ⟨hitems, hdecodes⟩ := decodes_eq_ok.mp hjoined
  refine ⟨_, Stage.unwound_documents hdotless hlist, mapM_eq_ok_of_forall₂ ?_⟩
  rw [JoinedRow.unwound, hitems, List.forall₂_map_left_iff, List.forall₂_map_right_iff]
  exact List.forall₂_same.mpr fun e he => readRow_insert hinst (hdecodes e he)

/-! ## Accepted joins -/

theorem Accepts.withUnwind (h : m.Accepts related j) (unwind : Bool) :
    m.Accepts related { j with unwind } :=
  ⟨h.localField, h.foreignField, h.output⟩

/-- Without unwinding, and with an output without dots, every row that the pipeline makes has a list
of documents at the output. -/
theorem documents_of_runAll (hs : m.schema.WellFormed)
    (hdotless : '.' ∉ (j.output related.schema.name).toList) (hunwind : j.unwind = false)
    (hskip : options.skip? = none) (hlimit : options.limit? = none) {docs whole : List Document}
    (hwhole : Stage.runAll collection
      (j.pipeline related.schema.name m.schema.fieldNames filter options) docs = .ok whole)
    (hrow : row ∈ whole) :
    ∃ items : List Document, Document.get? row (j.output related.schema.name) =
      some (.array (items.map .document)) := by
  rw [Join.runAll_pipeline hunwind, Join.paging_eq_nil hskip hlimit] at hwhole
  obtain ⟨selected, -, hwhole⟩ := bind_eq_ok.mp hwhole
  obtain ⟨attached, hattached, hwhole⟩ := bind_eq_ok.mp hwhole
  cases pure_eq_ok.mp hwhole
  obtain ⟨a, ha, rfl⟩ := List.mem_map.mp (Document.mem_sortBy.mp hrow)
  obtain ⟨d, -, hattach⟩ := exists_of_mem_mapM hattached ha
  rw [Join.attach, Document.write_of_dotless hdotless, Except.ok.injEq] at hattach
  refine ⟨Stage.joined (Stage.localValues d j.localField) j.foreignField
    (collection related.schema.name), ?_⟩
  -- what a join keeps of a row includes the output
  have hkept : Document.get? (m.joinedForm related j a) (j.output related.schema.name) =
      Document.get? a (j.output related.schema.name) := get?_joinedForm hs hdotless (Or.inr rfl)
  exact hkept.trans (by rw [← hattach, Document.get?_insert_self])

/-- Where a join without unwinding answers rows, unwinding makes documents that are read as the
unwound rows, pages them and reads the page. -/
theorem join_unwind (hs : m.schema.WellFormed) (haccepts : m.Accepts related j)
    (hdotless : '.' ∉ (j.output related.schema.name).toList) (hskip : options.skip? = none)
    (hlimit : options.limit? = none)
    (hplain : m.join collection related { j with unwind := false } kwargs options s =
      (.ok rows, s')) :
    s' = s ∧ ∃ flat : List Document,
      flat.mapM (m.readRow related (j.output related.schema.name)) =
        .ok (rows.flatMap JoinedRow.unwound) ∧
      ∀ paged : ReadOptions, paged.sort? = options.sort? →
        m.join collection related { j with unwind := true } kwargs paged s = (do
          let page ← Stage.runAll collection (Join.paging paged) flat
          page.mapM (m.readRow related (j.output related.schema.name)), s) := by
  rw [join_eq_readRows (haccepts.withUnwind false), Prod.mk.injEq] at hplain
  obtain ⟨hplain, rfl⟩ := hplain
  obtain ⟨filter, hfilter, hplain⟩ := bind_eq_ok.mp hplain
  obtain ⟨whole, hwhole, hrows⟩ := bind_eq_ok.mp hplain
  -- each row that the pipeline makes, beside what is read from it
  have hrelated : List.Forall₂ (fun row shown => ∃ part,
      Stage.unwound (j.output related.schema.name) false row = .ok part ∧
        part.mapM (m.readRow related (j.output related.schema.name)) = .ok shown.unwound)
      whole rows := by
    have hlists := fun row (hrow : row ∈ whole) => documents_of_runAll
      (j := { j with unwind := false }) hs hdotless rfl hskip hlimit hwhole hrow
    refine ((List.forall₂_and_left _ _).mpr ⟨hlists, forall₂_of_mapM_eq_ok hrows⟩).imp ?_
    rintro row shown ⟨⟨items, hlist⟩, hrow⟩
    exact exists_unwound_readRow hdotless hlist hrow
  obtain ⟨parts, hparts, hread⟩ := exists_flatten_mapM hrelated
  refine ⟨rfl, parts.flatten, hread, fun paged hsort => ?_⟩
  rw [join_eq_readRows (haccepts.withUnwind true), hfilter, ok_bind,
    Join.runAll_pipeline_unwind hskip hlimit hsort, hwhole, ok_bind, hparts, ok_bind]
  rfl

/-- Unwinding flattens a join. Let the schema of the model be built, and let the output of an
accepted join have no dot. Where the join answers rows without unwinding, skipping and limiting, it
answers with unwinding one row for each related document of each row, in the order of the rows and
then of the documents, and leaves the same database. With a number to skip that fits into a signed
one, and a positive limit, it answers that part of these rows. -/
theorem unwound_join_flattens {draft : SchemaDraft} (hbuild : draft.build = .ok m.schema)
    (haccepts : m.Accepts related j) (hdotless : '.' ∉ (j.output related.schema.name).toList)
    (hskip : options.skip? = none) (hlimit : options.limit? = none) {db db' : Database}
    (hplain : db.run m.schema.name
      (m.join db.documents related { j with unwind := false } kwargs options) = (.ok rows, db')) :
    db.run m.schema.name (m.join db.documents related { j with unwind := true } kwargs options) =
        (.ok (rows.flatMap JoinedRow.unwound), db') ∧
      ∀ (skip : Nat) (limit : Int), skip < 2 ^ 63 → 0 < limit → limit < 2 ^ 63 →
        db.run m.schema.name (m.join db.documents related { j with unwind := true } kwargs
            { options with skip? := some skip, limit? := some limit }) =
          (.ok (((rows.flatMap JoinedRow.unwound).drop skip).take limit.toNat), db') := by
  have hs := SchemaDraft.build_wellFormed hbuild
  let s : Store := ⟨db.collection m.schema.name, db.ids⟩
  -- both joins run on the collection of the model, which neither changes
  cases hjoin : m.join db.documents related { j with unwind := false } kwargs options s with
  | mk answer s' =>
    rw [Database.run_of_apply hjoin, Prod.mk.injEq] at hplain
    obtain ⟨rfl, rfl⟩ := hplain
    obtain ⟨rfl, flat, hflat, hpaged⟩ := join_unwind hs haccepts hdotless hskip hlimit hjoin
    constructor
    · refine Database.run_of_apply ?_
      rw [hpaged options rfl, Join.paging_eq_nil hskip hlimit, ← hflat]
      rfl
    · intro skip limit hskip hpos hlimit
      -- a page is cut out of the flattened rows before they are read
      let paged : ReadOptions := { options with skip? := some skip, limit? := some limit }
      have hrange : paged.InRange :=
        ⟨fun n hn => by cases hn; omega, fun n hn => by cases hn; omega⟩
      have hpart : Join.part paged flat = (flat.drop skip).take limit.toNat := if_pos hpos
      refine Database.run_of_apply ?_
      rw [hpaged paged rfl, Join.runAll_paging hrange fun n hn => by cases hn; omega, ok_bind,
        hpart, mapM_part_eq_ok hflat]

/-- Three instances with owners, and users of which two have the first owner's name and none has the
second one's. -/
def ownersDatabase : Database where
  collections := [
    ("t", { documents := [[("_id", .int32 1), ("owner", .string "u")],
      [("_id", .int32 2), ("owner", .string "w")], [("_id", .int32 3), ("owner", .string "v")]] }),
    ("users", { documents := [[("_id", .int32 4), ("name", .string "u")],
      [("_id", .int32 5), ("name", .string "v")], [("_id", .int32 6), ("name", .string "u")]] })]
  ids := ⟨fun _ => ⟨0⟩, 0⟩

/-- The join of instances with the users that have their owners' names. -/
def ownersJoin : Join := { localField := "owner", foreignField? := some "name" }

theorem accepts_ownersJoin : ownedModel.Accepts (namedModel "users") ownersJoin :=
  ⟨rfl, fun field hfield => by cases hfield; rfl, rfl⟩

/-- The rows without unwinding: the first instance has two users, the second none, the third one. -/
theorem run_ownersJoin :
    ownersDatabase.run "t" (ownedModel.join ownersDatabase.documents (namedModel "users")
        ownersJoin [] {}) =
      (.ok [⟨[("_id", .int32 1), ("owner", .string "u")],
          [[("_id", .int32 4), ("name", .string "u")], [("_id", .int32 6), ("name", .string "u")]]⟩,
        ⟨[("_id", .int32 2), ("owner", .string "w")], []⟩,
        ⟨[("_id", .int32 3), ("owner", .string "v")],
          [[("_id", .int32 5), ("name", .string "v")]]⟩], ownersDatabase) := by
  let attached : List Document :=
    [[("_id", .int32 1), ("owner", .string "u"), ("users", .array
        [.document [("_id", .int32 4), ("name", .string "u")],
          .document [("_id", .int32 6), ("name", .string "u")]])],
      [("_id", .int32 2), ("owner", .string "w"), ("users", .array [])],
      [("_id", .int32 3), ("owner", .string "v"), ("users", .array
        [.document [("_id", .int32 5), ("name", .string "v")]])]]
  -- stage by stage: the filter, the rows with what is attached, their form, their order
  have hfilter : ownedModel.filter [] = .ok [] := rfl
  have hselect : Document.select [] (ownersDatabase.documents "t") =
      .ok (ownersDatabase.documents "t") := rfl
  have hattached : (ownersDatabase.documents "t").mapM
      (ownersJoin.attach "users" (ownersDatabase.documents "users")) = .ok attached := rfl
  have hkept : ∀ id owner found, ownedModel.joinedForm (namedModel "users") ownersJoin
      [("_id", id), ("owner", owner), ("users", found)] =
        [("_id", id), ("owner", owner), ("users", found)] := by
    intro id owner found
    change Document.project [("owner", .int32 1), ("users", .int32 1)] _ = _
    simp only [Document.project, List.foldl_cons, List.foldl_nil, Document.excludes_one]
    rfl
  have hmap : attached.map (ownedModel.joinedForm (namedModel "users") ownersJoin) = attached := by
    simp only [attached, List.map_cons, List.map_nil, hkept]
  have hsorted : Document.sortBy ReadOptions.idSort attached = attached :=
    List.mergeSort_of_pairwise (by decide +kernel)
  let s : Store := ⟨ownersDatabase.collection "t", ownersDatabase.ids⟩
  have hjoin : ownedModel.join ownersDatabase.documents (namedModel "users") ownersJoin [] {} s =
      (do
        let filter ← ownedModel.filter []
        let selected ← Document.select filter (ownersDatabase.documents "t")
        let attached ← selected.mapM
          (ownersJoin.attach "users" (ownersDatabase.documents "users"))
        (Document.sortBy ReadOptions.idSort (attached.map
          (ownedModel.joinedForm (namedModel "users") ownersJoin))).mapM
            (ownedModel.readRow (namedModel "users") "users"), s) :=
    join_apply accepts_ownersJoin rfl rfl rfl [] s
  rw [hfilter, ok_bind, hselect, ok_bind, hattached, ok_bind, hmap, hsorted] at hjoin
  have hread : attached.mapM (ownedModel.readRow (namedModel "users") "users") = .ok
      [⟨[("_id", .int32 1), ("owner", .string "u")],
          [[("_id", .int32 4), ("name", .string "u")], [("_id", .int32 6), ("name", .string "u")]]⟩,
        ⟨[("_id", .int32 2), ("owner", .string "w")], []⟩,
        ⟨[("_id", .int32 3), ("owner", .string "v")],
          [[("_id", .int32 5), ("name", .string "v")]]⟩] := rfl
  rw [hread] at hjoin
  exact Database.run_of_apply hjoin

/-- The theorem at a join of three instances: unwinding drops the second, which has no user, and
the page of one row after the first has the second user of the first instance. -/
theorem unwound_join_flattens_owners :
    ownersDatabase.run "t" (ownedModel.join ownersDatabase.documents (namedModel "users")
        { ownersJoin with unwind := true } [] {}) =
      (.ok [⟨[("_id", .int32 1), ("owner", .string "u")],
          [[("_id", .int32 4), ("name", .string "u")]]⟩,
        ⟨[("_id", .int32 1), ("owner", .string "u")],
          [[("_id", .int32 6), ("name", .string "u")]]⟩,
        ⟨[("_id", .int32 3), ("owner", .string "v")],
          [[("_id", .int32 5), ("name", .string "v")]]⟩], ownersDatabase) ∧
    ownersDatabase.run "t" (ownedModel.join ownersDatabase.documents (namedModel "users")
        { ownersJoin with unwind := true } [] { skip? := some 1, limit? := some 1 }) =
      (.ok [⟨[("_id", .int32 1), ("owner", .string "u")],
        [[("_id", .int32 6), ("name", .string "u")]]⟩], ownersDatabase) := by
  obtain ⟨hall, hpage⟩ := unwound_join_flattens build_ownedModel accepts_ownersJoin (by decide)
    rfl rfl run_ownersJoin
  exact ⟨hall, hpage 1 1 (by decide) (by decide) (by decide)⟩

end Model

end DocMapper
