import Mathlib.Data.List.Nodup
import DocMapper.Model.Basic
import DocMapper.Proofs.Actions

namespace DocMapper

/-! # Dropping the indexes of a field

Indexes on one field are named after the field and the direction, and they are dropped by the first
part of their names. A name of this kind starts with the name of another field and an underscore
exactly when its own field does or is that field. So the indexes of a field go together with those
of every field whose name goes on after it with an underscore, and no others.
-/

/-- A request for an index on one field. -/
structure IndexRequest where
  field : String
  direction : SortDirection
  unique : Bool := false
  sparse : Bool := false

namespace IndexRequest

/-- The draft of the index that is asked for. -/
def draft (q : IndexRequest) : IndexDraft :=
  { IndexDraft.single q.field q.direction with unique := q.unique, sparse := q.sparse }

/-- The index that is asked for. -/
def index (q : IndexRequest) : Index := q.draft.toIndex

variable (q : IndexRequest)

@[simp] theorem keys_index : Document.keys q.index.keys = [q.field] := rfl

theorem name_index :
    q.index.name = q.field ++ "_" ++ q.direction.toValue.display := rfl

theorem toList_name_index :
    q.index.name.toList = q.field.toList ++ '_' :: q.direction.toValue.display.toList := by
  rw [name_index, String.toList_append, String.toList_append, List.append_assoc]
  rfl

theorem underscore_not_mem_display (direction : SortDirection) :
    '_' ∉ direction.toValue.display.toList := by
  cases direction <;> decide

/-- The index on identifiers is no index on one field. -/
theorem name_index_ne_primaryName : q.index.name ≠ Index.primaryName := by
  intro h
  have hlast := congrArg (fun name => name.toList.getLast?) h
  simp only [toList_name_index, List.getLast?_append_cons] at hlast
  -- one name ends with a digit, the other with the mark
  cases hdirection : q.direction <;> rw [hdirection] at hlast <;> revert hlast <;> decide

end IndexRequest

/-- A list that ends with its first mark is a prefix of one that ends with it too. -/
theorem concat_prefix_append_cons_iff {α : Type} {c : α} {s u t : List α} (ht : c ∉ t) :
    s ++ [c] <+: u ++ c :: t ↔ u = s ∨ s ++ [c] <+: u := by
  constructor
  · intro h
    have hu : u ++ [c] <+: u ++ c :: t := ⟨t, by simp⟩
    rcases List.prefix_or_prefix_of_prefix h hu with hsu | hus
    · rcases List.prefix_concat_iff.mp hsu with heq | hpre
      · exact Or.inl (List.append_cancel_right heq).symm
      · exact Or.inr hpre
    · rcases List.prefix_concat_iff.mp hus with heq | ⟨r, rfl⟩
      · exact Or.inl (List.append_cancel_right heq)
      · -- the second mark would stand behind the last one
        rw [List.append_assoc, List.append_assoc, List.prefix_append_right_inj,
          List.singleton_append, List.cons_prefix_cons] at h
        exact absurd (h.2.subset (by simp)) ht
  · rintro (rfl | h)
    · exact ⟨t, by simp⟩
    · exact h.trans (List.prefix_append _ _)

namespace IndexRequest

/-- The name starts with another field and an underscore exactly when the field does or is that
field. -/
theorem prefix_name_iff (q : IndexRequest) (field : String) :
    (field ++ "_").toList <+: q.index.name.toList ↔
      q.field = field ∨ (field ++ "_").toList <+: q.field.toList := by
  rw [toList_name_index, String.toList_append,
    ← String.toList_inj]
  exact concat_prefix_append_cons_iff (underscore_not_mem_display q.direction)

end IndexRequest

/-- The index is on a field, or on one whose name goes on after that field with an underscore. The
index on identifiers does not count. -/
def Index.isUnder (field : String) (index : Index) : Bool :=
  index.name != Index.primaryName && (Document.keys index.keys).any fun name =>
    name == field || (field ++ "_").toList.isPrefixOf name.toList

/-- What an index is under can be read off its name. -/
theorem IndexRequest.isUnder_index (q : IndexRequest) (field : String) :
    q.index.isUnder field = (field ++ "_").toList.isPrefixOf q.index.name.toList := by
  rw [Bool.eq_iff_iff, List.isPrefixOf_iff_prefix, prefix_name_iff]
  simp [Index.isUnder, name_index_ne_primaryName]

/-! ## The indexes that there are -/

/-- An index whose name is not taken is put after the others. -/
theorem Store.createIndex_of_new {s : Store} {draft : IndexDraft}
    (hkeys : draft.keys.isEmpty = false)
    (hnew : ∀ index ∈ s.indexes, index.name ≠ draft.toIndex.name) :
    s.createIndex draft =
      .ok (draft.toIndex.name, { s with indexes := s.indexes ++ [draft.toIndex] }) := by
  have hfind : s.indexes.find? (·.name = draft.toIndex.name) = none := by simpa using hnew
  simp only [Store.createIndex, hkeys, hfind, Bool.false_eq_true, if_false]

namespace Model

variable {m : Model} {s : Store}

/-- Asks for indexes one after the other. A request that is refused leaves the others alone. -/
def addIndexes (m : Model) (requests : List IndexRequest) (s : Store) : Store :=
  requests.foldl (fun s q => (m.addIndex q.field q.direction q.unique q.sparse s).2) s

/-- A request is refused, or it puts its index on a known field after the others, none of which has
its name. -/
theorem addIndex_cases (m : Model) (q : IndexRequest) (s : Store) :
    (∃ e, m.addIndex q.field q.direction q.unique q.sparse s = (.error e, s)) ∨
    ((∃ f, m.schema.declared q.field = .ok f) ∧ (∀ index ∈ s.indexes, index.name ≠ q.index.name) ∧
      m.addIndex q.field q.direction q.unique q.sparse s =
        (.ok q.index.name, { s with indexes := s.indexes ++ [q.index] })) := by
  cases hdeclared : m.schema.declared q.field with
  | error e =>
    refine Or.inl ⟨e, ?_⟩
    rw [addIndex, Action.bind_apply, Action.check, hdeclared]
  | ok f =>
    -- on a declared field, only an index of the same name stands in the way
    have hrun : m.addIndex q.field q.direction q.unique q.sparse s =
        (if s.indexes.any (·.name = q.index.name) then throw (.index (.present q.index.name))
          else .atomic (·.createIndex q.draft) : Action String) s := by
      rw [addIndex, Action.check_bind_apply hdeclared]
      rfl
    rw [hrun]
    cases hpresent : s.indexes.any (·.name = q.index.name) with
    | true => exact Or.inl ⟨_, rfl⟩
    | false =>
      have hnew : ∀ index ∈ s.indexes, index.name ≠ q.index.name := by
        simpa using hpresent
      refine Or.inr ⟨⟨f, rfl⟩, hnew, ?_⟩
      rw [if_neg Bool.false_ne_true, Action.atomic, Store.createIndex_of_new rfl hnew]
      rfl

/-- What requests make of the indexes of a collection: the one on identifiers stays, the others are
on known fields, and no two have one name. -/
structure Indexes (m : Model) (indexes : List Index) : Prop where
  primary : Index.primary ∈ indexes
  asked : ∀ index ∈ indexes, index = Index.primary ∨
    ∃ q : IndexRequest, (∃ f, m.schema.declared q.field = .ok f) ∧ index = q.index
  distinct : (indexes.map (·.name)).Nodup

theorem indexes_primary (m : Model) : m.Indexes [Index.primary] where
  primary := List.mem_singleton_self _
  asked := fun _ h => Or.inl (List.mem_singleton.mp h)
  distinct := List.nodup_singleton _

theorem Indexes.addIndex (h : m.Indexes s.indexes) (q : IndexRequest) :
    m.Indexes (m.addIndex q.field q.direction q.unique q.sparse s).2.indexes := by
  rcases addIndex_cases m q s with ⟨e, hrefused⟩ | ⟨hknown, hnew, hadded⟩
  · rw [hrefused]
    exact h
  · rw [hadded]
    constructor
    case primary => exact List.mem_append_left _ h.primary
    case asked =>
      intro index hindex
      rcases List.mem_append.mp hindex with hindex | hindex
      · exact h.asked index hindex
      · exact Or.inr ⟨q, hknown, List.mem_singleton.mp hindex⟩
    case distinct =>
      rw [List.map_append, List.map_singleton]
      refine List.nodup_append.mpr ⟨h.distinct, List.nodup_singleton _, ?_⟩
      rintro name hname _ hother rfl
      obtain ⟨index, hindex, heq⟩ := List.mem_map.mp hname
      exact hnew index hindex (heq.trans (List.mem_singleton.mp hother))

theorem Indexes.addIndexes (h : m.Indexes s.indexes) (requests : List IndexRequest) :
    m.Indexes (m.addIndexes requests s).indexes := by
  induction requests generalizing s with
  | nil => exact h
  | cons q rest ih => exact ih (h.addIndex q)

/-! ## Dropping -/

/-- Indexes are dropped by name when each name is that of an index other than the one on
identifiers, and no name comes twice. -/
theorem forM_dropIndex {names : List String} (hdistinct : names.Nodup)
    (hnames : ∀ name ∈ names, name ≠ Index.primaryName ∧ ∃ index ∈ s.indexes, index.name = name) :
    (names.forM fun name => Action.atomic (·.dropIndex name)) s =
      (.ok (), { s with indexes := s.indexes.filter (·.name ∉ names) }) := by
  induction names generalizing s with
  | nil =>
    have hall : s.indexes.filter (·.name ∉ ([] : List String)) = s.indexes := by simp
    rw [hall]
    rfl
  | cons name rest ih =>
    obtain ⟨hfirst, hrest⟩ := List.nodup_cons.mp hdistinct
    obtain ⟨hother, index, hindex, heq⟩ := hnames name List.mem_cons_self
    let t : Store := { s with indexes := s.indexes.filter (·.name ≠ name) }
    have hdrop : Action.atomic (·.dropIndex name) s = (.ok (), t) := by
      have hany : s.indexes.any (·.name = name) = true :=
        List.any_eq_true.mpr ⟨index, hindex, by simpa using heq⟩
      rw [Action.atomic, Store.dropIndex, if_neg hother, if_pos hany]
    -- the other names are still there, because no name occurs twice
    have hafter := ih (s := t) hrest fun other hmem => by
      obtain ⟨hne, index, hindex, heq⟩ := hnames other (List.mem_cons_of_mem _ hmem)
      refine ⟨hne, index, List.mem_filter.mpr ⟨hindex, ?_⟩, heq⟩
      have : index.name ≠ name := fun h => hfirst (h ▸ heq ▸ hmem)
      simpa using this
    have hboth : (s.indexes.filter (·.name ≠ name)).filter (·.name ∉ rest) =
        s.indexes.filter (·.name ∉ name :: rest) := by
      rw [List.filter_filter]
      refine List.filter_congr fun index _ => ?_
      rw [← Bool.decide_and, decide_eq_decide, List.mem_cons, not_or, and_comm]
    rw [List.forM_eq_forM, List.forM_cons, Action.bind_apply, hdrop]
    dsimp only
    rw [← List.forM_eq_forM, hafter, ← hboth]

/-- The test of the names tells the indexes under a field. -/
theorem Indexes.tells_isUnder {indexes : List Index} (h : m.Indexes indexes) (field : String)
    {index : Index} (hindex : index ∈ indexes) :
    ((field ++ "_").toList.isPrefixOf index.name.toList && index.name != Index.primaryName) =
      index.isUnder field := by
  rcases h.asked index hindex with rfl | ⟨q, -, rfl⟩
  · simp [Index.isUnder, Index.primary]
  · rw [q.isUnder_index, bne_iff_ne.mpr q.name_index_ne_primaryName, Bool.and_true]

/-- The names that are dropped are those of the indexes under the field. -/
theorem Indexes.indexNames_eq {indexes : List Index} (h : m.Indexes indexes) (field : String) :
    indexNames field indexes = (indexes.filter (·.isUnder field)).map (·.name) := by
  rw [indexNames, List.filter_map]
  exact congrArg (List.map _) (List.filter_congr fun _ hindex => h.tells_isUnder field hindex)

theorem Indexes.mem_indexNames_iff {indexes : List Index} (h : m.Indexes indexes) (field : String)
    {index : Index} (hindex : index ∈ indexes) :
    index.name ∈ indexNames field indexes ↔ index.isUnder field = true := by
  rw [← h.tells_isUnder field hindex]
  exact List.mem_filter.trans (and_iff_right (List.mem_map_of_mem hindex))

/-- Without an index under the field there is nothing to drop. -/
theorem Indexes.dropIndex_refused (h : m.Indexes s.indexes) {field : String}
    (hnone : s.indexes.filter (·.isUnder field) = []) :
    m.dropIndex field s = (.error (.index (.noneOfField field)), s) := by
  have hnames : indexNames field s.indexes = [] := by rw [h.indexNames_eq, hnone, List.map_nil]
  change (if (indexNames field s.indexes).isEmpty then throw _ else _ : Action _) s = _
  rw [hnames]
  rfl

/-- The indexes under the field are dropped, and the others are left. -/
theorem Indexes.dropIndex_apply (h : m.Indexes s.indexes) {field : String}
    (hsome : s.indexes.filter (·.isUnder field) ≠ []) :
    m.dropIndex field s =
      (.ok ((s.indexes.filter (·.isUnder field)).map (·.name)),
        { s with indexes := s.indexes.filter fun index => !index.isUnder field }) := by
  have hempty : (indexNames field s.indexes).isEmpty = false := by
    simpa [h.indexNames_eq] using hsome
  have hdistinct : (indexNames field s.indexes).Nodup := h.distinct.filter _
  -- the names are those of indexes, and the primary one is not among them
  have hdropped := forM_dropIndex (s := s) hdistinct fun name hname => by
    obtain ⟨hmem, htest⟩ := List.mem_filter.mp hname
    exact ⟨by simpa using (Bool.and_eq_true_iff.mp htest).2, List.mem_map.mp hmem⟩
  -- what goes by the name is what goes by the first part of the name
  have hleft : s.indexes.filter (·.name ∉ indexNames field s.indexes) =
      s.indexes.filter fun index => !index.isUnder field := by
    refine List.filter_congr fun index hindex => ?_
    rw [decide_not, Bool.not_inj_iff, Bool.eq_iff_iff, decide_eq_true_iff]
    exact h.mem_indexNames_iff field hindex
  change (if (indexNames field s.indexes).isEmpty then throw _ else
    ((indexNames field s.indexes).forM fun name => Action.atomic (·.dropIndex name)) >>= fun _ =>
      pure (indexNames field s.indexes) : Action _) s = _
  rw [hempty, if_neg Bool.false_ne_true, Action.bind_apply, hdropped, hleft, ← h.indexNames_eq]
  rfl

/-- Dropping the indexes of a field, after any requests for indexes on a collection that had the one
on identifiers only. What there is is that index and indexes on known fields, under names of their
own. Where none is under the field the call is refused and changes nothing. Otherwise it takes away
the indexes under the field and answers their names in order, and everything else stays. -/
theorem dropIndex_after_requests (m : Model) (requests : List IndexRequest)
    (documents : List Document) (ids : IdSource) (field : String) :
    let s := m.addIndexes requests { documents, ids }
    m.Indexes s.indexes ∧
    (s.indexes.filter (·.isUnder field) = [] →
      m.dropIndex field s = (.error (.index (.noneOfField field)), s)) ∧
    (s.indexes.filter (·.isUnder field) ≠ [] →
      m.dropIndex field s =
        (.ok ((s.indexes.filter (·.isUnder field)).map (·.name)),
          { s with indexes := s.indexes.filter fun index => !index.isUnder field })) ∧
    Index.primary ∈ s.indexes.filter fun index => !index.isUnder field := by
  intro s
  have h : m.Indexes s.indexes := (indexes_primary m).addIndexes requests
  exact ⟨h, h.dropIndex_refused, h.dropIndex_apply, List.mem_filter.mpr ⟨h.primary, rfl⟩⟩

/-- The index of another field is dropped too when the name of that field goes on with an
underscore. -/
theorem dropIndex_reaches_longer_names :
    ∃ (m : Model) (s : Store),
      SchemaDraft.build
        { collection := "t"
          fields := [{ name := "a", type := .string }, { name := "a_b", type := .string }] } =
        .ok m.schema ∧
      m.schema = ⟨⟨"t"⟩, [{ name := "a", type := .string }, { name := "a_b", type := .string }]⟩ ∧
      s = m.addIndexes [{ field := "a", direction := .ascending },
        { field := "a_b", direction := .ascending }] { ids := ⟨fun _ => ⟨0⟩, 0⟩ } ∧
      s.indexes.map (fun index => (index.name, Document.keys index.keys)) =
        [("_id_", ["_id"]), ("a_1", ["a"]), ("a_b_1", ["a_b"])] ∧
      m.dropIndex "a" s = (.ok ["a_1", "a_b_1"], { s with indexes := [Index.primary] }) := by
  refine ⟨{ schema := ⟨⟨"t"⟩, [{ name := "a", type := .string },
    { name := "a_b", type := .string }]⟩ }, _, rfl, rfl, rfl, ?_, ?_⟩
  · rfl
  · rfl

end Model

end DocMapper
