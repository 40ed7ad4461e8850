import DocMapper.Proofs.Confinement
import DocMapper.Proofs.Conjunction
import DocMapper.Proofs.PermittedUpdates
import DocMapper.Proofs.Seeds
import DocMapper.Proofs.SelectedUpdates
import DocMapper.Proofs.Stores

namespace DocMapper

/-! # Fields that an upsert supplies

An upsert by keyword arguments creates its document out of what the filter fixes and the update
writes. Nothing completes the document: a field that is neither fixed nor written is missing, and
its default with it. What is written has the type of its field, even where it is added to what was
fixed before; what is fixed may be null, or an item in place of a list.
-/

/-- A lowered update supplies a field: it writes the field or something inside it, or its filter
fixes the field or something inside it, and a value fixed for all of it is of its type. -/
def ScopedUpdate.Supplies (change : ScopedUpdate) (f : Field) : Prop :=
  (∃ path ∈ Document.writtenPaths change.update, (Path.ofString path).head = f.name) ∨
    (∃ entry ∈ Document.fixedValues change.filter, (Path.ofString entry.1).head = f.name) ∧
      ∀ v, (f.name, v) ∈ Document.fixedValues change.filter → f.type.Admits v

/-- Additions can be made to whatever a document has for the field. -/
def Field.IncrementableIn (f : Field) (d : Document) : Prop :=
  ∀ v, Document.get? d f.name = some v → f.type.Incrementable v

theorem Field.TypedIn.incrementableIn {f : Field} {d : Document} (h : f.TypedIn d) :
    f.IncrementableIn d := by
  obtain ⟨v, hv, hadmits⟩ := h
  intro w hw _ _ _
  rw [hv, Option.some.injEq] at hw
  exact Or.inr (hw ▸ hadmits)

namespace Lowering

variable {l : Lowering} {schema : Schema} {kwargs filter seed : Document} {f : Field}
  {path operator : String} {v : Value} {change : ScopedUpdate}

/-! ## Types of what is fixed -/

theorem nodup_keys_of_filter (hl : l.schema? = some schema) (hs : schema.WellFormed)
    (h : l.filter kwargs = .ok filter) : (Document.keys filter).Nodup := by
  rw [← (filter_eq_ok.mp h).2, FilterDraft.keys_toDocument]
  exact (conditions_proper hl hs h).distinct

/-- What is compared with a whole field goes together with additions to it. -/
theorem incrementable_of_comparand (hl : l.schema? = some schema) (hs : schema.WellFormed)
    (hf : f ∈ schema.fields) {s : Subject} (hsubject : l.OnPath kwargs f.name s) {w : Value}
    (hw : s.comparand v = .ok w) : f.type.Incrementable w := by
  obtain ⟨⟨entry, -, k, -, hfinds⟩, hpath⟩ := hsubject
  obtain ⟨field, hfield, haddresses⟩ := addresses_of_subject hl hfinds
  have hlegal := hs.legal_of_field? hfield
  have hname : field.name = f.name := by
    rw [← haddresses.path_head hlegal, hpath, (hs.legal f hf).path]
  rw [hname, hs.field?_of_mem hf, Option.some.injEq] at hfield
  cases haddresses with
  | whole =>
    have hcheck := (Subject.accept_eq_ok hw).2 field.type rfl
    exact hfield ▸ FieldType.incrementable_of_checkOperand hcheck
  | inside hne =>
    have hrest := (hlegal.path_intercalate hne).2
    dsimp only at hpath
    rw [hpath, (hs.legal f hf).path] at hrest
    exact absurd rfl hrest

/-- What a filter fixes for a whole field goes together with additions to it. -/
theorem incrementable_of_fixed (hl : l.schema? = some schema) (hs : schema.WellFormed)
    (hf : f ∈ schema.fields) (h : l.filter kwargs = .ok filter)
    (hv : (f.name, v) ∈ Document.fixedValues filter) : f.type.Incrementable v := by
  obtain ⟨condition, hmem, -, hfixed⟩ := Document.mem_fixedValues.mp hv
  obtain ⟨c, hc, rfl⟩ := lowered_of_filter h _ hmem
  cases hequal : c.equal? with
  | none =>
    -- operators alone fix nothing, since equality is none of them
    have hoperators := Conditions.isOperators_of_proper hc.toProper (hc.nonempty hequal)
    simp only [Conditions.toValue, hequal, Value.fixed?, hoperators, if_true] at hfixed
    have hkey := Document.mem_keys_of_mem (Document.mem_of_get?_eq_some hfixed)
    exact absurd rfl (hc.plain _ hkey).2
  | some w =>
    obtain ⟨s, u, hgiven, -, hw⟩ := hc.equal w hequal
    have hincrementable := incrementable_of_comparand hl hs hf hgiven.onPath hw
    by_cases hnil : c.operators = []
    · have hvalue : c.toValue = w := by simp [Conditions.toValue, hequal, hnil]
      rw [hvalue] at hfixed
      rcases Value.fixed?_cases hfixed with rfl | ⟨fields, rfl⟩
      · exact hincrementable
      -- a type that takes integers and documents takes whatever stands in the document
      · intro a hinteger ha
        rcases hincrementable a hinteger ha with hnull | hdocument
        · cases hnull
        · exact Or.inr (FieldType.admits_of_admits_integer_document ha hinteger hdocument v)
    · rw [Conditions.toValue_of_equal hc.toProper hequal hnil] at hfixed
      have hoperators : (Value.document (("$eq", w) :: c.operators)).isOperators = true := rfl
      simp only [Value.fixed?, hoperators, if_true, Document.get?_cons_self] at hfixed
      exact Option.some.inj hfixed ▸ hincrementable

/-- Something is fixed inside a field only if the field accepts nested paths. -/
theorem isMapping_of_fixed (hl : l.schema? = some schema) (hs : schema.WellFormed)
    (hf : f ∈ schema.fields) (h : l.filter kwargs = .ok filter) {entry : String × Value}
    (hentry : entry ∈ Document.fixedValues filter)
    (hhead : (Path.ofString entry.1).head = f.name) (hrest : (Path.ofString entry.1).rest ≠ []) :
    f.type.isMapping = true := by
  obtain ⟨condition, hmem, -, -⟩ := Document.mem_fixedValues.mp hentry
  obtain ⟨-, field, hreaches, -⟩ := reaches_of_filter hl hs h (Document.mem_keys_of_mem hmem)
  exact hreaches.isMapping hs hf hhead hrest

/-! ## Types of what is written -/

/-- Whatever a field holds that additions can be made to, it holds a value of its type after an
operator has written to it or inside it. -/
theorem typedIn_of_step (hl : l.schema? = some schema) (hs : schema.WellFormed)
    (hf : f ∈ schema.fields) (hwrites : l.Writes kwargs operator path v)
    (hhead : (Path.ofString path).head = f.name) {d d' : Document} (hd : f.IncrementableIn d)
    (h : Document.applyAt operator d (path, v) = .ok d') : f.TypedIn d' := by
  obtain ⟨-, u, hoperates, hwrite⟩ := Document.applyAt_eq_ok h
  rcases Document.write_cases hwrite with ⟨hrest, hget⟩ | ⟨hrest, ⟨inner, hget⟩, -⟩
  · have hpath : path = f.name := (Path.head_of_rest_eq_nil hrest).symm.trans hhead
    refine ⟨u, hpath ▸ hget, ?_⟩
    cases hwrites.permits hl hs with
    | id hid => exact absurd (hhead.symm.trans hid) (hs.name_ne_id hf)
    | whole hg hv hinteger =>
      cases hs.eq_of_name_eq hg hf hpath
      exact Schema.admits_of_operates hs hf hd hv hinteger hoperates
    | inside _ _ hinside => exact absurd hrest hinside
  · obtain ⟨field, hreaches⟩ := hwrites.reaches hl hs
    have hmapping := hreaches.isMapping hs hf hhead hrest
    exact ⟨.document inner, hhead ▸ hget, FieldType.admits_document_of_isMapping hmapping inner⟩

/-! ## The document that is created -/

/-- The keys of a created document are the identifier's and those of declared fields. -/
theorem known_of_upserted (hl : l.schema? = some schema) (hs : schema.WellFormed)
    (h : l.update kwargs = .ok change) {d : Document}
    (hd : Document.upserted change.filter change.update = .ok d) {key : String}
    (hkey : key ∈ Document.keys d) : key = Document.idKey ∨ key ∈ schema.fieldNames := by
  obtain ⟨seed, hseed, hupdated⟩ := bind_eq_ok.mp hd
  rw [Document.fixedBy_eq] at hseed
  rw [Document.writesAt_applyAt.mem_keys (Document.updated_eq_ok hupdated),
    Document.writesAt_write.mem_keys hseed] at hkey
  rcases hkey with (hnone | ⟨entry, hentry, rfl⟩) | ⟨step, hstep, rfl⟩
  · cases hnone
  · obtain ⟨condition, hmem, -, -⟩ := Document.mem_fixedValues.mp hentry
    obtain ⟨-, field, hreaches, -⟩ :=
      reaches_of_filter hl hs (filter_selecting h) (Document.mem_keys_of_mem hmem)
    exact Schema.known_of_field? hreaches.known
  · obtain ⟨field, hreaches⟩ := (writes_of_mem_steps h hstep).reaches hl hs
    exact Schema.known_of_field? hreaches.known

theorem nodup_keys_of_upserted {update d : Document}
    (hd : Document.upserted filter update = .ok d) : (Document.keys d).Nodup := by
  obtain ⟨seed, hseed, hupdated⟩ := bind_eq_ok.mp hd
  rw [Document.fixedBy_eq] at hseed
  have hempty : (Document.keys []).Nodup := List.nodup_nil
  exact Document.writesAt_applyAt.nodup_keys
    (Document.writesAt_write.nodup_keys hempty hseed) (Document.updated_eq_ok hupdated)

/-- A field that an update writes has a value of its type afterwards, if additions can be made to
what it had before. -/
theorem typedIn_of_written (hl : l.schema? = some schema) (hs : schema.WellFormed)
    (hf : f ∈ schema.fields) (h : l.update kwargs = .ok change) {d : Document}
    (hseed : f.IncrementableIn seed) (hd : Document.updated seed change.update = .ok d)
    (hwritten : ∃ path ∈ Document.writtenPaths change.update, (Path.ofString path).head = f.name) :
    f.TypedIn d := by
  obtain ⟨path, hpath, hhead⟩ := hwritten
  obtain ⟨step, hstep, rfl⟩ := List.mem_map.mp hpath
  -- a step at the field gives it a value of its type, and a step elsewhere leaves it as it is
  have hhere : ∀ step ∈ Document.steps change.update, ∀ c c', f.IncrementableIn c →
      Document.applyAt step.1 c step.2 = .ok c' → (Path.ofString step.2.1).head = f.name →
        f.TypedIn c' := by
    intro step hmem c c' hc happly hhead
    exact typedIn_of_step hl hs hf (writes_of_mem_steps h hmem) hhead hc happly
  have helsewhere : ∀ (step : String × String × Value) c c',
      Document.applyAt step.1 c step.2 = .ok c' → (Path.ofString step.2.1).head ≠ f.name →
        Document.get? c' f.name = Document.get? c f.name := by
    intro step c c' happly hhead
    obtain ⟨v, hwrite⟩ := Document.writesAt_applyAt step c c' happly
    exact Document.get?_of_write hwrite hhead
  have hinv : ∀ step ∈ Document.steps change.update, ∀ c c', f.IncrementableIn c →
      Document.applyAt step.1 c step.2 = .ok c' → f.IncrementableIn c' := by
    intro step hmem c c' hc happly
    by_cases hhead : (Path.ofString step.2.1).head = f.name
    · exact (hhere step hmem c c' hc happly hhead).incrementableIn
    · intro v hv
      exact hc v (by rw [← helsewhere step c c' happly hhead, hv])
  have hkeep : ∀ step ∈ Document.steps change.update, ∀ other ∈ Document.steps change.update,
      ∀ c c', ((Path.ofString step.2.1).head = f.name → f.TypedIn c) →
        Document.applyAt other.1 c other.2 = .ok c' →
          (Path.ofString step.2.1).head = f.name → f.TypedIn c' := by
    intro step _ other hmem c c' htyped happly hhead
    by_cases hother : (Path.ofString other.2.1).head = f.name
    · exact hhere other hmem c c' (htyped hhead).incrementableIn happly hother
    · obtain ⟨v, hv, hadmits⟩ := htyped hhead
      exact ⟨v, by rw [helsewhere other c c' happly hother, hv], hadmits⟩
  have hall := foldlM_each_of f.IncrementableIn
    (fun (step : String × String × Value) c =>
      (Path.ofString step.2.1).head = f.name → f.TypedIn c)
    hinv hhere hkeep hseed (Document.updated_eq_ok hd)
  exact hall step hstep hhead

/-- A created document has a value of its type for a declared field exactly when the field is
supplied. -/
theorem typedIn_upserted_iff (hl : l.schema? = some schema) (hs : schema.WellFormed)
    (hf : f ∈ schema.fields) (h : l.update kwargs = .ok change) {d : Document}
    (hd : Document.upserted change.filter change.update = .ok d) :
    f.TypedIn d ↔ change.Supplies f := by
  obtain ⟨seed, hseed, hupdated⟩ := bind_eq_ok.mp hd
  have hfilter := filter_selecting h
  have hinside : ∀ entry ∈ Document.fixedValues change.filter,
      (Path.ofString entry.1).head = f.name → (Path.ofString entry.1).rest ≠ [] →
        ∀ inner, f.type.Admits (.document inner) := by
    intro entry hentry hhead hrest inner
    have hmapping := isMapping_of_fixed hl hs hf hfilter hentry hhead hrest
    exact FieldType.admits_document_of_isMapping hmapping inner
  have hfixed : f.name ∈ Document.keys seed ↔
      ∃ entry ∈ Document.fixedValues change.filter, (Path.ofString entry.1).head = f.name := by
    have hrun := hseed
    rw [Document.fixedBy_eq] at hrun
    simp [Document.writesAt_write.mem_keys hrun]
  have hincrementable : f.IncrementableIn seed :=
    Document.fixedBy_induction f.type.Incrementable
      (fun v hv => incrementable_of_fixed hl hs hf hfilter hv)
      (fun entry hentry hhead hrest inner _ _ _ => Or.inr (hinside entry hentry hhead hrest inner))
      hseed
  have hwritten := typedIn_of_written hl hs hf h hincrementable hupdated
  -- a field that is not written is what the filter fixes
  have hkept : (¬ ∃ path ∈ Document.writtenPaths change.update,
      (Path.ofString path).head = f.name) →
        Document.get? d f.name = Document.get? seed f.name := by
    intro hnone
    refine Document.writesAt_applyAt.get?_of_ne (fun step hstep hhead => ?_)
      (Document.updated_eq_ok hupdated)
    exact hnone ⟨_, List.mem_map_of_mem hstep, hhead⟩
  constructor
  · rintro ⟨v, hv, hadmits⟩
    refine or_iff_not_imp_left.mpr fun hnone => ?_
    rw [hkept hnone] at hv
    refine ⟨hfixed.mp (Document.mem_keys_of_mem (Document.mem_of_get?_eq_some hv)), ?_⟩
    intro w hw
    -- a value of another type would not be a document, so nothing inside could replace it
    by_contra hnot
    have hdocument : ∀ entry ∈ Document.fixedValues change.filter,
        (Path.ofString entry.1).head = f.name → (Path.ofString entry.1).rest ≠ [] →
          ∀ fields, w ≠ .document fields := by
      rintro entry hentry hhead hrest fields rfl
      exact hnot (hinside entry hentry hhead hrest fields)
    have hget := Document.get?_of_mem_fixedValues (hs.legal f hf)
      (nodup_keys_of_filter hl hs hfilter) hdocument hw hseed
    rw [hv, Option.some.injEq] at hget
    exact hnot (hget ▸ hadmits)
  · intro hsupplies
    by_cases hsome : ∃ path ∈ Document.writtenPaths change.update,
        (Path.ofString path).head = f.name
    · exact hwritten hsome
    obtain ⟨hexists, hall⟩ := hsupplies.resolve_left hsome
    obtain ⟨v, hv⟩ := Document.exists_get?_of_mem_keys (hfixed.mpr hexists)
    refine ⟨v, by rw [hkept hsome, hv], ?_⟩
    exact Document.fixedBy_induction f.type.Admits hall hinside hseed v hv

end Lowering

namespace Model

variable {m : Model} {kwargs : Document} {options : ReadOptions} {upsert : Bool} {s s' : Store}
  {answer : Except Error (Option Document)}

/-! ## Upserts -/

/-- Reading the answer of a call leaves the store alone. -/
theorem decodeOption_store (m : Model) (found : Option Document) (s : Store) :
    (m.decodeOption found s).2 = s := by
  cases found with
  | none => rfl
  | some d =>
    rw [decodeOption, Action.bind_apply, Action.check]
    cases m.decode d <;> rfl

/-- The call updates one document by what its keyword arguments are lowered to, and reads the
answer as an instance. -/
theorem findOneAndUpdate_eq {change : ScopedUpdate}
    (hchange : m.lowering.update kwargs = .ok change) (s : Store) :
    m.findOneAndUpdate kwargs options upsert s =
      match s.modifyOne change.filter options.ordered upsert (Document.updated · change.update)
        (Document.upserted change.filter change.update) with
      | .ok (found, t) => m.decodeOption found t
      | .error e => (.error e, s) := by
  rw [findOneAndUpdate, Action.check_bind_apply hchange, Action.bind_apply, Action.atomic,
    Store.findOneAndUpdate, Lowering.requireOperators_of_update hchange, ok_bind]
  cases s.modifyOne change.filter options.ordered upsert (Document.updated · change.update)
    (Document.upserted change.filter change.update) <;> rfl

/-- A call that leaves more or fewer documents has updated one, or created one. -/
theorem modifyOne_of_findOneAndUpdate
    (h : m.findOneAndUpdate kwargs options upsert s = (answer, s'))
    (hmore : s'.documents.length ≠ s.documents.length) :
    ∃ change found, m.lowering.update kwargs = .ok change ∧
      s.modifyOne change.filter options.ordered upsert (Document.updated · change.update)
        (Document.upserted change.filter change.update) = .ok (found, s') := by
  cases hchange : m.lowering.update kwargs with
  | error e =>
    rw [findOneAndUpdate, Action.bind_apply, Action.check, hchange] at h
    cases h
    exact absurd rfl hmore
  | ok change =>
    rw [findOneAndUpdate_eq hchange] at h
    split at h
    · rename_i found t hmodify
      have hstore : t = s' := (m.decodeOption_store found t).symm.trans (congrArg Prod.snd h)
      exact ⟨change, found, rfl, hstore ▸ hmodify⟩
    · cases h
      exact absurd rfl hmore

/-- A document that an upsert adds was created from the filter and the changes of its keyword
arguments, and then got its identifier. -/
theorem upserted_of_findOneAndUpdate {d : Document}
    (h : m.findOneAndUpdate kwargs options upsert s = (answer, s'))
    (hadded : s'.documents = s.documents ++ [d]) :
    ∃ change created id, m.lowering.update kwargs = .ok change ∧
      Document.upserted change.filter change.update = .ok created ∧
      d = (Document.idKey, id) :: Document.erase created Document.idKey := by
  have hmore : s'.documents.length ≠ s.documents.length := by
    rw [hadded, List.length_append]
    simp
  obtain ⟨change, found, hchange, hmodify⟩ := modifyOne_of_findOneAndUpdate h hmore
  -- of what a call can do to the store, only the insertion makes it longer
  rcases Store.modifyOne_eq_ok hmodify with
    ⟨i, old, next, -, -, rfl⟩ | ⟨-, created, id, hcreate, hinsert⟩ | ⟨-, rfl⟩
  · exact absurd List.length_set hmore
  · have hdocuments := (Store.insert_eq_ok hinsert).documents
    rw [hadded, List.append_cancel_left_eq, List.cons.injEq] at hdocuments
    exact ⟨change, created, id, hchange, hcreate, hdocuments.1⟩
  · exact absurd rfl hmore

/-- An upsert whose filter selects nothing inserts what it creates, and answers what it then finds
under the identifier. -/
theorem findOneAndUpdate_of_select_nil {change : ScopedUpdate} {created : Document} {id : Value}
    (hchange : m.lowering.update kwargs = .ok change)
    (hselect : Document.select change.filter s.documents = .ok [])
    (hcreated : Document.upserted change.filter change.update = .ok created)
    (hinsert : s.insert created = .ok (id, s')) :
    m.findOneAndUpdate kwargs options true s =
      m.decodeOption ((s'.documents.find? (Document.hasId id)).map
        (Document.shaped options.ordered)) s' := by
  have htarget : Document.target change.filter options.ordered s.documents = .ok none := by
    rw [Document.target, Document.find, hselect]
    simp only [ok_bind, Document.sortBy, ReadOptions.single, ReadOptions.ordered,
      List.mergeSort_nil, Document.page, List.drop_nil]
    rfl
  have hmodify : s.modifyOne change.filter options.ordered true (Document.updated · change.update)
      (Document.upserted change.filter change.update) =
      .ok ((s'.documents.find? (Document.hasId id)).map (Document.shaped options.ordered), s') := by
    simp only [Store.modifyOne, htarget, ok_bind, hcreated, hinsert]
    rfl
  rw [findOneAndUpdate_eq hchange, hmodify]

/-- The schema accepts a document that an upsert adds exactly when the keyword arguments supply
every declared field, those with a default and those that may be null among them. -/
theorem upserted_is_accepted_iff {draft : SchemaDraft} (hbuild : draft.build = .ok m.schema)
    {d : Document} (h : m.findOneAndUpdate kwargs options upsert s = (answer, s'))
    (hadded : s'.documents = s.documents ++ [d]) :
    ∃ change, m.lowering.update kwargs = .ok change ∧
      (m.schema.Accepts d ↔ ∀ f ∈ m.schema.fields, change.Supplies f) := by
  have hs := SchemaDraft.build_wellFormed hbuild
  obtain ⟨change, created, id, hchange, hcreated, rfl⟩ := upserted_of_findOneAndUpdate h hadded
  refine ⟨change, hchange, ?_⟩
  have hnodup : (Document.keys ((Document.idKey, id) ::
      Document.erase created Document.idKey)).Nodup := by
    rw [Document.keys_cons, List.nodup_cons]
    refine ⟨Document.not_mem_keys_erase created _, ?_⟩
    exact (Lowering.nodup_keys_of_upserted hcreated).sublist
      (List.filter_sublist.map Prod.fst)
  have hkeys : ∀ key ∈ Document.keys ((Document.idKey, id) ::
      Document.erase created Document.idKey),
        key = Document.idKey ∨ key ∈ m.schema.fieldNames := by
    intro key hkey
    rcases List.mem_cons.mp hkey with rfl | hkey
    · exact Or.inl rfl
    · exact Lowering.known_of_upserted rfl hs hchange hcreated (Document.mem_keys_erase.mp hkey).2
  rw [Schema.accepts_iff hs hnodup, and_iff_right hkeys]
  refine forall₂_congr fun f hf => ?_
  -- the identifier is no declared field
  have hne := hs.name_ne_id hf
  rw [← Lowering.typedIn_upserted_iff rfl hs hf hchange hcreated, Field.TypedIn, Field.TypedIn,
    Document.get?_cons_of_ne hne.symm, Document.get?_erase_of_ne hne]

/-- The theorem at an upsert that fixes one field and sets the other: the schema accepts the
document, though its fields stand in another order. -/
theorem upserted_is_accepted_in_other_order :
    ∃ (m : Model) (s s' : Store) (answer : Except Error (Option Document)) (d : Document),
      m.schema.fields = [{ name := "name", type := .string }, { name := "n", type := .int }] ∧
      m.findOneAndUpdate [("n", .int32 1), ("name__set", .string "a")] {} true s = (answer, s') ∧
      s.documents = [] ∧ s'.documents = [d] ∧
      d = [("_id", .objectId ⟨0⟩), ("n", .int32 1), ("name", .string "a")] ∧
      m.schema.Accepts d := by
  let m : Model := { schema := ⟨⟨"t"⟩,
    [{ name := "name", type := .string }, { name := "n", type := .int }]⟩ }
  have hbuild : SchemaDraft.build
      { collection := "t"
        fields := [{ name := "name", type := .string }, { name := "n", type := .int }] } =
      .ok m.schema := rfl
  let s : Store := { ids := ⟨fun _ => ⟨0⟩, 0⟩ }
  let s' : Store :=
    { documents := [[("_id", .objectId ⟨0⟩), ("n", .int32 1), ("name", .string "a")]]
      ids := ⟨fun _ => ⟨0⟩, 1⟩ }
  have hchange : m.lowering.update [("n", .int32 1), ("name__set", .string "a")] =
      .ok { filter := [("n", .int32 1)],
            update := [("$set", .document [("name", .string "a")])] } := rfl
  have hinsert : s.insert [("n", .int32 1), ("name", .string "a")] = .ok (.objectId ⟨0⟩, s') := rfl
  have hcall : m.findOneAndUpdate [("n", .int32 1), ("name__set", .string "a")] {} true s =
      (.ok (some [("_id", .objectId ⟨0⟩), ("n", .int32 1), ("name", .string "a")]), s') :=
    (findOneAndUpdate_of_select_nil hchange rfl rfl hinsert).trans rfl
  obtain ⟨change, hsame, haccepts⟩ := upserted_is_accepted_iff hbuild hcall rfl
  rw [hchange, Except.ok.injEq] at hsame
  subst hsame
  -- `name` is given by the update, `n` by the filter
  refine ⟨m, s, _, _, _, rfl, hcall, rfl, rfl, rfl, haccepts.mpr fun f hf => ?_⟩
  rcases List.mem_pair.mp hf with rfl | rfl
  · exact Or.inl ⟨"name", List.mem_cons_self, rfl⟩
  · refine Or.inr ⟨⟨("n", .int32 1), List.mem_cons_self, rfl⟩, fun v hv => ?_⟩
    cases List.mem_singleton.mp hv
    exact fun _ => rfl

/-- An upsert that supplies all fields but one with a default creates a document without it, which
the schema does not accept: the default is missing. -/
theorem upsert_leaves_default_out :
    ∃ (m : Model) (s s' : Store) (answer : Except Error (Option Document)) (d : Document),
      SchemaDraft.build
        { collection := "t"
          fields := [{ name := "name", type := .string }, { name := "note", type := .string },
            { name := "stars", type := .int, default? := some (.int32 0) }] } = .ok m.schema ∧
      m.findOneAndUpdate [("name", .string "a"), ("note__set", .string "x")] {} true s =
        (answer, s') ∧
      s.documents = [] ∧ s'.documents = [d] ∧
      d = [("_id", .objectId ⟨0⟩), ("name", .string "a"), ("note", .string "x")] ∧
      m.schema.normalize d = .ok [("_id", .objectId ⟨0⟩), ("name", .string "a"),
        ("note", .string "x"), ("stars", .int32 0)] ∧
      ¬ m.schema.Accepts d := by
  let m : Model := { schema := ⟨⟨"t"⟩,
    [{ name := "name", type := .string }, { name := "note", type := .string },
      { name := "stars", type := .int, default? := some (.int32 0) }]⟩ }
  let s : Store := { ids := ⟨fun _ => ⟨0⟩, 0⟩ }
  let s' : Store :=
    { documents := [[("_id", .objectId ⟨0⟩), ("name", .string "a"), ("note", .string "x")]]
      ids := ⟨fun _ => ⟨0⟩, 1⟩ }
  have hchange : m.lowering.update [("name", .string "a"), ("note__set", .string "x")] =
      .ok { filter := [("name", .string "a")],
            update := [("$set", .document [("note", .string "x")])] } := rfl
  have hinsert : s.insert [("name", .string "a"), ("note", .string "x")] =
      .ok (.objectId ⟨0⟩, s') := rfl
  have hcall : m.findOneAndUpdate [("name", .string "a"), ("note__set", .string "x")] {} true s =
      (.ok (some [("_id", .objectId ⟨0⟩), ("name", .string "a"), ("note", .string "x")]), s') :=
    (findOneAndUpdate_of_select_nil hchange rfl rfl hinsert).trans rfl
  have hnormal : m.schema.normalize
      [("_id", .objectId ⟨0⟩), ("name", .string "a"), ("note", .string "x")] =
      .ok [("_id", .objectId ⟨0⟩), ("name", .string "a"), ("note", .string "x"),
        ("stars", .int32 0)] := rfl
  refine ⟨m, s, _, _, _, rfl, hcall, rfl, rfl, rfl, hnormal, ?_⟩
  -- the normal form has a field more, whatever the order
  rintro ⟨d', hd', hperm⟩
  rw [hnormal, Except.ok.injEq] at hd'
  have hlength := hperm.length_eq
  rw [← hd'] at hlength
  exact absurd hlength (by decide)

end Model

end DocMapper
