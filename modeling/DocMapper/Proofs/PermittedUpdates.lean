import DocMapper.Proofs.Conformance
import DocMapper.Proofs.Lowered
import DocMapper.Reconciliation.Basic

namespace DocMapper

/-! # Updates that a schema permits

A permitted update writes values of the declared types to whole fields, adds integers to them, or
writes inside documents. Such an update keeps a conforming document conforming. The updates that
keywords are lowered to are permitted, and so are those planned for instances in normal form.
-/

namespace Schema

variable {s : Schema} {d d' changes : Document} {operator path : String} {v : Value}

/-- The schema permits an operator to write an operand at a path. -/
inductive Permits (s : Schema) (operator : String) : String → Value → Prop
  /-- The identifier, or something inside it. -/
  | id {path : String} {v : Value} (hhead : (Path.ofString path).head = Document.idKey) :
      Permits s operator path v
  /-- A whole field, with a value of its type; what is added to it is an integer. -/
  | whole {f : Field} {v : Value} (hf : f ∈ s.fields) (hv : f.type.Admits v)
      (hinteger : operator = "$inc" → v.isInteger = true) : Permits s operator f.name v
  /-- Something inside a field. -/
  | inside {f : Field} {path : String} {v : Value} (hf : f ∈ s.fields)
      (hhead : (Path.ofString path).head = f.name) (hrest : (Path.ofString path).rest ≠ []) :
      Permits s operator path v

/-- The schema permits every operator of an update at each of its paths. -/
def PermitsAll (s : Schema) (changes : Document) : Prop :=
  ∀ operator fields, (operator, .document fields) ∈ changes → ∀ entry ∈ fields,
    s.Permits operator entry.1 entry.2

/-! ## Permitted updates of conforming documents -/

/-- What an operator writes to a whole field has the type of the field. -/
theorem admits_of_operates (hs : s.WellFormed) {f : Field} (hf : f ∈ s.fields)
    (hd : ∀ w, Document.get? d f.name = some w → f.type.Incrementable w)
    (hv : f.type.Admits v) (hinteger : operator = "$inc" → v.isInteger = true)
    {w : Value} (h : Document.Operates d f.name v operator w) : f.type.Admits w := by
  cases h with
  | set => exact hv
  | inc hsum =>
    rcases Document.increment_eq_ok hsum with ⟨-, rfl⟩ | ⟨old, hold, hadd⟩
    · exact hv
    · rw [Document.getPath?_of_legalName (hs.legal f hf)] at hold
      rcases hd old hold v (hinteger rfl) hv with rfl | hadmits
      · cases hadd
      · exact FieldType.admits_add hadmits hv (hinteger rfl) hadd

theorem applyAt_conforms (hs : s.WellFormed) (hd : s.Conforms d)
    (hp : s.Permits operator path v) (h : Document.applyAt operator d (path, v) = .ok d') :
    s.Conforms d' := by
  obtain ⟨-, u, hoperates, hwrite⟩ := Document.applyAt_eq_ok h
  obtain ⟨w, rfl, hwritten⟩ := Document.write_eq_ok hwrite
  cases hp with
  | id hhead =>
    -- the identifier is no declared field, so its value is free
    rw [hhead]
    refine hd.insert (hd.keys ▸ List.mem_cons_self) fun f hf hname => ?_
    exact absurd hname (hs.name_ne_id hf)
  | whole hf hv hinteger =>
    rename_i f
    rw [(hs.legal f hf).path] at hwritten ⊢
    refine hd.insert (hd.mem_keys hf) fun g hg hname => ?_
    rw [hs.eq_of_name_eq hg hf hname]
    cases hwritten with
    | whole =>
      refine admits_of_operates hs hf (fun w hw _ _ _ => Or.inr ?_) hv hinteger hoperates
      exact hd.values f hf w hw
    | inside hne => exact absurd rfl hne
  | inside hf hhead hrest =>
    rename_i f
    rw [hhead] at hwritten ⊢
    generalize (Path.ofString path).rest = rest at hwritten hrest
    refine hd.insert (hd.mem_keys hf) fun g hg hname => ?_
    rw [hs.eq_of_name_eq hg hf hname]
    -- the field holds a document already, so its type admits the changed one
    obtain ⟨old, hold⟩ := hd.exists_value hf
    have hadmits := hd.values f hf old hold
    cases hwritten with
    | whole => exact absurd rfl hrest
    | inside _ hbefore =>
      obtain ⟨fields, rfl⟩ := hbefore old hold
      exact FieldType.admits_document hadmits _

theorem updated_conforms (hs : s.WellFormed) (hp : s.PermitsAll changes) (hd : s.Conforms d)
    (h : Document.updated d changes = .ok d') : s.Conforms d' := by
  refine Document.updated_induction s.Conforms ?_ hd h
  intro operator fields hfields entry hentry c c' hc happly
  exact applyAt_conforms hs hc (hp operator fields hfields entry hentry) happly

end Schema

/-! ## Updates of keyword arguments -/

namespace Lowering

variable {l : Lowering} {schema : Schema} {kwargs : Document}

/-- A subject permits what passes the check of its type. -/
theorem Addresses.permits (hs : schema.WellFormed) {field : Field} {subject : Subject}
    (hfield : schema.field? field.name = some field) (ha : Addresses field subject)
    {operator : String} {v : Value}
    (hcheck : ∀ type, subject.type? = some type → type.check subject.path v = .ok ())
    (hinteger : operator = "$inc" → v.isInteger = true) :
    schema.Permits operator subject.path v := by
  have hlegal := hs.legal_of_field? hfield
  have hhead := ha.path_head hlegal
  rcases (Schema.field?_eq_some hfield).2 with rfl | hmem
  · exact .id hhead
  · cases ha with
    | whole => exact .whole hmem (FieldType.admits_of_check (hcheck _ rfl)) hinteger
    | inside hne => exact .inside hmem hhead (hlegal.path_intercalate hne).2

/-- What a keyword argument writes is permitted. -/
theorem Writes.permits (hl : l.schema? = some schema) (hs : schema.WellFormed)
    {operator path : String} {v : Value} (h : l.Writes kwargs operator path v) :
    schema.Permits operator path v := by
  cases h with
  | set hgiven hw =>
    obtain ⟨⟨entry, -, k, -, hsubject⟩, -⟩ := hgiven.onPath
    obtain ⟨field, hfield, ha⟩ := addresses_of_subject hl hsubject
    exact ha.permits hs hfield (Subject.accept_eq_ok hw).2 fun h => absurd h (by decide)
  | inc hgiven hw =>
    obtain ⟨⟨entry, -, k, -, hsubject⟩, -⟩ := hgiven.onPath
    obtain ⟨field, hfield, ha⟩ := addresses_of_subject hl hsubject
    obtain ⟨rfl, hinteger, hcheck⟩ := Subject.increment_eq_ok hw
    exact ha.permits hs hfield hcheck fun _ => hinteger

/-- The update of keyword arguments is permitted. -/
theorem update_permitted (hl : l.schema? = some schema) (hs : schema.WellFormed)
    {change : ScopedUpdate} (h : l.update kwargs = .ok change) :
    schema.PermitsAll change.update := by
  intro operator fields hmem entry hentry
  obtain ⟨-, fields', heq, -, hwrites⟩ := writes_of_update h _ hmem
  cases heq
  exact (hwrites entry hentry).permits hl hs

end Lowering

/-! ## Planned updates -/

namespace Document

/-- Picked entries are entries of the document. -/
theorem get?_of_mem_pick {d : Document} {keys : List String} {entry : String × Value}
    (h : entry ∈ pick d keys) : get? d entry.1 = some entry.2 := by
  have hentries : entry ∈ keys.filterMap fun key => (get? d key).map fun value => (key, value) :=
    (mem_of_mem_insertAll h).resolve_right List.not_mem_nil
  obtain ⟨key, -, hkey⟩ := List.mem_filterMap.mp hentries
  obtain ⟨v, hv, rfl⟩ := Option.map_eq_some_iff.mp hkey
  exact hv

/-- The picked keys that are there. -/
theorem mem_keys_pick {d : Document} {names : List String} {name : String} :
    name ∈ keys (pick d names) ↔ name ∈ names ∧ name ∈ keys d := by
  let entries := names.filterMap fun key => (get? d key).map fun value => (key, value)
  have hentries : name ∈ keys entries ↔ name ∈ names ∧ name ∈ keys d := by
    constructor
    · intro h
      obtain ⟨v, hv⟩ := exists_of_mem_keys h
      obtain ⟨key, hkey, hentry⟩ := List.mem_filterMap.mp hv
      obtain ⟨w, hw, heq⟩ := Option.map_eq_some_iff.mp hentry
      cases heq
      exact ⟨hkey, mem_keys_of_mem (mem_of_get?_eq_some hw)⟩
    · rintro ⟨hname, hkey⟩
      obtain ⟨v, hv⟩ := exists_get?_of_mem_keys hkey
      have hentry : (name, v) ∈ entries :=
        List.mem_filterMap.mpr ⟨name, hname, by rw [hv, Option.map_some]⟩
      exact mem_keys_of_mem hentry
  exact mem_keys_insertAll.trans ((or_iff_right List.not_mem_nil).trans hentries)

end Document

namespace Schema

variable {s : Schema} {d : Document}

/-- Setting entries of a described document is permitted. -/
theorem permitsAll_setting (hd : s.Describes d) (index : Nat) (id : Value)
    {fields : Document} (h : ∀ entry ∈ fields, Document.get? d entry.1 = some entry.2) :
    s.PermitsAll (PlannedUpdate.setting index id fields).update := by
  intro operator fields' hmem entry hentry
  cases List.mem_singleton.mp hmem
  have hget := h entry hentry
  -- the identifier may be among the entries, and the store compares it when it is set
  by_cases hid : entry.1 = Document.idKey
  · exact .id (by rw [hid, LegalName.id.path])
  · obtain ⟨f, hf, hname⟩ := hd.mem_fields (Document.mem_of_get?_eq_some hget) hid
    rw [← hname] at hget ⊢
    exact .whole hf (hd.values f hf _ hget) fun h => absurd h (by decide)

theorem permitsAll_setting_pick (hd : s.Describes d) (index : Nat) (id : Value)
    (keys : List String) :
    s.PermitsAll (PlannedUpdate.setting index id (Document.pick d keys)).update :=
  permitsAll_setting hd index id fun _ hentry => Document.get?_of_mem_pick hentry

/-- The fields that reconciliation sets are entries of the instance. -/
theorem Describes.get?_of_mem_written (hs : s.WellFormed) (hd : s.Describes d) {r : Reconciler}
    {entry : String × Value} (h : entry ∈ r.written d) :
    Document.get? d entry.1 = some entry.2 := by
  unfold Reconciler.written at h
  split at h
  · exact Document.get?_of_mem_pick h
  · have hnodup : (Document.keys (Document.erase d Document.idKey)).Nodup := by
      rw [hd.names]
      exact hs.distinct
    have hne : entry.1 ≠ Document.idKey := by
      intro he
      have hmem := Document.mem_keys_of_mem h
      rw [he] at hmem
      exact Document.not_mem_keys_erase d Document.idKey hmem
    rw [← Document.get?_erase_of_ne hne]
    exact (Document.get?_eq_some_iff hnodup).mpr h

theorem Describes.nodup_keys_written (hs : s.WellFormed) (hd : s.Describes d) (r : Reconciler) :
    (Document.keys (r.written d)).Nodup := by
  unfold Reconciler.written
  split
  · exact Document.nodup_keys_insertAll (d := []) List.nodup_nil _
  · rw [hd.names]
    exact hs.distinct

theorem permitsAll_setting_written (hs : s.WellFormed) (hd : s.Describes d) (index : Nat)
    (id : Value) (r : Reconciler) :
    s.PermitsAll (PlannedUpdate.setting index id (r.written d)).update :=
  permitsAll_setting hd index id fun _ => hd.get?_of_mem_written hs

end Schema

end DocMapper
