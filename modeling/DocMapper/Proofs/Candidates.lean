import DocMapper.Proofs.Matching
import DocMapper.Proofs.Projections
import DocMapper.Proofs.Schemas
import DocMapper.Proofs.Selection
import DocMapper.Reconciliation.Execution

namespace DocMapper

/-! # Reading the candidates of a batch

Reconciliation reads through a filter and a projection. The filter selects the documents that some
instance asks for, where instances with one key ask once. The projection keeps everything that keys
are made of. So the plan of a batch is the plan for the selected documents, whole.
-/

/-- Looking for a first value in a part of a list, where the rest has none. -/
theorem findSome?_filter_eq {α β : Type} {f g : α → Option β} {p : α → Bool} {l : List α}
    (h : ∀ a ∈ l, (p a = true → f a = g a) ∧ (p a = false → g a = none)) :
    (l.filter p).findSome? f = l.findSome? g := by
  induction l with
  | nil => rfl
  | cons a rest ih =>
    have hrest := ih fun b hb => h b (List.mem_cons_of_mem _ hb)
    rw [List.filter_cons, List.findSome?_cons]
    cases hp : p a with
    | true => rw [if_pos rfl, List.findSome?_cons, (h a List.mem_cons_self).1 hp, hrest]
    | false => rw [if_neg Bool.false_ne_true, (h a List.mem_cons_self).2 hp, hrest]

/-- A list of lookups succeeds when each of them does. -/
theorem mapM_eq_some {α β : Type} {f : α → Option β} {l : List α} {bs : List β} :
    l.mapM f = some bs ↔ l.map f = bs.map some := by
  induction l generalizing bs with
  | nil => cases bs <;> simp
  | cons a rest ih =>
    rw [List.mapM_cons, List.map_cons]
    cases f a with
    | none => cases bs <;> simp
    | some b =>
      cases bs with
      | nil => cases rest.mapM f <;> simp
      | cons c cs =>
        rw [List.map_cons, List.cons.injEq, ← ih]
        cases rest.mapM f <;> simp

/-- Keys are compared by the tokens of their identities. The fact has a name of its own so that the
test whether a key is among others is one term wherever it is made. -/
instance Identity.lawfulBEq_keys : LawfulBEq (Option (List Identity)) := inferInstance

namespace Reconciler

variable {r : Reconciler} {inst d : Document} {instances docs : List Document}

/-! ## Query fields -/

/-- A reconciler that was made has query fields that the schema knows. -/
theorem make_eq_ok {schema : Schema} {queryFields : List String}
    {updateFields? : Option (List String)} (h : make schema queryFields updateFields? = .ok r) :
    r = { schema, queryFields, updateFields? } ∧
      ∀ name ∈ queryFields, ∃ f, schema.field? name = some f := by
  unfold make at h
  split at h
  · cases h
  obtain ⟨⟨⟩, hdeclared, h⟩ := bind_eq_ok.mp h
  refine ⟨(pure_eq_ok.mp h).symm, fun name hname => ?_⟩
  obtain ⟨f, hf, -⟩ := bind_eq_ok.mp (forM_eq_ok.mp hdeclared name hname)
  exact ⟨f, Schema.declared_eq_ok.mp hf⟩

/-- The query fields of a reconciler that was made are legal names. -/
theorem legalName_of_make {schema : Schema} (hs : schema.WellFormed) {queryFields : List String}
    {updateFields? : Option (List String)} (h : make schema queryFields updateFields? = .ok r) :
    ∀ field ∈ r.queryFields, LegalName field := by
  obtain ⟨rfl, hknown⟩ := make_eq_ok h
  intro name hname
  obtain ⟨f, hf⟩ := hknown name hname
  rw [← (Schema.field?_eq_some hf).1]
  exact hs.legal_of_field? hf

/-! ## Keys -/

/-- The identity of what a document has in a query field, if it is there and not null. -/
def identity? (field : String) (d : Document) : Option Identity :=
  match Document.get? d field with
  | none | some .null => none
  | some v => some (comparand field v).identity

theorem key?_eq_mapM (r : Reconciler) (d : Document) :
    r.key? d = r.queryFields.mapM fun field => identity? field d := rfl

/-- Documents with one identity in every query field have one key. -/
theorem key?_congr {d' : Document}
    (h : ∀ field ∈ r.queryFields, identity? field d = identity? field d') :
    r.key? d = r.key? d' := by
  rw [key?_eq_mapM, key?_eq_mapM]
  generalize r.queryFields = fields at h
  induction fields with
  | nil => rfl
  | cons field rest ih =>
    rw [List.mapM_cons, List.mapM_cons, h field List.mem_cons_self,
      ih fun f hf => h f (List.mem_cons_of_mem _ hf)]

theorem identity?_eq_some {field : String} {identity : Identity} :
    identity? field d = some identity ↔
      ∃ v, Document.get? d field = some v ∧ v ≠ .null ∧
        (comparand field v).identity = identity := by
  unfold identity?
  split
  · rename_i hnone
    simp [hnone]
  · rename_i hnull
    simp [hnull]
  · rename_i v hnull hv
    simp [hv, show v ≠ .null from hnull]

/-- What has a key shares it with the documents of one identity in every query field. -/
theorem key?_eq_iff {key : List Identity} (h : r.key? inst = some key) :
    r.key? d = some key ↔ ∀ field ∈ r.queryFields, identity? field d = identity? field inst := by
  rw [key?_eq_mapM, mapM_eq_some] at h ⊢
  rw [← h, List.map_inj_left]

/-- A batch can be matched when its instances have values in all query fields, and the update
fields are declared. -/
theorem checkBatch_eq_ok : r.checkBatch instances = .ok () ↔
    (∀ inst ∈ instances, ∀ field ∈ r.queryFields,
      ∃ v, Document.get? inst field = some v ∧ v ≠ .null) ∧
    ∀ fields, r.updateFields? = some fields → r.schema.checkDeclared fields = .ok () := by
  -- one instance passes when it has a value in every query field
  have hvalue : ∀ (inst : Document) (index : Nat), r.checkInstance inst index = .ok () ↔
      ∀ field ∈ r.queryFields, ∃ v, Document.get? inst field = some v ∧ v ≠ .null := by
    intro inst index
    refine forM_eq_ok.trans (forall₂_congr fun field _ => ?_)
    split
    · rename_i hnone
      simp [hnone]
    · rename_i hnull
      simp [hnull]
    · rename_i v hnull hv
      exact ⟨fun _ => ⟨v, hv, hnull⟩, fun _ => rfl⟩
  -- and so do all of them; their positions only matter in an error
  have hall : (instances.zipIdx.forM fun entry => r.checkInstance entry.1 entry.2) = .ok () ↔
      ∀ inst ∈ instances, ∀ field ∈ r.queryFields,
        ∃ v, Document.get? inst field = some v ∧ v ≠ .null := by
    rw [forM_eq_ok]
    constructor
    · intro h inst hinst
      obtain ⟨index, hindex⟩ := List.getElem?_of_mem hinst
      exact (hvalue inst index).mp (h (inst, index) (List.mk_mem_zipIdx_iff_getElem?.mpr hindex))
    · intro h entry hentry
      exact (hvalue entry.1 entry.2).mpr (h entry.1 (List.fst_mem_of_mem_zipIdx hentry))
  unfold checkBatch
  rw [bind_eq_ok, ← hall]
  constructor
  · rintro ⟨⟨⟩, hinstances, hupdate⟩
    refine ⟨hinstances, fun fields hfields => ?_⟩
    rwa [hfields] at hupdate
  · rintro ⟨hinstances, hupdate⟩
    refine ⟨(), hinstances, ?_⟩
    cases hfields : r.updateFields? with
    | none => rfl
    | some fields => exact hupdate fields hfields

/-- What has values in all query fields has a key. -/
theorem exists_key?_of_values
    (h : ∀ field ∈ r.queryFields, ∃ v, Document.get? d field = some v ∧ v ≠ .null) :
    ∃ key, r.key? d = some key := by
  refine ⟨r.queryFields.map fun field => (identity? field d).getD [], ?_⟩
  rw [key?_eq_mapM, mapM_eq_some, List.map_map, List.map_inj_left]
  intro field hfield
  obtain ⟨v, hv, hnull⟩ := h field hfield
  rw [Function.comp, identity?_eq_some.mpr ⟨v, hv, hnull, rfl⟩, Option.getD_some]

theorem exists_key?_of_checkBatch (h : r.checkBatch instances = .ok ())
    (hinst : inst ∈ instances) : ∃ key, r.key? inst = some key :=
  exists_key?_of_values ((checkBatch_eq_ok.mp h).1 inst hinst)

/-- What has a key has values in all query fields. -/
theorem exists_value_of_key? {key : List Identity} (h : r.key? d = some key) {field : String}
    (hfield : field ∈ r.queryFields) : ∃ v, Document.get? d field = some v ∧ v ≠ .null := by
  rw [key?_eq_mapM, mapM_eq_some] at h
  have hmem : identity? field d ∈ key.map some := h ▸ List.mem_map_of_mem hfield
  obtain ⟨identity, -, hidentity⟩ := List.mem_map.mp hmem
  obtain ⟨v, hv, hnull, -⟩ := identity?_eq_some.mp hidentity.symm
  exact ⟨v, hv, hnull⟩

/-- Every key of an instance is the key of one among the distinct ones. -/
theorem exists_mem_distinctKeys {key : List Identity} {seen : List (List Identity)}
    (hinst : inst ∈ instances) (hkey : r.key? inst = some key) (hseen : key ∉ seen) :
    ∃ other ∈ r.distinctKeys seen instances, r.key? other = some key := by
  induction instances generalizing seen with
  | nil => exact absurd hinst List.not_mem_nil
  | cons d rest ih =>
    rw [distinctKeys]
    rcases List.mem_cons.mp hinst with rfl | hinst
    · simp only [hkey, if_neg hseen]
      exact ⟨inst, List.mem_cons_self, hkey⟩
    · split
      · exact ih hinst hseen
      · rename_i key' hkey'
        split
        · exact ih hinst hseen
        · -- the first instance with a key that was not seen stands for the key
          by_cases heq : key = key'
          · exact ⟨d, List.mem_cons_self, heq ▸ hkey'⟩
          · have hseen' : key ∉ key' :: seen := by simp [heq, hseen]
            obtain ⟨other, hother, hother'⟩ := ih hinst hseen'
            exact ⟨other, List.mem_cons_of_mem _ hother, hother'⟩

/-- The distinct instances are instances with keys. -/
theorem mem_of_mem_distinctKeys {seen : List (List Identity)}
    (h : inst ∈ r.distinctKeys seen instances) :
    inst ∈ instances ∧ ∃ key, r.key? inst = some key := by
  fun_induction distinctKeys r seen instances with
  | case1 => exact absurd h List.not_mem_nil
  | case2 seen d rest hnone ih =>
    exact ⟨List.mem_cons_of_mem _ (ih h).1, (ih h).2⟩
  | case3 seen d rest key hkey hseen ih =>
    exact ⟨List.mem_cons_of_mem _ (ih h).1, (ih h).2⟩
  | case4 seen d rest key hkey hseen ih =>
    rcases List.mem_cons.mp h with rfl | h
    · exact ⟨List.mem_cons_self, key, hkey⟩
    · exact ⟨List.mem_cons_of_mem _ (ih h).1, (ih h).2⟩

/-! ## The filter -/

/-- The instance asks for a document that has in every query field what equals the value of the
instance there. -/
def asks (r : Reconciler) (inst d : Document) : Bool :=
  r.queryFields.all fun field =>
    (Document.get? inst field).all fun v =>
      Value.equalsOperand (Document.get? d field) (comparand field v)

/-- Some instance of the batch asks for the document. -/
def selects (r : Reconciler) (instances : List Document) (d : Document) : Bool :=
  (r.distinctKeys [] instances).any (r.asks · d)

theorem asks_eq_true : r.asks inst d = true ↔
    ∀ field ∈ r.queryFields, ∀ v, Document.get? inst field = some v →
      Value.equalsOperand (Document.get? d field) (comparand field v) = true := by
  rw [asks, List.all_eq_true]
  refine forall₂_congr fun field _ => ?_
  cases Document.get? inst field <;> simp

/-- No query field of the instance has a value that a filter would carry out. -/
def Plain (r : Reconciler) (inst : Document) : Prop :=
  ∀ field ∈ r.queryFields, ∀ v, Document.get? inst field = some v → v.isOperators = false

theorem isOperators_comparand {v : Value} (h : v.isOperators = false) (field : String) :
    (comparand field v).isOperators = false := by
  unfold comparand
  split
  · cases v with
    | string s =>
      rw [Value.readId]
      split <;> rfl
    | array items => rfl
    | _ => exact h
  · exact h

/-- The clause of an instance asks for what the instance asks for. -/
theorem satisfies_clause (hr : ∀ field ∈ r.queryFields, LegalName field)
    (hplain : r.Plain inst) (d : Document) :
    Document.satisfies d (r.clause inst) = .ok (r.asks inst d) := by
  let entries := r.queryFields.filterMap fun field =>
    (Document.get? inst field).map fun v => (field, comparand field v)
  -- the clause asks for the value of the instance in every query field that it has,
  have hentries : ∀ {entry : String × Value}, entry ∈ entries ↔
      entry.1 ∈ r.queryFields ∧
        ∃ v, Document.get? inst entry.1 = some v ∧ comparand entry.1 v = entry.2 := by
    rintro ⟨field, w⟩
    simp [entries, Option.map_eq_some_iff]
  -- once in every field,
  have hclause : ∀ {entry : String × Value}, entry ∈ r.clause inst ↔ entry ∈ entries := by
    refine Document.mem_ofEntries fun entry hentry other hother hkey => ?_
    obtain ⟨-, v, hv, hentry⟩ := hentries.mp hentry
    obtain ⟨-, w, hw, hother⟩ := hentries.mp hother
    rw [← hkey, hv, Option.some.injEq] at hw
    refine Prod.ext hkey ?_
    rw [← hentry, ← hother, hkey, hw]
  -- and no such value is read as operators, so asking is comparing
  have hholds : ∀ entry ∈ r.clause inst, Document.holds d entry.1 entry.2 =
      .ok (Value.equalsOperand (Document.get? d entry.1) entry.2) := by
    intro entry hentry
    obtain ⟨hfield, v, hv, hcomparand⟩ := hentries.mp (hclause.mp hentry)
    have hlegal := hr _ hfield
    rw [Document.holds_of_path hlegal.plain, Document.getPath?_of_legalName hlegal]
    refine Value.meets_of_not_operators ?_
    rw [← hcomparand]
    exact isOperators_comparand (hplain _ hfield v hv) _
  rw [Document.satisfies_of_holds hholds, Except.ok.injEq, Bool.eq_iff_iff, List.all_eq_true,
    asks_eq_true]
  constructor
  · intro h field hfield v hv
    exact h (field, comparand field v) (hclause.mpr (hentries.mpr ⟨hfield, v, hv, rfl⟩))
  · intro h entry hentry
    obtain ⟨hfield, v, hv, hcomparand⟩ := hentries.mp (hclause.mp hentry)
    rw [← hcomparand]
    exact h entry.1 hfield v hv

/-- The filter of a batch selects the documents for which some instance asks. With several query
fields, a value that is a list of operators would be carried out. -/
theorem satisfies_candidateFilter (hr : ∀ field ∈ r.queryFields, LegalName field)
    (hplain : r.queryFields.length ≠ 1 → ∀ inst ∈ instances, r.Plain inst) (d : Document) :
    Document.satisfies d (r.candidateFilter instances) = .ok (r.selects instances d) := by
  unfold candidateFilter
  split
  · rename_i field hfields
    -- the lookup of one field in the values of the distinct instances
    have hlegal : LegalName field := hr field (hfields ▸ List.mem_singleton_self field)
    have hin : ∀ values, Value.meets (Document.get? d field) (.document [("$in", .array values)]) =
        .ok (values.any (Value.equalsOperand (Document.get? d field))) := by
      intro values
      rw [Value.meets_of_operators rfl, Value.passesAll]
      change (Except.ok (values.any (Value.equalsOperand (Document.get? d field))) >>= _) = _
      rw [ok_bind]
      cases values.any (Value.equalsOperand (Document.get? d field)) <;> rfl
    rw [Document.satisfies_singleton hlegal.plain, Document.getPath?_of_legalName hlegal, hin,
      Except.ok.injEq, Bool.eq_iff_iff, selects, List.any_eq_true, List.any_eq_true]
    constructor
    · rintro ⟨v, hmem, hv⟩
      obtain ⟨inst, hinst, hvalue⟩ := List.mem_filterMap.mp hmem
      refine ⟨inst, hinst, asks_eq_true.mpr fun field' hfield' w hw => ?_⟩
      obtain rfl : field' = field := List.mem_singleton.mp (hfields ▸ hfield')
      rw [hw, Option.map_some, Option.some.injEq] at hvalue
      rwa [hvalue]
    · rintro ⟨inst, hinst, hasks⟩
      have hfield : field ∈ r.queryFields := hfields ▸ List.mem_singleton_self field
      obtain ⟨-, key, hkey⟩ := mem_of_mem_distinctKeys hinst
      obtain ⟨v, hv, -⟩ := exists_value_of_key? hkey hfield
      exact ⟨comparand field v, List.mem_filterMap.mpr ⟨inst, hinst, by rw [hv, Option.map_some]⟩,
        asks_eq_true.mp hasks field hfield v hv⟩
  · rename_i hfields
    have hlength : r.queryFields.length ≠ 1 := by
      intro hone
      obtain ⟨field, hfield⟩ := List.length_eq_one_iff.mp hone
      exact hfields field hfield
    have hany := Document.satisfiesAny_of_satisfies (l := r.distinctKeys [] instances)
      fun inst hinst =>
        satisfies_clause hr (hplain hlength inst (mem_of_mem_distinctKeys hinst).1) d
    have hclauses : ((r.distinctKeys [] instances).map fun inst => .document (r.clause inst)) =
        ((r.distinctKeys [] instances).map r.clause).map Value.document := List.map_map.symm
    dsimp only
    rw [hclauses, Document.satisfies_or, ← hclauses]
    exact hany

/-! ## The reading -/

theorem get?_shaped (hr : ∀ field ∈ r.queryFields, LegalName field) (d : Document) {field : String}
    (hfield : field = Document.idKey ∨ field ∈ r.queryFields) :
    Document.get? (Document.shaped r.projection d) field = Document.get? d field := by
  refine Document.get?_project_including (hfield.imp_right fun hmem => ?_)
  exact ⟨List.mem_cons_of_mem _ hmem, (hr field hmem).dotless⟩

/-- A plan needs the stored documents in their projected form only. -/
theorem partner?_map_shaped (hr : ∀ field ∈ r.queryFields, LegalName field) (inst : Document)
    (docs : List Document) :
    r.partner? (docs.map (Document.shaped r.projection)) inst = r.partner? docs inst := by
  have hkey : ∀ d, r.key? (Document.shaped r.projection d) = r.key? d :=
    fun d => key?_congr fun field hfield => by
      rw [identity?, identity?, get?_shaped hr d (Or.inr hfield)]
  have hid : ∀ d, Document.id? (Document.shaped r.projection d) = Document.id? d :=
    fun d => get?_shaped hr d (Or.inl rfl)
  have hstored : r.stored? (docs.map (Document.shaped r.projection)) = r.stored? docs := by
    funext key
    simp only [stored?, List.findSome?_map, Function.comp_def, hkey, hid]
  rw [partner?, partner?, hstored]

/-- A partner is found among the selected documents as among all, if those with the key of the
instance are selected. -/
theorem partner?_filter {selected : Document → Bool}
    (h : ∀ d ∈ docs, (∃ key, r.key? d = some key ∧ r.key? inst = some key) → selected d = true) :
    r.partner? (docs.filter selected) inst = r.partner? docs inst := by
  cases hkey : r.key? inst with
  | none => simp [partner?, hkey]
  | some key =>
    simp only [partner?, hkey, Option.bind_some, stored?]
    refine findSome?_filter_eq fun d hd => ⟨fun _ => rfl, fun hselected => if_neg fun hdkey => ?_⟩
    rw [h d hd ⟨key, hdkey, hkey⟩] at hselected
    cases hselected

/-- A plan depends on the partners of the instances and on nothing else that is stored. -/
theorem plan_congr {docs' : List Document}
    (h : ∀ inst ∈ instances, r.partner? docs inst = r.partner? docs' inst) :
    r.plan instances docs = r.plan instances docs' := by
  refine List.foldl_ext _ _ _ fun plan entry hentry => ?_
  rw [assign, assign, h entry.1 (List.fst_mem_of_mem_zipIdx hentry)]

/-- Reconciliation makes the plan for the documents that instances ask for. -/
theorem reconcile_apply (hr : ∀ field ∈ r.queryFields, LegalName field)
    (hcheck : r.checkBatch instances = .ok ())
    (hplain : r.queryFields.length ≠ 1 → ∀ inst ∈ instances, r.Plain inst) (s : Store) :
    r.reconcile instances s =
      (.ok (r.plan instances (s.documents.filter (r.selects instances))), s) := by
  have hread : s.find (r.candidateFilter instances) r.projection =
      .ok ((s.documents.filter (r.selects instances)).map (Document.shaped r.projection)) := by
    simp only [Store.find, Document.find, ok_bind, Document.select_of_satisfies fun d _ =>
      satisfies_candidateFilter hr hplain d]
    rfl
  unfold reconcile
  rw [Action.check_bind_apply hcheck]
  split
  · rename_i hempty
    rw [List.isEmpty_iff.mp hempty]
    rfl
  · rw [Action.bind_apply, Action.read, hread]
    refine Prod.ext (congrArg Except.ok (plan_congr fun inst _ => ?_)) rfl
    exact partner?_map_shaped hr inst _

end Reconciler

end DocMapper
