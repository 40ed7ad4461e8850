import DocMapper.Proofs.Candidates
import DocMapper.Proofs.ConformingStore
import DocMapper.Proofs.Identities

namespace DocMapper

/-! # Types whose values can be found again

A stored document is found for an instance when its values equal those of the instance, but it
counts for the instance when they have one identity. Where identities are made from texts the two
notions part: they agree on a field exactly when its type has no numbers inside lists, no doubles
or decimals (a NaN has an identity, and equals nothing), and no free documents.
-/

namespace FieldType

/-- Two values of the type with one identity have the same content, wherever they stand. -/
def isExact : FieldType → Bool
  | string | bool | dateTime | objectId | binary => true
  | optional inner => inner.isExact
  | array items => items.isExact
  | int | double | decimal | mapping | any => false

/-- Two values of the type with one identity are equal in the store. Integers of different widths
are, except inside of lists. -/
def isFindable : FieldType → Bool
  | int => true
  | optional inner => inner.isFindable
  | type => type.isExact

/-! ## Identities tell the values of exact types apart -/

theorem beqItems_of_identities {type : FieldType}
    (htype : ∀ {v w : Value} {rest rest' : Identity}, type.Admits v → type.Admits w →
      v.identity ++ rest = w.identity ++ rest' → v.beq w = true ∧ rest = rest')
    {vs ws : List Value} {rest rest' : Identity} (hvs : ∀ v ∈ vs, type.Admits v)
    (hws : ∀ w ∈ ws, type.Admits w)
    (h : Value.tokensOfItems .shared vs ++ .listEnd :: rest =
      Value.tokensOfItems .shared ws ++ .listEnd :: rest') :
    Value.beqItems vs ws = true ∧ rest = rest' := by
  induction vs generalizing ws with
  | nil =>
    cases ws with
    | nil => exact ⟨rfl, (List.cons.inj h).2⟩
    | cons w ws =>
      -- no value starts with the end of a list
      simp only [Value.tokensOfItems, List.append_assoc, List.nil_append] at h
      have hhead := (Value.eq_of_identity_head rfl h.symm).1
      cases hhead
  | cons v vs ih =>
    cases ws with
    | nil =>
      simp only [Value.tokensOfItems, List.append_assoc, List.nil_append] at h
      have hhead := (Value.eq_of_identity_head rfl h).1
      cases hhead
    | cons w ws =>
      simp only [Value.tokensOfItems, List.append_assoc] at h
      obtain ⟨hbeq, hrest⟩ := htype (hvs v List.mem_cons_self) (hws w List.mem_cons_self) h
      obtain ⟨hitems, hrest⟩ := ih (fun u hu => hvs u (List.mem_cons_of_mem _ hu))
        (fun u hu => hws u (List.mem_cons_of_mem _ hu)) hrest
      exact ⟨by rw [Value.beqItems, hbeq, hitems]; rfl, hrest⟩

/-- Values of an exact type that start one sequence of tokens are equal, and so are the rests of
the sequence. -/
theorem beq_of_identity_append {type : FieldType} (hexact : type.isExact = true) {v w : Value}
    {rest rest' : Identity} (hv : type.Admits v) (hw : type.Admits w)
    (h : v.identity ++ rest = w.identity ++ rest') : v.beq w = true ∧ rest = rest' := by
  -- the induction is on the type, and the rest of the sequence is general because the items of a
  -- list follow one another in it
  induction type generalizing v w rest rest' with
  | optional inner ih =>
    -- null has a token of its own, so both values are null or neither is
    rcases admits_optional.mp hv with rfl | hv
    · obtain ⟨hnull, hrest⟩ := Value.eq_of_identity_head rfl h.symm
      cases hnull
      exact ⟨rfl, hrest.symm⟩
    · rcases admits_optional.mp hw with rfl | hw
      · obtain ⟨hnull, hrest⟩ := Value.eq_of_identity_head rfl h
        cases hnull
        exact ⟨rfl, hrest⟩
      · exact ih hexact hv hw h
  | array items ih =>
    obtain ⟨vs, rfl, hvs⟩ := admits_array.mp hv
    obtain ⟨ws, rfl, hws⟩ := admits_array.mp hw
    simp only [Value.identity_array, List.cons_append, List.append_assoc, List.cons.injEq, true_and,
      List.nil_append] at h
    rw [Value.beq]
    exact beqItems_of_identities (fun hv hw h => ih hexact hv hw h) hvs hws h
  | string | bool =>
    have hv' := hv ""
    have hw' := hw ""
    cases v <;> cases hv'
    cases w <;> cases hw'
    simpa [Value.identity, Value.tokens, Value.beq] using h
  | dateTime =>
    have hv' := hv ""
    have hw' := hw ""
    cases v <;> cases hv'
    cases w <;> cases hw'
    simp only [Value.identity, Value.tokens, Identity.tagged, Identity.ofInt, Identity.taggedText,
      List.cons_append, List.nil_append, List.cons.injEq, IdentityToken.text.injEq,
      true_and] at h
    have hmillis := Int64.toInt_inj.mp (Text.intText_inj h.1)
    exact ⟨by simp [Value.beq, hmillis], h.2⟩
  | objectId =>
    have hv' := hv ""
    have hw' := hw ""
    cases v <;> cases hv'
    cases w <;> cases hw'
    simp only [Value.identity, Value.tokens, Identity.tagged, Identity.taggedText, List.cons_append,
      List.nil_append, List.cons.injEq, IdentityToken.text.injEq, true_and] at h
    have hid := ObjectId.hex_inj h.1
    exact ⟨by simp [Value.beq, hid], h.2⟩
  | binary =>
    have hv' := hv ""
    have hw' := hw ""
    cases v <;> cases hv'
    cases w <;> cases hw'
    rename_i subtype bytes subtype' bytes'
    simp only [Value.identity, Value.tokens, Identity.tagged, List.cons_append, List.nil_append,
      List.cons.injEq, IdentityToken.text.injEq, true_and, String.ofList_inj] at h
    have hbytes := Text.base64_inj h.1
    have hdigits : ∀ a : UInt8, a.toNat < Nat.pow 16 2 := fun a => a.toNat_lt
    have hsubtype : subtype = subtype' := UInt8.toNat_inj.mp
      (Text.hexDigits_inj (hdigits subtype) (hdigits subtype') h.2.1)
    exact ⟨by simp [Value.beq, hbytes, hsubtype], h.2.2⟩
  | _ => cases hexact

/-- No exact type has numbers. -/
theorem magnitude?_of_isExact {type : FieldType} (hexact : type.isExact = true) {v : Value}
    (hv : type.Admits v) : v.magnitude? = none := by
  induction type with
  | optional inner ih =>
    rcases admits_optional.mp hv with rfl | hv
    · rfl
    · exact ih hexact hv
  | int | double | decimal | mapping | any => cases hexact
  | _ =>
    have hcheck := hv ""
    cases v <;> first | rfl | cases hcheck

/-- Values of a findable type with one identity are equal in the store. -/
theorem equals_of_isFindable {type : FieldType} (hfindable : type.isFindable = true)
    {v w : Value} (hv : type.Admits v) (hw : type.Admits w) (h : v.identity = w.identity) :
    v.equals w = true := by
  -- in a type whose values are told apart exactly, one identity means one value
  have hexact : type.isExact = true → v.equals w = true := fun hexact => by
    rw [Value.equals_eq_beq (magnitude?_of_isExact hexact hv)]
    exact (beq_of_identity_append hexact hv hw (congrArg (· ++ []) h)).1
  induction type with
  | int =>
    -- integers of both widths share an identity when they are equal as numbers
    have hnumber : w.isKey = true := by
      have hinteger := admits_int.mp hw
      cases w <;> first | rfl | cases hinteger
    refine Value.equals_of_identity hnumber h fun fields hfields => ?_
    rw [hfields] at hv
    cases admits_int.mp hv
  | optional inner ih =>
    rcases admits_optional.mp hv with rfl | hv
    · cases Value.eq_of_identity_singleton rfl h.symm
      rfl
    · rcases admits_optional.mp hw with rfl | hw
      · cases Value.eq_of_identity_singleton rfl h
        rfl
      · exact ih hfindable hv hw hexact
  | _ => exact hexact hfindable

/-- No findable type has documents. -/
theorem isOperators_of_isFindable {type : FieldType} (hfindable : type.isFindable = true)
    {v : Value} (hv : type.Admits v) : v.isOperators = false := by
  induction type with
  | optional inner ih =>
    rcases admits_optional.mp hv with rfl | hv
    · rfl
    · exact ih hfindable hv
  | double | decimal | mapping | any => cases hfindable
  | _ =>
    have hcheck := hv ""
    cases v <;> first | rfl | cases hcheck

/-! ## The other types have values that identities do not tell apart -/

/-- A type that is not exact has two values of one identity and different content. -/
theorem exists_beq_eq_false {type : FieldType} (h : type.isExact = false) :
    ∃ v w, type.Admits v ∧ type.Admits w ∧ v ≠ .null ∧ w ≠ .null ∧
      v.identity = w.identity ∧ w.beq v = false := by
  -- numbers meet in one identity across widths, and so does whatever holds them
  induction type with
  | int | double =>
    exact ⟨.int32 1, .int64 1, fun _ => rfl, fun _ => rfl, by simp, by simp, rfl, rfl⟩
  | decimal =>
    exact ⟨.decimal (.nan false false), .decimal (.nan false true), fun _ => rfl, fun _ => rfl,
      by simp, by simp, rfl, rfl⟩
  | mapping | any =>
    exact ⟨.document [("n", .int32 1)], .document [("n", .int64 1)], fun _ => rfl, fun _ => rfl,
      by simp, by simp, rfl, rfl⟩
  | optional inner ih =>
    obtain ⟨v, w, hv, hw, hnull, hnull', hidentity, hbeq⟩ := ih h
    exact ⟨v, w, admits_optional.mpr (Or.inr hv), admits_optional.mpr (Or.inr hw), hnull, hnull',
      hidentity, hbeq⟩
  | array items ih =>
    obtain ⟨v, w, hv, hw, -, -, hidentity, hbeq⟩ := ih h
    refine ⟨.array [v], .array [w], admits_array.mpr ⟨_, rfl, by simpa using hv⟩,
      admits_array.mpr ⟨_, rfl, by simpa using hw⟩, by simp, by simp, ?_, ?_⟩
    · rw [Value.identity_array, Value.identity_array, Value.tokensOfItems_cons,
        Value.tokensOfItems_cons, hidentity]
    · simp only [Value.beq, Value.beqItems, hbeq, Bool.false_and]
  | _ => cases h

/-- A type that is not findable has two values of one identity, of which neither a filter nor a
lookup finds the second for the first. -/
theorem exists_equalsOperand_eq_false {type : FieldType} (h : type.isFindable = false) :
    ∃ v w, type.Admits v ∧ type.Admits w ∧ v ≠ .null ∧ w ≠ .null ∧ v.isOperators = false ∧
      v.identity = w.identity ∧ Value.equalsOperand (some w) v = false := by
  -- a search finds numbers across widths, but a NaN and what is nested only by its exact form
  induction type with
  | double =>
    exact ⟨.double .nan, .double .nan, fun _ => rfl, fun _ => rfl, by simp, by simp, rfl, rfl,
      by decide +kernel⟩
  | decimal =>
    exact ⟨.decimal (.nan false false), .decimal (.nan false true), fun _ => rfl, fun _ => rfl,
      by simp, by simp, rfl, rfl, by decide +kernel⟩
  | mapping | any =>
    exact ⟨.document [("n", .int32 1)], .document [("n", .int64 1)], fun _ => rfl, fun _ => rfl,
      by simp, by simp, rfl, rfl, by decide +kernel⟩
  | optional inner ih =>
    obtain ⟨v, w, hv, hw, hrest⟩ := ih h
    exact ⟨v, w, admits_optional.mpr (Or.inr hv), admits_optional.mpr (Or.inr hw), hrest⟩
  | array items =>
    have hexact : (array items).isExact = false := h
    obtain ⟨v, w, hv, hw, hnull, hnull', hidentity, hbeq⟩ := exists_beq_eq_false hexact
    obtain ⟨vs, rfl, -⟩ := admits_array.mp hv
    obtain ⟨ws, rfl, -⟩ := admits_array.mp hw
    refine ⟨_, _, hv, hw, hnull, hnull', rfl, hidentity, ?_⟩
    rwa [← Value.equals_eq_beq rfl] at hbeq
  | _ => cases h

/-- A value of the type that is neither null nor a list of operators. -/
def sample : FieldType → Value
  | string => .string ""
  | int | double => .int32 0
  | bool | any => .bool false
  | dateTime => .dateTime 0
  | objectId => .objectId ⟨0⟩
  | binary => .binary 0 []
  | decimal => .decimal (.finite false 0 0)
  | array _ => .array []
  | mapping => .document []
  | optional inner => inner.sample

theorem sample_spec (type : FieldType) :
    type.Admits type.sample ∧ type.sample ≠ .null ∧ type.sample.isOperators = false := by
  induction type with
  | optional inner ih => exact ⟨admits_optional.mpr (Or.inr ih.1), ih.2⟩
  | _ => exact ⟨fun _ => rfl, by simp [sample], rfl⟩

end FieldType

namespace Schema

variable {s : Schema} {value : String → Value}

/-! ## Documents with a value in every field -/

/-- The document with the given values under the identifier and the declared fields. -/
def filled (s : Schema) (value : String → Value) : Document :=
  (Document.idKey, value Document.idKey) :: s.fields.map fun f => (f.name, value f.name)

theorem keys_filled : Document.keys (s.filled value) = Document.idKey :: s.fieldNames := by
  simp [filled, Document.keys, fieldNames]

theorem get?_filled (hs : s.WellFormed) {name : String} {f : Field}
    (hf : s.field? name = some f) : Document.get? (s.filled value) name = some (value name) := by
  have hnodup : (Document.keys (s.filled value)).Nodup := by
    rw [keys_filled, List.nodup_cons]
    exact ⟨hs.noId, hs.distinct⟩
  obtain ⟨rfl, rfl | hmem⟩ := field?_eq_some hf
  · exact Document.get?_cons_self _ _ _
  · exact (Document.get?_eq_some_iff hnodup).mpr
      (List.mem_cons_of_mem _ (List.mem_map.mpr ⟨f, hmem, rfl⟩))

theorem filled_conforms (hs : s.WellFormed) (h : ∀ f ∈ s.fields, f.type.Admits (value f.name)) :
    s.Conforms (s.filled value) where
  keys := keys_filled
  values := by
    intro f hf v hv
    rw [get?_filled hs (hs.field?_of_mem hf), Option.some.injEq] at hv
    exact hv ▸ h f hf

theorem Conforms.describes (hs : s.WellFormed) {d : Document} (hd : s.Conforms d) :
    s.Describes d :=
  describes_of_normalize hs (hd.normalize hs)

/-- A document with a given value in one field and samples in the others. -/
def sampleWith (s : Schema) (name : String) (v : Value) : Document :=
  s.filled fun k => if k = name then v else ((s.field? k).map (·.type.sample)).getD .null

theorem get?_sampleWith (hs : s.WellFormed) (name : String) (v : Value) {k : String} {f : Field}
    (hf : s.field? k = some f) :
    Document.get? (s.sampleWith name v) k = some (if k = name then v else f.type.sample) := by
  rw [sampleWith, get?_filled hs hf, hf]
  rfl

theorem sampleWith_conforms (hs : s.WellFormed) {name : String} {f : Field}
    (hf : s.field? name = some f) {v : Value} (hv : f.type.Admits v) :
    s.Conforms (s.sampleWith name v) := by
  refine filled_conforms hs fun g hg => ?_
  have hg' := hs.field?_of_mem hg
  by_cases hname : g.name = name
  · rw [hname, hf, Option.some.injEq] at hg'
    rw [if_pos hname, ← hg']
    exact hv
  · rw [if_neg hname, hg']
    exact g.type.sample_spec.1

end Schema

namespace Reconciler

variable {r : Reconciler} {instances : List Document} {s : Store}

/-! ## What reading through the filter loses -/

/-- Nothing is lost where the instances with the key of a stored document ask for it. -/
theorem reconcile_eq_plan (hr : ∀ field ∈ r.queryFields, LegalName field)
    (hcheck : r.checkBatch instances = .ok ())
    (hplain : r.queryFields.length ≠ 1 → ∀ inst ∈ instances, r.Plain inst)
    (h : ∀ inst ∈ instances, ∀ d ∈ s.documents, r.key? d = r.key? inst → r.asks inst d = true) :
    r.reconcile instances s = (.ok (r.plan instances s.documents), s) := by
  rw [reconcile_apply hr hcheck hplain s]
  refine Prod.ext (congrArg Except.ok (plan_congr fun inst hinst => ?_)) rfl
  refine partner?_filter fun d hd hkeys => ?_
  obtain ⟨key, hkey, hinstkey⟩ := hkeys
  obtain ⟨other, hother, hotherkey⟩ := exists_mem_distinctKeys hinst hinstkey List.not_mem_nil
  have hasks := h other (mem_of_mem_distinctKeys hother).1 d hd (hkey.trans hotherkey.symm)
  exact List.any_eq_true.mpr ⟨other, hother, hasks⟩

variable {schema : Schema} {queryFields : List String} {updateFields? : Option (List String)}

/-- An instance asks for the documents with its key, if the query fields are findable. -/
theorem asks_of_describes (hs : schema.WellFormed)
    (hmake : make schema queryFields updateFields? = .ok r)
    (hfindable : ∀ name ∈ queryFields, ∀ f, schema.field? name = some f →
      f.type.isFindable = true) {inst d : Document} (hinst : schema.Describes inst)
    (hd : schema.Describes d) {key : List Identity} (hkey : r.key? inst = some key)
    (hdkey : r.key? d = some key) : r.asks inst d = true := by
  obtain ⟨rfl, hknown⟩ := make_eq_ok hmake
  refine asks_eq_true.mpr fun name hname v hv => ?_
  obtain ⟨f, hf⟩ := hknown name hname
  have htype := hfindable name hname f hf
  obtain ⟨hfname, hfield⟩ := Schema.field?_eq_some hf
  -- identifiers may have any type, so a query field of a findable type is declared
  have hmem : f ∈ schema.fields := by
    rcases hfield with rfl | hmem
    · cases htype
    · exact hmem
  have hne : name ≠ Document.idKey := hfname ▸ hs.name_ne_id hmem
  have hcomparand : ∀ u, comparand name u = u := fun u => if_neg hne
  -- the keys agree in this field, and in a findable type that means equal values
  obtain ⟨w, hw, hnull⟩ := exists_value_of_key? hdkey hname
  have hidentity := (key?_eq_iff hkey).mp hdkey name hname
  rw [identity?_eq_some.mpr ⟨w, hw, hnull, rfl⟩, eq_comm, identity?_eq_some] at hidentity
  obtain ⟨v', hv', -, hidentity⟩ := hidentity
  cases hv.symm.trans hv'
  rw [hcomparand, hcomparand] at hidentity
  rw [hw, hcomparand]
  exact Value.equalsOperand_of_equals (FieldType.equals_of_isFindable htype
    (hd.values f hmem w (hfname ▸ hw)) (hinst.values f hmem v (hfname ▸ hv)) hidentity.symm)

theorem asks_of_key?_eq (hs : schema.WellFormed)
    (hmake : make schema queryFields updateFields? = .ok r)
    (hfindable : ∀ name ∈ queryFields, ∀ f, schema.field? name = some f →
      f.type.isFindable = true) {inst d : Document} (hinst : schema.Describes inst)
    (hd : schema.Conforms d) {key : List Identity} (hkey : r.key? inst = some key)
    (hdkey : r.key? d = some key) : r.asks inst d = true :=
  asks_of_describes hs hmake hfindable hinst (hd.describes hs) hkey hdkey

/-- A field that is not findable has two values that give one key, of which the first does not ask
for the second. -/
theorem exists_lost {name : String} {f : Field} (hf : schema.field? name = some f)
    (h : f.type.isFindable = false) :
    ∃ v w, f.type.Admits v ∧ f.type.Admits w ∧ v ≠ .null ∧ w ≠ .null ∧ v.isOperators = false ∧
      (comparand name v).identity = (comparand name w).identity ∧
      Value.equalsOperand (some w) (comparand name v) = false := by
  by_cases hid : name = Document.idKey
  · subst hid
    cases hf
    exact ⟨.document [("n", .int32 1)], .document [("n", .int64 1)], fun _ => rfl, fun _ => rfl,
      by simp, by simp, rfl, rfl, by decide +kernel⟩
  · have hcomparand : ∀ u, comparand name u = u := fun u => if_neg hid
    obtain ⟨v, w, hrest⟩ := FieldType.exists_equalsOperand_eq_false h
    exact ⟨v, w, by simpa only [hcomparand] using hrest⟩

/-- What two samples with values of one identity have in the query fields. -/
theorem key?_sampleWith (hs : schema.WellFormed)
    (hmake : make schema queryFields updateFields? = .ok r) {name : String} {v w : Value}
    (hv : v ≠ .null) (hw : w ≠ .null)
    (h : (comparand name v).identity = (comparand name w).identity) :
    r.key? (schema.sampleWith name w) = r.key? (schema.sampleWith name v) := by
  obtain ⟨rfl, hknown⟩ := make_eq_ok hmake
  refine key?_congr fun k hk => ?_
  obtain ⟨g, hg⟩ := hknown k hk
  have hget := fun u => Schema.get?_sampleWith hs name u hg
  by_cases hname : k = name
  · subst hname
    simp only [if_true] at hget
    rw [identity?_eq_some.mpr ⟨w, hget w, hw, rfl⟩, identity?_eq_some.mpr ⟨v, hget v, hv, rfl⟩, h]
  · simp only [if_neg hname] at hget
    rw [identity?, identity?, hget w, hget v]

/-- A stored document with the key of an instance is lost if the instance does not ask for it. -/
theorem reconcile_ne_plan_of_asks {inst stored : Document} {id : Value} {s : Store}
    (hr : ∀ field ∈ r.queryFields, LegalName field) (hcheck : r.checkBatch [inst] = .ok ())
    (hplain : r.Plain inst) (hkey : r.key? stored = r.key? inst)
    (hid : Document.id? stored = some id) (hasks : r.asks inst stored = false)
    (hs : s.documents = [stored]) :
    r.reconcile [inst] s ≠ (.ok (r.plan [inst] s.documents), s) := by
  have hselects : r.selects [inst] stored = false := by
    rw [← Bool.not_eq_true, selects, List.any_eq_true]
    rintro ⟨other, hmem, hfound⟩
    rw [List.mem_singleton.mp (mem_of_mem_distinctKeys hmem).1, hasks] at hfound
    cases hfound
  -- the plan for nothing inserts, and the plan for the one document updates it
  obtain ⟨key, hinstkey⟩ := exists_key?_of_checkBatch hcheck (List.mem_singleton_self _)
  have hnone : r.partner? [] inst = none := by
    rw [partner?, hinstkey]
    rfl
  have hsome : r.partner? [stored] inst = some id := by
    rw [partner?, hinstkey, Option.bind_some, stored?, List.findSome?_cons,
      if_pos (hkey.trans hinstkey), hid]
  rw [reconcile_apply hr hcheck fun _ d hd => List.mem_singleton.mp hd ▸ hplain, hs]
  intro heq
  have hplans := congrArg Plan.updates (Except.ok.inj (congrArg Prod.fst heq))
  simp [hselects, plan, assign, hnone, hsome] at hplans

/-- If a query field is not findable, a batch of one instance loses a stored document. -/
theorem exists_reconcile_ne_plan (hs : schema.WellFormed)
    (hmake : make schema queryFields updateFields? = .ok r)
    (hupdate : ∀ fields, updateFields? = some fields → schema.checkDeclared fields = .ok ())
    {name : String} (hname : name ∈ queryFields) {f : Field} (hf : schema.field? name = some f)
    (h : f.type.isFindable = false) :
    ∃ (inst : Document) (s : Store), schema.Describes inst ∧ r.checkBatch [inst] = .ok () ∧
      s.Conforms schema ∧
      r.reconcile [inst] s ≠ (.ok (r.plan [inst] s.documents), s) := by
  obtain ⟨v, w, hv, hw, hvnull, hwnull, hvplain, hidentity, hequals⟩ := exists_lost hf h
  have hr := legalName_of_make hs hmake
  have hkey := key?_sampleWith hs hmake hvnull hwnull hidentity
  obtain ⟨rfl, hknown⟩ := make_eq_ok hmake
  let r : Reconciler := { schema, queryFields, updateFields? }
  let inst := schema.sampleWith name v
  let stored := schema.sampleWith name w
  -- the sample has a plain value in every query field, so the batch passes its check,
  have hvalue : ∀ k ∈ queryFields, ∃ u, Document.get? inst k = some u ∧ u ≠ .null ∧
      u.isOperators = false := by
    intro k hk
    obtain ⟨g, hg⟩ := hknown k hk
    refine ⟨_, Schema.get?_sampleWith hs name v hg, ?_⟩
    split
    · exact ⟨hvnull, hvplain⟩
    · exact g.type.sample_spec.2
  have hplain : r.Plain inst := by
    intro k hk u hu
    obtain ⟨u', hu', -, hoperators⟩ := hvalue k hk
    cases hu.symm.trans hu'
    exact hoperators
  have hcheck : r.checkBatch [inst] = .ok () := by
    refine checkBatch_eq_ok.mpr ⟨fun d hd k hk => ?_, hupdate⟩
    rw [List.mem_singleton.mp hd]
    obtain ⟨u, hu, hnull, -⟩ := hvalue k hk
    exact ⟨u, hu, hnull⟩
  -- but its clause does not find the stored document, which has the same key
  have hasks : r.asks inst stored = false := by
    rw [← Bool.not_eq_true, asks_eq_true]
    intro hall
    have hfound := hall name hname v ((Schema.get?_sampleWith hs name v hf).trans (by simp))
    rw [Schema.get?_sampleWith hs name w hf, if_pos rfl, hequals] at hfound
    cases hfound
  refine ⟨inst, { documents := [stored], ids := ⟨fun _ => ⟨0⟩, 0⟩ },
    (Schema.sampleWith_conforms hs hf hv).describes hs, hcheck, ?_, ?_⟩
  · intro d hd
    rw [List.mem_singleton.mp hd]
    exact Schema.sampleWith_conforms hs hf hw
  · obtain ⟨id, hid⟩ := (Schema.sampleWith_conforms hs hf hw).exists_id
    exact reconcile_ne_plan_of_asks hr hcheck hplain hkey hid hasks rfl

/-- Reading through the filter gives the plan for the whole store, for all instances and all stored
documents in normal form, exactly when every query field has a type whose values can be found by
their identities. Whatever is stored, nothing is lost if instances ask for the documents with their
keys, where no query field has a value that would be carried out. -/
theorem reconcile_loses_nothing_iff {draft : SchemaDraft} (hbuild : draft.build = .ok schema)
    (hmake : make schema queryFields updateFields? = .ok r)
    (hupdate : ∀ fields, updateFields? = some fields → schema.checkDeclared fields = .ok ()) :
    ((∀ (instances : List Document) (s : Store), (∀ inst ∈ instances, schema.Describes inst) →
        r.checkBatch instances = .ok () → s.Conforms schema →
        r.reconcile instances s = (.ok (r.plan instances s.documents), s)) ↔
      ∀ name ∈ queryFields, ∀ f, schema.field? name = some f → f.type.isFindable = true) ∧
    ∀ (instances : List Document) (s : Store), r.checkBatch instances = .ok () →
      (∀ inst ∈ instances, ∀ name ∈ queryFields, ∀ v, Document.get? inst name = some v →
        v.isOperators = false) →
      (∀ inst ∈ instances, ∀ d ∈ s.documents, r.key? d = r.key? inst →
        ∀ name ∈ queryFields, ∀ v, Document.get? inst name = some v →
          Value.equalsOperand (Document.get? d name) (comparand name v) = true) →
      r.reconcile instances s = (.ok (r.plan instances s.documents), s) := by
  have hs := SchemaDraft.build_wellFormed hbuild
  have hr := legalName_of_make hs hmake
  obtain ⟨rfl, hknown⟩ := make_eq_ok hmake
  refine ⟨⟨?_, ?_⟩, ?_⟩
  · -- a field of any other type has two samples that lose each other
    intro hall name hname f hf
    rw [← Bool.not_eq_false]
    intro h
    obtain ⟨inst, s, hinst, hcheck, hconforms, hne⟩ :=
      exists_reconcile_ne_plan hs hmake hupdate hname hf h
    exact hne (hall [inst] s (fun d hd => List.mem_singleton.mp hd ▸ hinst) hcheck hconforms)
  · -- values of findable types are no operators, and are found by what shares their key
    intro hfindable instances s hdescribed hcheck hconforms
    refine reconcile_eq_plan hr hcheck (fun _ inst hinst name hname v hv => ?_)
      fun inst hinst d hd hkey => ?_
    · obtain ⟨f, hf⟩ := hknown name hname
      have htype := hfindable name hname f hf
      obtain ⟨rfl, rfl | hmem⟩ := Schema.field?_eq_some hf
      · cases htype
      · exact FieldType.isOperators_of_isFindable htype
          ((hdescribed inst hinst).values f hmem v hv)
    · obtain ⟨key, hinstkey⟩ := exists_key?_of_checkBatch hcheck hinst
      exact asks_of_key?_eq hs hmake hfindable (hdescribed inst hinst) (hconforms d hd) hinstkey
        (hkey.trans hinstkey)
  · -- for other types the two conditions are what reading the candidates needs
    intro instances s hcheck hplain hasks
    exact reconcile_eq_plan hr hcheck (fun _ => hplain)
      fun inst hinst d hd hkey => asks_eq_true.mpr (hasks inst hinst d hd hkey)

/-- The theorem at an optional integer, whose values are all found, and at a list of integers. -/
theorem reconcile_loses_nothing_integers :
    ∃ schema schema' r r', make schema ["n"] none = .ok r ∧ make schema' ["n"] none = .ok r' ∧
      schema.fields = [{ name := "n", type := .optional .int }] ∧
      schema'.fields = [{ name := "n", type := .array .int }] ∧
      (∀ (instances : List Document) (s : Store), (∀ inst ∈ instances, schema.Describes inst) →
        r.checkBatch instances = .ok () → s.Conforms schema →
        r.reconcile instances s = (.ok (r.plan instances s.documents), s)) ∧
      ¬ ∀ (instances : List Document) (s : Store), (∀ inst ∈ instances, schema'.Describes inst) →
        r'.checkBatch instances = .ok () → s.Conforms schema' →
        r'.reconcile instances s = (.ok (r'.plan instances s.documents), s) := by
  have hbuild : ∀ type, SchemaDraft.build { collection := "t", fields := [{ name := "n", type }] } =
      .ok ⟨⟨"t"⟩, [{ name := "n", type }]⟩ := by
    intro type
    have hname : Field.checkName "n" = .ok () := rfl
    have hid : "n" ≠ Document.idKey := by decide
    exact SchemaDraft.build_one_field rfl hname hid rfl
  have hmake : ∀ type, make ⟨⟨"t"⟩, [{ name := "n", type }]⟩ ["n"] none =
      .ok ⟨⟨⟨"t"⟩, [{ name := "n", type }]⟩, ["n"], none⟩ := fun _ => rfl
  have hupdate : ∀ (type : FieldType) (fields : List String), none = some fields →
      Schema.checkDeclared ⟨⟨"t"⟩, [{ name := "n", type }]⟩ fields = .ok () :=
    fun _ _ h => by cases h
  refine ⟨_, _, _, _, hmake (.optional .int), hmake (.array .int), rfl, rfl, ?_, ?_⟩
  · refine (reconcile_loses_nothing_iff (hbuild _) (hmake _) (hupdate _)).1.mpr ?_
    intro name hname f hf
    rw [List.mem_singleton.mp hname] at hf
    cases hf
    rfl
  · intro hall
    have hfindable := (reconcile_loses_nothing_iff (hbuild _) (hmake _) (hupdate _)).1.mp hall
      "n" (List.mem_singleton_self _) _ rfl
    cases hfindable

/-- A stored list of one 32-bit integer has the key of an instance with a list of the same number
in 64 bits, and is not found for it: the instance is inserted once more. -/
theorem reconcile_misses_list_of_other_width :
    ∃ (r : Reconciler) (s : Store) (inst : Document),
      make ⟨⟨"t"⟩, [{ name := "tags", type := .array .int }]⟩ ["tags"] none = .ok r ∧
      s.documents = [[("_id", .int32 1), ("tags", .array [.int32 1])]] ∧
      inst = [("tags", .array [.int64 1])] ∧
      r.reconcile [inst] s = (.ok { inserts := [⟨0, inst⟩] }, s) ∧
      r.plan [inst] s.documents =
        { updates := [.setting 0 (.int32 1) [("tags", .array [.int64 1])]] } := by
  refine ⟨⟨⟨⟨"t"⟩, [{ name := "tags", type := .array .int }]⟩, ["tags"], none⟩,
    { documents := [[("_id", .int32 1), ("tags", .array [.int32 1])]], ids := ⟨fun _ => ⟨0⟩, 0⟩ },
    [("tags", .array [.int64 1])], rfl, rfl, rfl, rfl, rfl⟩

end Reconciler

end DocMapper
