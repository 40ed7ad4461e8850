import DocMapper.Proofs.Identities
import DocMapper.Proofs.ModelWrites
import DocMapper.Proofs.Selection
import DocMapper.Proofs.Suffixes

namespace DocMapper

/-! # Fetching what was inserted

An insertion stores an instance under its identifier as it is. A reading by identifier reads texts
of 24 hexadecimal digits as object identifiers first. So an inserted instance is fetched by the
identifier that the insertion answered, unless that is such a text.
-/

namespace Value

/-- The identifiers that instances usually have: texts, numbers and object identifiers. -/
inductive PlainId : Value → Prop
  | string (text : String) : PlainId (.string text)
  | int32 (n : Int32) : PlainId (.int32 n)
  | objectId (id : ObjectId) : PlainId (.objectId id)

namespace PlainId

variable {v : Value}

theorem equals_self (h : v.PlainId) : v.equals v = true := by
  cases h with
  | string text => exact beq_self_eq_true text
  | int32 n => exact equals_of_whole? rfl rfl
  | objectId id => exact beq_self_eq_true id

/-- A plain identifier is compared as a whole. -/
theorem equalsOperand (h : v.PlainId) (operand : Value) :
    Value.equalsOperand (some v) operand = v.equals operand := by
  cases h <;> rfl

theorem readId (h : v.PlainId) : v.readId.PlainId := by
  cases h with
  | string text =>
    rw [Value.readId]
    split
    · exact .objectId _
    · exact .string _
  | int32 n => exact .int32 n
  | objectId id => exact .objectId id

theorem not_operators (h : v.PlainId) : v.isOperators = false := by
  cases h <;> rfl

theorem harmless (h : v.PlainId) : v.rejectDangerous = .ok () := by
  cases h <;> rfl

/-- Any field may be compared with a plain identifier, if it has no type of its own. -/
theorem checkOperand (h : v.PlainId) {path : String} :
    FieldType.checkOperand path v .any = .ok () := by
  cases h <;> rfl

/-- Reading leaves a plain identifier as it is, unless it is a text that spells an object
identifier. -/
theorem readId_eq_self_iff (h : v.PlainId) :
    v.readId = v ↔ ∀ text, v = .string text → ObjectId.ofHex? text = none := by
  cases h with
  | string text =>
    rw [Value.readId]
    cases hhex : ObjectId.ofHex? text with
    | none => simp [hhex]
    | some id => simp [hhex]
  | int32 n => simp [Value.readId]
  | objectId id => simp [Value.readId]

/-- A plain identifier that reading changes does not equal what it becomes. -/
theorem readId_eq_self_of_equals (h : v.PlainId) (hequals : v.equals v.readId = true) :
    v.readId = v := by
  cases h with
  | string text =>
    rw [Value.readId] at hequals ⊢
    split
    · rename_i id hhex
      rw [hhex] at hequals
      cases hequals
    · rfl
  | int32 n => rfl
  | objectId id => rfl

end PlainId

end Value

namespace Model

variable {m : Model} {inst d : Document} {id : Value} {s s' : Store}

/-! ## What an insertion stores -/

/-- What an insertion stores of an instance: the identifier of its answer, and every declared field
with the value of the instance or the one that stands for it. -/
structure StoredForm (m : Model) (inst : Document) (id : Value) (stored : Document) : Prop where
  keys : Document.keys stored = Document.idKey :: m.schema.fieldNames
  identifier : Document.id? stored = some id
  fields : ∀ f ∈ m.schema.fields,
    Document.get? stored f.name = (Document.get? inst f.name).or f.absent?

theorem insertOne_eq_ok {inst' : Document} :
    m.insertOne inst s = (.ok (id, inst'), s') ↔
      ∃ d, m.encode inst = .ok d ∧ s.insert d = .ok (id, s') ∧ inst' = withId inst id := by
  simp only [insertOne, Action.insertOne, Action.bind_apply_eq_ok, Action.check_apply_eq_ok,
    Action.atomic_apply_eq_ok]
  constructor
  · rintro ⟨d, _, ⟨hd, rfl⟩, id', t, hinsert, h⟩
    cases h
    exact ⟨d, hd, hinsert, rfl⟩
  · rintro ⟨d, hd, hinsert, rfl⟩
    exact ⟨d, s, ⟨hd, rfl⟩, id, s', hinsert, rfl⟩

/-- What is inserted is the stored form of the instance, an instance itself. -/
theorem storedForm_of_encode (hs : m.schema.WellFormed) (hencode : m.encode inst = .ok d)
    (id : Value) :
    m.StoredForm inst id ((Document.idKey, id) :: Document.erase d Document.idKey) where
  keys := by
    rw [Document.keys_cons, (describes_of_encode hs hencode).names]
  identifier := Document.get?_cons_self _ _ _
  fields := by
    intro f hf
    have hne := hs.name_ne_id hf
    rw [Document.get?_cons_of_ne hne.symm, Document.get?_erase_of_ne hne]
    unfold encode at hencode
    rw [Schema.get?_of_normalize hs hencode hf]
    split
    · rw [Document.get?_erase_of_ne hne]
    · rfl

/-- The stored form of an instance is an instance. -/
theorem StoredForm.decode {stored : Document} (h : m.StoredForm inst id stored)
    (hencode : m.encode inst = .ok d) (hinst : m.decode inst = .ok inst) :
    m.decode stored = .ok stored := by
  refine decode_eq_ok.mpr ⟨rfl, fun name hname => ?_⟩
  have hkey := (decode_eq_ok.mp hinst).2 name hname
  rw [h.keys, List.mem_cons]
  unfold encode at hencode
  by_cases hid : name = Document.idKey
  · exact Or.inl hid
  · refine Schema.mem_keys_of_normalize hencode ?_
    split
    · exact Document.mem_keys_erase.mpr ⟨hid, hkey⟩
    · exact hkey

/-! ## Reading by identifier -/

/-- The filter of a plain identifier asks for the identifier that it is read as. -/
theorem filter_id (m : Model) (hid : id.PlainId) :
    m.filter [(Document.idKey, id)] = .ok [(Document.idKey, id.readId)] := by
  have hcomparand : Field.id.subject.comparand id = .ok id.readId := by
    rw [Subject.comparand, Subject.accept, hid.harmless, ok_bind]
    change (do FieldType.checkOperand Document.idKey id.readId .any; pure id.readId) = _
    rw [hid.readId.checkOperand]
    rfl
  have happlies : m.lowering.Applies Document.idKey id (.filter .eq) .id :=
    Lowering.applies_of_parse rfl rfl LegalName.id.parse id
  have hadd : m.lowering.addFilter [] (Document.idKey, id) =
      Field.id.subject.constrain .eq id [] := happlies.filters []
  rw [filter, Lowering.filter, List.foldlM_cons, hadd, Subject.constrain, hcomparand]
  rfl

/-- A plain identifier selects the documents that have an identifier equal to it. -/
theorem select_id {docs : List Document} (hid : id.PlainId)
    (hdocs : ∀ e ∈ docs, ∀ other, Document.id? e = some other → other.PlainId) :
    Document.select [(Document.idKey, id)] docs = .ok (docs.filter (Document.hasId id)) := by
  refine Document.select_of_satisfies fun e he => ?_
  rw [Document.satisfies_singleton LegalName.id.plain,
    Value.meets_of_not_operators hid.not_operators,
    Document.getPath?_of_legalName LegalName.id, Except.ok.injEq]
  change Value.equalsOperand (Document.id? e) id = (Document.id? e).any (·.equals id)
  cases hother : Document.id? e with
  | none => cases hid <;> rfl
  | some other => exact (hdocs e he other hother).equalsOperand id

/-- The identifier of an inserted instance is plain when the one that it came with was. -/
theorem plainId_of_inserted (hs : m.schema.WellFormed) (hencode : m.encode inst = .ok d)
    (hinserted : s.Inserted d id s')
    (hid : ∀ given, Document.id? inst = some given → given = .null ∨ given.PlainId) :
    id.PlainId := by
  have hstored := id?_encoded hs hencode
  cases hgiven : (Document.id? inst).filter (!·.isNull) with
  | none =>
    rw [hinserted.fresh (hstored.trans hgiven)]
    exact .objectId _
  | some given =>
    rw [hinserted.given given (hstored.trans hgiven)]
    obtain ⟨hinst, hnull⟩ := Option.filter_eq_some_iff.mp hgiven
    rcases hid given hinst with rfl | hplain
    · cases hnull
    · exact hplain

/-- After an insertion under a plain identifier, all identifiers are still plain. -/
theorem plainIds_of_inserted (hinserted : s.Inserted d id s') (hid : id.PlainId)
    (hids : ∀ e ∈ s.documents, ∀ other, Document.id? e = some other → other.PlainId) :
    ∀ e ∈ s'.documents, ∀ other, Document.id? e = some other → other.PlainId := by
  intro e he other hother
  rw [hinserted.documents, List.mem_append, List.mem_singleton] at he
  rcases he with he | rfl
  · exact hids e he other hother
  · rw [Document.id?, Document.get?_cons_self, Option.some.injEq] at hother
    exact hother ▸ hid

/-- A document that is read by its own identifier has one that reading leaves as it is. -/
theorem readId_eq_self_of_get {stored : Document} (hid : id.PlainId)
    (hids : ∀ e ∈ s.documents, ∀ other, Document.id? e = some other → other.PlainId)
    (hstored : Document.id? stored = some id)
    (hget : m.get [(Document.idKey, id)] s = (.ok stored, s')) : id.readId = id := by
  rw [get_apply (filter_id m hid) (select_id hid.readId hids)] at hget
  split at hget
  · rename_i found hfound
    obtain ⟨rfl, -⟩ := decode_eq_ok.mp (Prod.mk.inj hget).1
    have hmem := Document.mem_sortBy.mp (List.mem_of_mem_head? hfound)
    have hequals := (List.mem_filter.mp hmem).2
    rw [Document.hasId, hstored] at hequals
    exact hid.readId_eq_self_of_equals hequals
  · cases hget

/-- No document had the identifier before, so an insertion leaves one that has it. -/
theorem filter_hasId_of_inserted (hinserted : s.Inserted d id s') (hid : id.PlainId) :
    s'.documents.filter (Document.hasId id) =
      [(Document.idKey, id) :: Document.erase d Document.idKey] := by
  have hbefore : s.documents.filter (Document.hasId id) = [] := by
    rw [List.filter_eq_nil_iff]
    intro e he htrue
    rw [hinserted.unused e he] at htrue
    cases htrue
  have hnew : Document.hasId id ((Document.idKey, id) :: Document.erase d Document.idKey) =
      true := by
    rw [Document.hasId, Document.id?, Document.get?_cons_self]
    exact hid.equals_self
  rw [hinserted.documents, List.filter_append, hbefore, List.nil_append, List.filter_singleton,
    hnew]
  rfl

/-- An inserted instance is fetched by its identifier, and is the only one that counts under it,
exactly when the identifier is no text that spells an object identifier. Reading by such a text asks
for the object identifier, and the insertion stored the text. -/
theorem inserted_is_fetched_iff (m : Model) {draft : SchemaDraft}
    (hbuild : draft.build = .ok m.schema) {inst' : Document} (hinst : m.decode inst = .ok inst)
    (hid : ∀ given, Document.id? inst = some given → given = .null ∨ given.PlainId)
    (hids : ∀ e ∈ s.documents, ∀ other, Document.id? e = some other → other.PlainId)
    (h : m.insertOne inst s = (.ok (id, inst'), s')) :
    ∃ stored, s'.documents = s.documents ++ [stored] ∧ m.StoredForm inst id stored ∧
      ((m.get [(Document.idKey, id)] s' = (.ok stored, s') ∧
          m.count [(Document.idKey, id)] s' = (.ok 1, s')) ↔
        ∀ text, id = .string text → ObjectId.ofHex? text = none) := by
  have hs := SchemaDraft.build_wellFormed hbuild
  obtain ⟨d, hencode, hinsert, rfl⟩ := insertOne_eq_ok.mp h
  have hinserted := Store.insert_eq_ok hinsert
  have hplain := plainId_of_inserted hs hencode hinserted hid
  have hids' := plainIds_of_inserted hinserted hplain hids
  have hform := storedForm_of_encode hs hencode id
  refine ⟨_, hinserted.documents, hform, ?_⟩
  rw [← hplain.readId_eq_self_iff]
  constructor
  · -- what is fetched has the identifier as it was read, so reading changed nothing
    rintro ⟨hget, -⟩
    exact readId_eq_self_of_get hplain hids' hform.identifier hget
  · -- an identifier that reads as itself selects the inserted document alone
    intro hread
    have hfilter := filter_id m hplain
    have hselect := select_id hplain hids'
    rw [hread] at hfilter
    rw [filter_hasId_of_inserted hinserted hplain] at hselect
    constructor
    · rw [get_apply hfilter hselect, Document.sortBy, List.mergeSort_singleton]
      exact congrArg (·, s') (hform.decode hencode hinst)
    · rw [count_apply hfilter hselect]
      rfl

/-- A model of instances with a name. -/
def nameModel : Model := { schema := ⟨⟨"t"⟩, [{ name := "name", type := .string }]⟩ }

theorem build_nameModel : SchemaDraft.build
    { collection := "t", fields := [{ name := "name", type := .string }] } =
    .ok nameModel.schema :=
  SchemaDraft.build_one_field rfl rfl (by decide) rfl

/-- The theorem at a text as identifier, beside a document with a number as identifier. -/
theorem inserted_is_fetched_by_text :
    ∃ (s s' : Store) (inst' stored : Document),
      s.documents = [[("_id", .int32 1), ("name", .string "a")]] ∧
      nameModel.insertOne [("_id", .string "ab"), ("name", .string "b")] s =
        (.ok (.string "ab", inst'), s') ∧
      nameModel.get [("_id", .string "ab")] s' = (.ok stored, s') ∧
      nameModel.count [("_id", .string "ab")] s' = (.ok 1, s') ∧
      Document.get? stored "name" = some (.string "b") := by
  let s : Store :=
    { documents := [[("_id", .int32 1), ("name", .string "a")]], ids := ⟨fun _ => ⟨0⟩, 0⟩ }
  let s' : Store :=
    { s with documents := [[("_id", .int32 1), ("name", .string "a")],
        [("_id", .string "ab"), ("name", .string "b")]] }
  have hinsert : nameModel.insertOne [("_id", .string "ab"), ("name", .string "b")] s =
      (.ok (.string "ab", [("_id", .string "ab"), ("name", .string "b")]), s') := rfl
  have hid : ∀ given, Document.id? [("_id", .string "ab"), ("name", .string "b")] = some given →
      given = .null ∨ given.PlainId := by
    intro given hgiven
    cases hgiven
    exact Or.inr (.string "ab")
  have hids : ∀ e ∈ s.documents, ∀ other, Document.id? e = some other → other.PlainId := by
    intro e he other hother
    cases List.mem_singleton.mp he
    cases hother
    exact .int32 1
  obtain ⟨stored, -, hform, hfetched⟩ :=
    inserted_is_fetched_iff nameModel build_nameModel rfl hid hids hinsert
  have htext : ∀ text, Value.string "ab" = .string text → ObjectId.ofHex? text = none := by
    intro text heq
    cases heq
    rfl
  obtain ⟨hget, hcount⟩ := hfetched.mpr htext
  exact ⟨s, s', _, stored, rfl, hinsert, hget, hcount, hform.fields _ List.mem_cons_self⟩

/-- An instance that is inserted under a text of 24 hexadecimal digits is not there when it is asked
for by its identifier. -/
theorem hex_text_is_not_fetched :
    ∃ (s s' : Store) (inst' : Document),
      nameModel.insertOne [("_id", .string "0123456789abcdef01234567"), ("name", .string "x")] s =
        (.ok (.string "0123456789abcdef01234567", inst'), s') ∧
      nameModel.get [("_id", .string "0123456789abcdef01234567")] s' =
        (.error (.doesNotExist "t" [("_id", .objectId ⟨0x0123456789abcdef01234567⟩)]), s') ∧
      nameModel.count [("_id", .string "0123456789abcdef01234567")] s' = (.ok 0, s') := by
  let inst : Document := [("_id", .string "0123456789abcdef01234567"), ("name", .string "x")]
  let s : Store := { ids := ⟨fun _ => ⟨0⟩, 0⟩ }
  let s' : Store := { s with documents := [inst] }
  have hinsert : nameModel.insertOne inst s =
      (.ok (.string "0123456789abcdef01234567", inst), s') := rfl
  -- the text has the form of an identifier, so the filter has that in its place
  have hhex : ObjectId.ofHex? "0123456789abcdef01234567" =
      some ⟨0x0123456789abcdef01234567⟩ := by decide +kernel
  have hfilter := filter_id nameModel (.string "0123456789abcdef01234567")
  simp only [Value.readId, hhex] at hfilter
  have hselect : Document.select [("_id", .objectId ⟨0x0123456789abcdef01234567⟩)] s'.documents =
      .ok [] := rfl
  have hget := get_apply hfilter hselect
  rw [Document.sortBy, List.mergeSort_nil] at hget
  exact ⟨s, s', inst, hinsert, hget, count_apply hfilter hselect⟩

end Model

end DocMapper
