import DocMapper.Proofs.NormalForms
import DocMapper.Proofs.ServerCode
import DocMapper.Store.Call

namespace DocMapper

/-! # Calls that are accepted

Calls go to the store past the keywords, in twelve shapes, and each shape must make the checks that
it owes. They are said here once for all shapes, by what a call has: documents that the store gets
as they are written, changes, a field, and payloads. A call is accepted exactly when these pass, and
comes back with its payloads in normal form and otherwise as it was. What was accepted passes again,
unchanged. It is safe if, beyond that, it has no scope of code with an operator that runs code, and
moves no field to a path outside of the schema: neither is looked at.
-/

/-- A dotted path is the name, or goes on behind it. -/
def Path.StartsAt (path name : String) : Prop := path = name ∨ ∃ rest, path = name ++ "." ++ rest

namespace Text

/-- A text is its first segment, or goes on behind it with the separator. -/
theorem eq_or_exists_of_cut (c : Char) (s : List Char) :
    s = (cut c s).1 ∨ ∃ rest, s = (cut c s).1 ++ c :: rest := by
  induction s with
  | nil => exact Or.inl rfl
  | cons x s ih =>
    rw [cut]
    by_cases hx : x = c
    · exact Or.inr ⟨s, by simp [hx]⟩
    · simp only [if_neg hx]
      rcases ih with hs | ⟨rest, hs⟩
      · exact Or.inl (congrArg (x :: ·) hs)
      · exact Or.inr ⟨rest, congrArg (x :: ·) hs⟩

end Text

/-- The first segment of a path says at which name without dots it starts. -/
theorem Path.head_eq_iff_startsAt {path name : String} (h : '.' ∉ name.toList) :
    (Path.ofString path).head = name ↔ Path.StartsAt path name := by
  constructor
  · rintro rfl
    have hhead : (Path.ofString path).head.toList = (Text.cut '.' path.toList).1 :=
      String.toList_ofList
    rcases Text.eq_or_exists_of_cut '.' path.toList with hpath | ⟨rest, hpath⟩
    · exact Or.inl (String.toList_inj.mp (hpath.trans hhead.symm))
    · refine Or.inr ⟨String.ofList rest, String.toList_inj.mp ?_⟩
      rw [hpath, ← hhead]
      simp
  · rintro (rfl | ⟨rest, rfl⟩)
    · rw [Path.ofString_of_dotless h]
    · simp [Path.ofString, Text.cut_append h]

namespace Schema

variable {s : Schema}

/-- The name is the one of a field that the schema knows. -/
def Knows (s : Schema) (name : String) : Prop := name = Document.idKey ∨ name ∈ s.fieldNames

theorem checkDeclared_eq_ok (hs : s.WellFormed) {names : List String} :
    s.checkDeclared names = .ok () ↔ ∀ name ∈ names, s.Knows name :=
  ⟨fun h _ hname => known_of_checkDeclared h hname, checkDeclared_of_known hs⟩

theorem exists_declared_iff (hs : s.WellFormed) {name : String} :
    (∃ field, s.declared name = .ok field) ↔ s.Knows name := by
  constructor
  · rintro ⟨field, h⟩
    exact known_of_field? (declared_eq_ok.mp h)
  · intro h
    have hdeclared : s.checkDeclared [name] = .ok () :=
      (checkDeclared_eq_ok hs).mpr (List.forall_mem_singleton.mpr h)
    rcases bind_eq_ok.mp (forM_eq_ok.mp hdeclared name List.mem_cons_self) with ⟨field, hfield, -⟩
    exact ⟨field, hfield⟩

/-- An update is made of operators, at least one, which write at paths inside known fields. -/
structure AllowsChanges (s : Schema) (update : Document) : Prop where
  nonempty : update ≠ []
  operators : ∀ entry ∈ update,
    isOperatorKey entry.1 = true ∧ ∃ fields, entry.2 = .document fields
  paths : ∀ path ∈ Document.writtenPaths update, ∃ name, s.Knows name ∧ Path.StartsAt path name

end Schema

namespace StoreCall

variable {s : Schema} {call accepted : StoreCall} {update : Document}

/-! ## What a call has -/

/-- The documents that the store gets as they are written: filters, updates and pipelines. -/
def asWritten : StoreCall → List Document
  | find filter _ | findOne filter _ | count filter | distinct _ filter | deleteOne filter
  | deleteMany filter | replaceOne filter _ _ => [filter]
  | aggregate pipeline => pipeline
  | updateOne filter update _ | updateMany filter update _ => [filter, update]
  | insertOne _ | insertMany _ => []

/-- The update of a call. -/
def changes? : StoreCall → Option Document
  | updateOne _ update _ | updateMany _ update _ => some update
  | _ => none

/-- The field whose values a call asks for. -/
def distinctField? : StoreCall → Option String
  | distinct field _ => some field
  | _ => none

/-- The documents that a call puts into the store. -/
def payloads : StoreCall → List Document
  | insertOne document => [document]
  | insertMany documents => documents
  | replaceOne _ replacement _ => [replacement]
  | _ => []

/-- The documents that a call submits to the schema: its payloads, and a replacement without its
identifier. -/
def submitted : StoreCall → List Document
  | replaceOne _ replacement _ => [Document.erase replacement Document.idKey]
  | call => call.payloads

/-- The call with other payloads, and all else as it is. -/
def withPayloads : StoreCall → List Document → StoreCall
  | insertOne _, [document] => insertOne document
  | insertMany _, documents => insertMany documents
  | replaceOne filter _ upsert, [replacement] => replaceOne filter replacement upsert
  | call, _ => call

@[simp] theorem withPayloads_payloads (call : StoreCall) :
    call.withPayloads call.payloads = call := by
  cases call <;> rfl

/-- Other payloads leave what is written alone. -/
@[simp] theorem asWritten_withPayloads (call : StoreCall) (docs : List Document) :
    (call.withPayloads docs).asWritten = call.asWritten := by
  unfold withPayloads
  split <;> rfl

@[simp] theorem changes?_withPayloads (call : StoreCall) (docs : List Document) :
    (call.withPayloads docs).changes? = call.changes? := by
  unfold withPayloads
  split <;> rfl

@[simp] theorem distinctField?_withPayloads (call : StoreCall) (docs : List Document) :
    (call.withPayloads docs).distinctField? = call.distinctField? := by
  unfold withPayloads
  split <;> rfl

/-- The paths to which an update moves fields. They stand in it as values. -/
def renamedPaths (update : Document) : List String :=
  update.flatMap fun entry =>
    match entry with
    | ("$rename", .document fields) => fields.filterMap fun field =>
      match field.2 with
      | .string path => some path
      | _ => none
    | _ => []

/-- The call moves fields to paths that start at known fields only. -/
def RenamesWithin (s : Schema) (call : StoreCall) : Prop :=
  ∀ update, call.changes? = some update → ∀ path ∈ renamedPaths update,
    ∃ name, s.Knows name ∧ Path.StartsAt path name

/-! ## The checks -/

/-- What a call must pass besides having its payloads normalized: no dangerous operator is a key in
the documents and lists that the store gets as they are written, its changes are allowed, and its
field is known. -/
@[mk_iff] structure Passes (s : Schema) (call : StoreCall) : Prop where
  vetted : ∀ d ∈ call.asWritten, (Value.document d).Vetted
  changes : ∀ update, call.changes? = some update → s.AllowsChanges update
  field : ∀ name, call.distinctField? = some name → s.Knows name

theorem checkOperator_eq_ok (hs : s.WellFormed) {entry : String × Value} :
    checkOperator s entry = .ok () ↔ isOperatorKey entry.1 = true ∧
      ∃ fields, entry.2 = .document fields ∧
        ∀ path ∈ Document.keys fields, s.Knows (Path.ofString path).head := by
  rcases entry with ⟨key, operand⟩
  simp only [checkOperator]
  by_cases hkey : isOperatorKey key = true
  · rw [if_pos hkey]
    cases operand with
    | document fields =>
      rw [Schema.checkDeclared_eq_ok hs]
      simp [hkey]
    | _ => simp
  · rw [if_neg hkey]
    simp [hkey]

/-- The first segment of a path is a known field when the path starts at one. -/
theorem knows_head_iff (hs : s.WellFormed) {path : String} :
    s.Knows (Path.ofString path).head ↔ ∃ name, s.Knows name ∧ Path.StartsAt path name := by
  have hdotless : ∀ name, s.Knows name → '.' ∉ name.toList := by
    rintro name (rfl | hname)
    · exact LegalName.id.dotless
    · rcases List.mem_map.mp hname with ⟨f, hf, rfl⟩
      exact (hs.legal f hf).dotless
  constructor
  · intro h
    exact ⟨_, h, (Path.head_eq_iff_startsAt (hdotless _ h)).mp rfl⟩
  · rintro ⟨name, hname, hstarts⟩
    rwa [(Path.head_eq_iff_startsAt (hdotless name hname)).mpr hstarts]

/-- The changes of a call pass when they are vetted and allowed. -/
theorem checkChanges_eq_ok (hs : s.WellFormed) :
    checkChanges s update = .ok () ↔ (Value.document update).Vetted ∧ s.AllowsChanges update := by
  -- what the checks of single operators say of the update as a whole
  have hoperators : update.forM (checkOperator s) = .ok () ↔
      (∀ entry ∈ update, isOperatorKey entry.1 = true ∧ ∃ fields, entry.2 = .document fields) ∧
        ∀ path ∈ Document.writtenPaths update, ∃ name, s.Knows name ∧ Path.StartsAt path name := by
    rw [forM_eq_ok]
    constructor
    · intro h
      refine ⟨?_, ?_⟩
      · intro entry hentry
        rcases (checkOperator_eq_ok hs).mp (h entry hentry) with ⟨hkey, fields, hfields, -⟩
        exact ⟨hkey, fields, hfields⟩
      · intro path hpath
        rcases Document.mem_writtenPaths.mp hpath with ⟨operator, fields, hentry, hpath⟩
        rcases (checkOperator_eq_ok hs).mp (h _ hentry) with ⟨-, fields', hfields, hpaths⟩
        cases hfields
        exact (knows_head_iff hs).mp (hpaths path hpath)
    · rintro ⟨hentries, hpaths⟩ entry hentry
      rcases hentries entry hentry with ⟨hkey, fields, hfields⟩
      refine (checkOperator_eq_ok hs).mpr ⟨hkey, fields, hfields, ?_⟩
      intro path hpath
      refine (knows_head_iff hs).mpr (hpaths path ?_)
      exact Document.mem_writtenPaths.mpr ⟨entry.1, fields, hfields ▸ hentry, hpath⟩
  rw [checkChanges, bind_eq_ok]
  constructor
  · rintro ⟨⟨⟩, hvetted, h⟩
    split at h
    · cases h
    · rename_i hempty
      rcases hoperators.mp h with ⟨hentries, hpaths⟩
      exact ⟨Document.rejectDangerous_eq_ok.mp hvetted, by simpa using hempty, hentries, hpaths⟩
  · rintro ⟨hvetted, hallows⟩
    refine ⟨(), Document.rejectDangerous_eq_ok.mpr hvetted, ?_⟩
    rw [if_neg (by simpa using hallows.nonempty)]
    exact hoperators.mpr ⟨hallows.operators, hallows.paths⟩

/-- The checks of a call other than those of its payloads. -/
def check (s : Schema) : StoreCall → Except Error Unit
  | find filter _ | findOne filter _ | count filter | deleteOne filter | deleteMany filter
  | replaceOne filter _ _ => filter.rejectDangerous
  | distinct field filter => do
    let _ ← s.declared field
    filter.rejectDangerous
  | aggregate pipeline => pipeline.forM Document.rejectDangerous
  | insertOne _ | insertMany _ => .ok ()
  | updateOne filter update _ | updateMany filter update _ => do
    filter.rejectDangerous
    checkChanges s update

/-- Every shape of call is accepted in the same way: it is checked, its payloads are normalized, and
it comes back with these. -/
theorem accept_eq (s : Schema) (call : StoreCall) :
    call.accept s = do
      call.check s
      let docs ← call.submitted.mapM s.normalize
      return call.withPayloads docs := by
  -- what a call submits is a list, also where it has one document or none
  cases call with
  | insertOne document =>
    simp only [accept, check, submitted, payloads, ok_bind, List.mapM_cons, List.mapM_nil,
      bind_assoc]
    rfl
  | insertMany documents => rfl
  | replaceOne filter replacement upsert =>
    simp only [accept, check, submitted, List.mapM_cons, List.mapM_nil, bind_assoc]
    rfl
  | distinct field filter =>
    simp only [accept, check, submitted, payloads, List.mapM_nil, bind_assoc]
    rfl
  | updateOne filter update upsert | updateMany filter update upsert =>
    simp only [accept, check, submitted, payloads, List.mapM_nil, bind_assoc]
    rfl
  | _ => rfl

/-- The checks of a call succeed exactly when it passes. -/
theorem check_eq_ok (hs : s.WellFormed) : call.check s = .ok () ↔ call.Passes s := by
  rw [passes_iff]
  cases call with
  | find filter _ | findOne filter _ | count filter | deleteOne filter | deleteMany filter
  | replaceOne filter _ _ =>
    rw [check, Document.rejectDangerous_eq_ok]
    simp [asWritten, changes?, distinctField?]
  | distinct field filter =>
    rw [check, bind_eq_ok]
    simp only [Document.rejectDangerous_eq_ok, exists_and_right, Schema.exists_declared_iff hs]
    simp [asWritten, changes?, distinctField?, and_comm]
  | aggregate pipeline =>
    rw [check, forM_eq_ok]
    simp [asWritten, changes?, distinctField?, Document.rejectDangerous_eq_ok]
  | insertOne document | insertMany documents => simp [check, asWritten, changes?, distinctField?]
  | updateOne filter update upsert | updateMany filter update upsert =>
    rw [check, check_bind_eq_ok, Document.rejectDangerous_eq_ok, checkChanges_eq_ok hs]
    simp [asWritten, changes?, distinctField?, and_assoc]

/-- A call is accepted when it passes and its payloads have normal forms. -/
theorem accept_eq_ok (hs : s.WellFormed) :
    call.accept s = .ok accepted ↔ call.Passes s ∧
      ∃ docs, call.submitted.mapM s.normalize = .ok docs ∧ accepted = call.withPayloads docs := by
  rw [accept_eq, check_bind_eq_ok, check_eq_ok hs, bind_eq_ok]
  apply and_congr_right
  intro _
  apply exists_congr
  intro docs
  rw [pure_eq_ok, eq_comm (a := accepted)]

/-! ## What is accepted -/

/-- A call is prepared for the store: it passes, its payloads are in normal form, and a replacement
has no identifier. -/
structure Prepared (s : Schema) (call : StoreCall) : Prop extends call.Passes s where
  normal : ∀ d ∈ call.payloads, s.normalize d = .ok d
  withoutId : ∀ filter replacement upsert, call = replaceOne filter replacement upsert →
    Document.idKey ∉ Document.keys replacement

/-- Other payloads leave what must pass alone. -/
theorem Passes.withPayloads (h : call.Passes s) (docs : List Document) :
    (call.withPayloads docs).Passes s where
  vetted := by
    rw [asWritten_withPayloads]
    exact h.vetted
  changes := by
    rw [changes?_withPayloads]
    exact h.changes
  field := by
    rw [distinctField?_withPayloads]
    exact h.field

/-- Payloads are put in one for one, in their order. -/
theorem payloads_withPayloads {docs : List Document}
    (h : call.submitted.mapM s.normalize = .ok docs) :
    (call.withPayloads docs).payloads = docs := by
  have hlength := (forall₂_of_mapM_eq_ok h).length_eq
  cases call with
  | insertMany documents => rfl
  | insertOne document | replaceOne filter replacement upsert =>
    rcases List.length_eq_one_iff.mp hlength.symm with ⟨d, rfl⟩
    rfl
  | _ => exact (List.length_eq_zero_iff.mp hlength.symm).symm

/-- Other payloads do not make a replacement of another call. -/
theorem eq_replaceOne_of_withPayloads {docs : List Document} {filter replacement : Document}
    {upsert : Bool} (h : call.withPayloads docs = replaceOne filter replacement upsert) :
    ∃ given, call = replaceOne filter given upsert := by
  unfold withPayloads at h
  split at h
  · cases h
  · cases h
  · cases h
    exact ⟨_, rfl⟩
  · exact ⟨_, h⟩

/-- What is accepted is prepared. -/
theorem prepared_of_accept (hs : s.WellFormed) (hdefaults : ∀ f ∈ s.fields, f.DefaultTyped)
    (h : call.accept s = .ok accepted) : accepted.Prepared s := by
  rcases (accept_eq_ok hs).mp h with ⟨hpasses, docs, hdocs, rfl⟩
  refine ⟨hpasses.withPayloads docs, ?_, ?_⟩
  · intro d hd
    rw [payloads_withPayloads hdocs] at hd
    rcases exists_of_mem_mapM hdocs hd with ⟨d', -, hnormal⟩
    exact Schema.normalize_of_normalize hs hdefaults hnormal
  · intro filter replacement upsert hcall
    -- normalizing keeps the identifier, and none was submitted
    have hmem : replacement ∈ docs := by
      rw [← payloads_withPayloads hdocs, hcall]
      exact List.mem_singleton_self replacement
    rcases eq_replaceOne_of_withPayloads hcall with ⟨given, rfl⟩
    rcases exists_of_mem_mapM hdocs hmem with ⟨d, hd, hnormal⟩
    rw [List.mem_singleton.mp hd] at hnormal
    rw [← Document.get?_eq_none_iff]
    refine (Schema.id?_of_normalize hs hnormal).trans ?_
    exact Document.get?_eq_none_iff.mpr (Document.not_mem_keys_erase given Document.idKey)

/-- What is prepared is accepted as it is. -/
theorem Prepared.accept_eq (hs : s.WellFormed) (h : call.Prepared s) :
    call.accept s = .ok call := by
  refine (accept_eq_ok hs).mpr ⟨h.toPasses, call.payloads, ?_, (withPayloads_payloads call).symm⟩
  have hsubmitted : call.submitted = call.payloads := by
    cases call with
    | replaceOne filter replacement upsert =>
      have hnot := h.withoutId filter replacement upsert rfl
      rw [submitted, Document.erase_of_not_mem hnot]
      rfl
    | _ => rfl
  rw [hsubmitted]
  apply mapM_eq_ok_of_forall₂
  exact List.forall₂_same.mpr h.normal

/-- A call is safe for the store: it is prepared, no operator that runs code occurs in what the
store gets as it is written, at any depth, and every path that its changes name starts at a known
field. -/
structure Safe (s : Schema) (call : StoreCall) : Prop extends call.Prepared s where
  harmless : ∀ d ∈ call.asWritten, (Value.document d).Harmless
  renames : call.RenamesWithin s

/-- A call is accepted exactly when it passes and what it submits can be completed. It comes back
prepared, with what it submitted in normal form and all else as it was, and is accepted again as it
is. It is safe exactly when, besides, the scopes of code in what the store gets as it is written are
harmless, and no field is moved to a path outside of the schema. -/
theorem accepted_calls_are_safe_iff {draft : SchemaDraft} (hbuild : draft.build = .ok s)
    (call : StoreCall) :
    (∀ accepted, call.accept s = .ok accepted →
      (accepted.Safe s ↔
        (∀ d ∈ call.asWritten, (Value.document d).ScopesHarmless) ∧ call.RenamesWithin s) ∧
      accepted.Prepared s ∧
      (∃ docs, accepted = call.withPayloads docs ∧ call.submitted.mapM s.normalize = .ok docs) ∧
      accepted.accept s = .ok accepted) ∧
    ((∃ accepted, call.accept s = .ok accepted) ↔
      call.Passes s ∧ ∀ d ∈ call.submitted, s.Completable d) := by
  have hs := SchemaDraft.build_wellFormed hbuild
  have hdefaults := SchemaDraft.build_defaultTyped hbuild
  constructor
  · intro accepted h
    have hprepared := prepared_of_accept hs hdefaults h
    rcases (accept_eq_ok hs).mp h with ⟨-, docs, hdocs, hform⟩
    refine ⟨?_, hprepared, ⟨docs, hform, hdocs⟩, hprepared.accept_eq hs⟩
    -- the payloads are no part of what is written, so the call itself can be asked
    have hwritten : accepted.asWritten = call.asWritten := by rw [hform, asWritten_withPayloads]
    have hchanges : accepted.changes? = call.changes? := by rw [hform, changes?_withPayloads]
    constructor
    · intro hsafe
      refine ⟨fun d hd => ?_, fun update hupdate => ?_⟩
      · exact (Value.harmless_iff.mp (hsafe.harmless d (hwritten.symm ▸ hd))).2
      · exact hsafe.renames update (hchanges.trans hupdate)
    · rintro ⟨hscopes, hrenames⟩
      refine ⟨hprepared, fun d hd => ?_, fun update hupdate => ?_⟩
      · exact Value.harmless_iff.mpr ⟨hprepared.vetted d hd, hscopes d (hwritten ▸ hd)⟩
      · exact hrenames update (hchanges.symm.trans hupdate)
  · have hcompletable : (∃ docs, call.submitted.mapM s.normalize = .ok docs) ↔
        ∀ d ∈ call.submitted, s.Completable d := by
      rw [exists_mapM_eq_ok_iff]
      apply forall₂_congr
      intro d _
      exact Schema.exists_normalize_iff hs hdefaults
    rw [← hcompletable]
    constructor
    · rintro ⟨accepted, h⟩
      rcases (accept_eq_ok hs).mp h with ⟨hpasses, docs, hdocs, -⟩
      exact ⟨hpasses, docs, hdocs⟩
    · rintro ⟨hpasses, docs, hdocs⟩
      exact ⟨_, (accept_eq_ok hs).mpr ⟨hpasses, docs, hdocs, rfl⟩⟩

/-- The theorem at a replacement that comes with an identifier and without tags. -/
theorem accepted_calls_are_safe_replacement :
    SchemaDraft.build { collection := "ticket", fields := Schema.tickets.fields } =
      .ok Schema.tickets ∧
    accept Schema.tickets (replaceOne [("tags", .document [("$in", .array [.string "a"])])]
      [("_id", .int32 7), ("name", .string "b")] true) =
      .ok (replaceOne [("tags", .document [("$in", .array [.string "a"])])]
        [("name", .string "b"), ("tags", .array []), ("note", .null)] true) ∧
    Safe Schema.tickets (replaceOne [("tags", .document [("$in", .array [.string "a"])])]
      [("name", .string "b"), ("tags", .array []), ("note", .null)] true) ∧
    accept Schema.tickets (replaceOne [("tags", .document [("$in", .array [.string "a"])])]
      [("name", .string "b"), ("tags", .array []), ("note", .null)] true) =
      .ok (replaceOne [("tags", .document [("$in", .array [.string "a"])])]
        [("name", .string "b"), ("tags", .array []), ("note", .null)] true) := by
  have hbuild : SchemaDraft.build { collection := "ticket", fields := Schema.tickets.fields } =
      .ok Schema.tickets := rfl
  have haccept : accept Schema.tickets
      (replaceOne [("tags", .document [("$in", .array [.string "a"])])]
        [("_id", .int32 7), ("name", .string "b")] true) =
      .ok (replaceOne [("tags", .document [("$in", .array [.string "a"])])]
        [("name", .string "b"), ("tags", .array []), ("note", .null)] true) := rfl
  rcases (accepted_calls_are_safe_iff hbuild _).1 _ haccept with ⟨hsafe, -, -, hagain⟩
  refine ⟨hbuild, haccept, hsafe.mpr ⟨fun d hd => ?_, fun update hupdate => ?_⟩, hagain⟩
  · -- the filter has no code in it, so it has no scopes
    intro code scope hin
    rw [List.mem_singleton.mp hd] at hin
    simp [Value.standsIn_document, Value.standsIn_array] at hin
    cases hin
  · cases hupdate

/-- Calls are accepted that hide an operator in the scope of code, and such that move a field to a
name that the schema does not know. -/
theorem accepts_scopes_and_renames :
    (accept Schema.tickets (find [("name", .scopedCode "f()" [("$where", .string "x")])] {}) =
      .ok (find [("name", .scopedCode "f()" [("$where", .string "x")])] {}) ∧
    ¬ (Value.document [("name", .scopedCode "f()" [("$where", .string "x")])]).Harmless) ∧
    accept Schema.tickets (updateOne [] [("$rename", .document [("name", .string "colour")])]
        false) =
      .ok (updateOne [] [("$rename", .document [("name", .string "colour")])] false) ∧
    renamedPaths [("$rename", .document [("name", .string "colour")])] = ["colour"] ∧
    ¬ ∃ name, Schema.tickets.Knows name ∧ Path.StartsAt "colour" name := by
  have hbuild : SchemaDraft.build { collection := "ticket", fields := Schema.tickets.fields } =
      .ok Schema.tickets := rfl
  have hs := SchemaDraft.build_wellFormed hbuild
  refine ⟨⟨rfl, fun h => ?_⟩, rfl, rfl, ?_⟩
  · -- the scope stands in the filter, and has a forbidden operator among its keys
    have hin : (Value.scopedCode "f()" [("$where", .string "x")]).StandsIn
        (.document [("name", .scopedCode "f()" [("$where", .string "x")])]) :=
      .entry List.mem_cons_self .itself
    exact h "$where" List.mem_cons_self (.inScope hin (.here .itself List.mem_cons_self))
  · -- the path that the update renames to starts at no field of tickets
    rw [← knows_head_iff hs]
    unfold Schema.Knows
    decide

end StoreCall

end DocMapper
