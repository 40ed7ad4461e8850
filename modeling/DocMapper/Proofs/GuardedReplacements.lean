import DocMapper.Proofs.Confinement
import DocMapper.Proofs.ModelWrites
import DocMapper.Proofs.Targets

namespace DocMapper

/-! # The guard of replacements

A replacement without keyword arguments is refused, so that no call replaces a document that nobody
asked for. The guard counts keyword arguments and not the conditions that they impose. Arguments for
fields that filters leave out of account pass it and impose none, and then the filter that gets to
the store selects every document.
-/

/-- A call that replaces a document: the first of the matching ones in the order of storage, or in
the order of the options. -/
inductive Replacing where
  | first (upsert : Bool)
  | found (options : ReadOptions) (upsert : Bool)

namespace Replacing

/-- Makes the call, leaving its answer aside. -/
def make (m : Model) (kwargs inst : Document) : Replacing → Action Unit
  | first upsert => do let _ ← m.replaceOne kwargs inst upsert
  | found options upsert => do let _ ← m.findOneAndReplace kwargs inst options upsert

/-- What the call asks of the store. -/
def perform (m : Model) (filter replacement : Document) : Replacing → Action Unit
  | first upsert => do let _ ← Action.atomic (·.replaceOne filter replacement upsert)
  | found options upsert => do
    let _ ← m.decodeOption
      (← Action.atomic (·.findOneAndReplace filter replacement options.ordered upsert))

variable {m : Model} {kwargs inst filter replacement : Document} {s : Store} {e : Error}

/-- Without a filter the call fails before it gets to the store. -/
theorem make_of_refused (h : m.givenFilter kwargs = .error e) (call : Replacing) :
    call.make m kwargs inst s = (.error e, s) := by
  cases call <;>
    simp only [make, Model.replaceOne, Model.findOneAndReplace, Action.bind_apply, Action.check, h]

/-- What is no instance does not get to the store. -/
theorem make_of_no_instance (h : m.givenFilter kwargs = .ok filter)
    (hinst : m.replacement inst = .error e) (call : Replacing) :
    call.make m kwargs inst s = (.error e, s) := by
  cases call <;>
    simp only [make, Model.replaceOne, Model.findOneAndReplace, Action.bind_apply, Action.check, h,
      hinst]

/-- Else the store is asked with the given filter. -/
theorem make_of_given (h : m.givenFilter kwargs = .ok filter)
    (hinst : m.replacement inst = .ok replacement) (call : Replacing) :
    call.make m kwargs inst s = call.perform m filter replacement s := by
  cases call with
  | first upsert =>
    simp only [make, perform, Model.replaceOne, Action.bind_apply, Action.check, h, hinst]
  | found options upsert =>
    simp only [make, perform, Model.findOneAndReplace, Action.bind_apply, Action.check, h, hinst]
    rcases Action.atomic (·.findOneAndReplace filter replacement options.ordered upsert) s with
      ⟨_ | _, _⟩ <;> rfl

end Replacing

namespace Model

variable {m : Model} {kwargs filter : Document}

/-- A keyword argument imposes a condition: its field is one that filters take into account. -/
def Imposes (m : Model) (key : String) : Prop :=
  ∃ k field, Keyword.parse key = .ok k ∧ m.schema.field? k.field = some field ∧
    field.queryable = true

/-- A filter has a condition when one of the keyword arguments imposes one. -/
theorem filter_ne_nil_iff (hs : m.schema.WellFormed) (h : m.filter kwargs = .ok filter) :
    filter ≠ [] ↔ ∃ key ∈ Document.keys kwargs, m.Imposes key := by
  constructor
  · intro hne
    obtain ⟨⟨path, v⟩, hentry⟩ := List.exists_mem_of_ne_nil _ hne
    obtain ⟨c, hc, -⟩ := Lowering.lowered_of_filter h _ hentry
    obtain ⟨s, ⟨⟨arg, harg, hfinds⟩, -⟩, hqueryable⟩ := hc.exists_onPath
    obtain ⟨-, k, field, hk, hfield, -, hsame⟩ := hfinds.reaches rfl hs
    exact ⟨arg.1, Document.mem_keys_of_mem harg, k, field, hk, hfield, hsame ▸ hqueryable⟩
  · rintro ⟨key, hkey, k, field, hk, hfield, hqueryable⟩ rfl
    obtain ⟨v, hv⟩ := Document.exists_of_mem_keys hkey
    obtain ⟨s, hfinds, hcovered⟩ := Lowering.covers_of_filter h _ hv
    obtain ⟨-, k', field', hk', hfield', -, hsame⟩ := hfinds.reaches rfl hs
    cases hk.symm.trans hk'
    cases hfield.symm.trans hfield'
    exact absurd (hcovered (hsame.trans hqueryable)) List.not_mem_nil

/-- Replacements by the keyword arguments are guarded: the filter that gets to the store has a
condition, and where no argument imposes one every call is refused with a validation error and
changes nothing. -/
structure Guarded (m : Model) (kwargs : Document) : Prop where
  conditioned : ∀ filter, m.givenFilter kwargs = .ok filter → filter ≠ []
  refused : m.filter kwargs = .ok [] → ∀ (call : Replacing) (inst : Document) (s : Store),
    ∃ cause, call.make m kwargs inst s = (.error (.validation cause), s)

/-- Replacements are guarded exactly when there are no keyword arguments, or they are refused, or
one of them imposes a condition. -/
theorem guarded_iff (hs : m.schema.WellFormed) (kwargs : Document) :
    m.Guarded kwargs ↔ kwargs = [] ∨ (∃ e, m.filter kwargs = .error e) ∨
      ∃ key ∈ Document.keys kwargs, m.Imposes key := by
  -- without arguments every replacement is refused, so nothing can go wrong
  cases kwargs with
  | nil =>
    refine iff_of_true ⟨fun filter h => ?_, fun _ call inst s => ⟨.replacingWithoutFilter, ?_⟩⟩
      (Or.inl rfl)
    · cases h
    · exact Replacing.make_of_refused rfl call
  | cons entry rest =>
    have hgiven : m.givenFilter (entry :: rest) = m.filter (entry :: rest) := rfl
    cases hfilter : m.filter (entry :: rest) with
    | error e =>
      refine iff_of_true ⟨fun filter h => ?_, fun h => ?_⟩ (Or.inr (Or.inl ⟨e, rfl⟩))
      · cases hfilter.symm.trans (hgiven.symm.trans h)
      · cases hfilter.symm.trans h
    | ok filter =>
      -- with a filter, being guarded means that the filter is not empty
      rw [← filter_ne_nil_iff hs hfilter]
      constructor
      · exact fun h => Or.inr (Or.inr (h.conditioned filter (hgiven.trans hfilter)))
      · rintro (h | ⟨e, h⟩ | hne)
        · cases h
        · cases h
        · refine ⟨fun filter' h => ?_, fun h => ?_⟩
          · cases hfilter.symm.trans (hgiven.symm.trans h)
            exact hne
          · cases hfilter.symm.trans h
            exact absurd rfl hne

/-- Without the guard, a filter without conditions gets to the store. -/
theorem givenFilter_of_not_guarded (hs : m.schema.WellFormed) (h : ¬ m.Guarded kwargs) :
    m.givenFilter kwargs = .ok [] := by
  rw [guarded_iff hs, not_or, not_or] at h
  obtain ⟨hargs, hrefused, himposes⟩ := h
  cases hfilter : m.filter kwargs with
  | error e => exact absurd ⟨e, hfilter⟩ hrefused
  | ok filter =>
    rw [← filter_ne_nil_iff hs hfilter, not_not] at himposes
    rw [givenFilter, if_neg (by simpa using hargs), hfilter, himposes]

/-- Instances have no operators among their fields, so the store takes them as replacements. -/
theorem refuseOperators_replacement (hs : m.schema.WellFormed) {inst replacement : Document}
    (h : m.replacement inst = .ok replacement) : Document.refuseOperators replacement = .ok () := by
  have hdescribes := describes_of_replacement hs h
  refine Document.refuseOperators_of_plain fun key hkey => ?_
  obtain ⟨v, hv⟩ := Document.exists_of_mem_keys hkey
  by_cases hid : key = Document.idKey
  · rw [hid, LegalName.id.plain]
  · obtain ⟨f, hf, rfl⟩ := hdescribes.mem_fields hv hid
    exact (hs.legal f hf).plain

/-- A replacement keeps the identifier of the document whose place it takes. -/
theorem replace_replacement {inst replacement d : Document} {id : Value}
    (h : m.replacement inst = .ok replacement) (hid : Document.id? d = some id) :
    Document.replace d replacement = .ok ((Document.idKey, id) :: replacement) := by
  obtain ⟨encoded, -, h⟩ := bind_eq_ok.mp h
  cases pure_eq_ok.mp h
  have hnone : Document.id? (Document.erase encoded Document.idKey) = none :=
    Document.get?_eq_none_iff.mpr (Document.not_mem_keys_erase encoded Document.idKey)
  rw [Document.replace, hnone, Option.any_none, if_neg Bool.false_ne_true, Document.idEntry, hid,
    Document.erase_erase]
  rfl

/-- By a filter without a condition, the replacement takes the place of whatever document is stored
first. -/
theorem replaceOne_of_unconditioned (hs : m.schema.WellFormed) {inst replacement d : Document}
    {id : Value} {rest : List Document} {s : Store} (hgiven : m.givenFilter kwargs = .ok [])
    (hinst : m.replacement inst = .ok replacement) (hdocs : s.documents = d :: rest)
    (hid : Document.id? d = some id) (upsert : Bool) :
    ∃ report, m.replaceOne kwargs inst upsert s = (.ok report,
      { s with documents := ((Document.idKey, id) :: replacement) :: rest }) := by
  have hdocs' : s.documents = [] ++ d :: rest := hdocs
  obtain ⟨report, hreplaced⟩ : ∃ report, (Change.replacement replacement).ofFirst [] upsert s =
      (.ok report, { s with documents := [] ++ ((Document.idKey, id) :: replacement) :: rest }) :=
    Change.ofFirst_of_selected (refuseOperators_replacement hs hinst) hdocs'
      (fun _ h => absurd h List.not_mem_nil) rfl (replace_replacement hinst hid)
  refine ⟨report, ?_⟩
  simp only [replaceOne, Action.bind_apply, Action.check, hgiven, hinst]
  exact hreplaced

/-- When replacements are guarded, for a schema that was built. A call that replaces a document is
refused before it gets to the store, or it asks the store with the given filter. Replacements are
guarded exactly when there are no keyword arguments, or they are refused, or one of them is for a
field that filters take into account. Otherwise the given filter has no condition, and replacing
takes the place of whatever document is stored first. -/
theorem replacements_guarded_iff {draft : SchemaDraft} (hbuild : draft.build = .ok m.schema)
    (kwargs : Document) :
    (∀ (call : Replacing) (inst : Document) (s : Store),
      (∃ e, call.make m kwargs inst s = (.error e, s)) ∨
      ∃ filter replacement, m.givenFilter kwargs = .ok filter ∧
        m.replacement inst = .ok replacement ∧
        call.make m kwargs inst s = call.perform m filter replacement s) ∧
    (m.Guarded kwargs ↔ kwargs = [] ∨ (∃ e, m.filter kwargs = .error e) ∨
      ∃ key ∈ Document.keys kwargs, m.Imposes key) ∧
    (¬ m.Guarded kwargs → m.givenFilter kwargs = .ok [] ∧
      ∀ (inst replacement d : Document) (id : Value) (rest : List Document) (upsert : Bool)
        (s : Store), m.replacement inst = .ok replacement → s.documents = d :: rest →
        Document.id? d = some id →
        ∃ report, m.replaceOne kwargs inst upsert s = (.ok report,
          { s with documents := ((Document.idKey, id) :: replacement) :: rest })) := by
  have hs := SchemaDraft.build_wellFormed hbuild
  refine ⟨fun call inst s => ?_, guarded_iff hs kwargs, fun hunguarded => ?_⟩
  · -- the filter is made first and the replacement after it
    cases hgiven : m.givenFilter kwargs with
    | error e => exact Or.inl ⟨e, Replacing.make_of_refused hgiven call⟩
    | ok filter =>
      cases hinst : m.replacement inst with
      | error e => exact Or.inl ⟨e, Replacing.make_of_no_instance hgiven hinst call⟩
      | ok replacement =>
        exact Or.inr ⟨filter, replacement, rfl, rfl, Replacing.make_of_given hgiven hinst call⟩
  · have hgiven := givenFilter_of_not_guarded hs hunguarded
    exact ⟨hgiven, fun inst replacement d id rest upsert s hinst hdocs hid =>
      replaceOne_of_unconditioned hs hgiven hinst hdocs hid upsert⟩

/-- Instances with names and secrets, of which filters leave the secrets out of account. -/
def secretModel : Model where
  schema := ⟨⟨"t"⟩, [{ name := "name", type := .string },
    { name := "secret", type := .string, queryable := false }]⟩

theorem build_secretModel : SchemaDraft.build
    { collection := "t"
      fields := [{ name := "name", type := .string }, { name := "secret", type := .string }]
      excluded := ["secret"] } = .ok secretModel.schema := rfl

/-- The theorem at names and secrets: with a name among the keyword arguments replacements are
guarded, with a secret alone they are not. -/
theorem replacements_guarded_by_name :
    secretModel.Guarded [("secret", .string "z"), ("name", .string "a")] ∧
      ¬ secretModel.Guarded [("secret", .string "z")] := by
  have himposes : secretModel.Imposes "name" := ⟨_, _, rfl, rfl, rfl⟩
  have hspares : ¬ secretModel.Imposes "secret" := by
    rintro ⟨k, field, hk, hfield, hqueryable⟩
    cases hk
    cases hfield
    cases hqueryable
  constructor
  · exact (replacements_guarded_iff build_secretModel _).2.1.mpr
      (Or.inr (Or.inr ⟨"name", by simp, himposes⟩))
  · intro hguarded
    rcases (replacements_guarded_iff build_secretModel _).2.1.mp hguarded with
      h | ⟨e, h⟩ | ⟨key, hkey, h⟩
    · cases h
    · cases h
    · cases List.mem_singleton.mp hkey
      exact hspares h

/-- A keyword argument for a field that filters leave out of account passes the guard, and the
document that is stored first is replaced although its secret is another. -/
theorem excluded_argument_passes_the_guard :
    ∃ s : Store,
      s.documents = [[("_id", .int32 1), ("name", .string "a"), ("secret", .string "s")]] ∧
      secretModel.givenFilter [("secret", .string "z")] = .ok [] ∧
      secretModel.replaceOne [("secret", .string "z")]
          [("name", .string "b"), ("secret", .string "t")] false s =
        (.ok { matched := 1, modified := 1 }, { s with documents :=
          [[("_id", .int32 1), ("name", .string "b"), ("secret", .string "t")]] }) := by
  let s : Store :=
    { documents := [[("_id", .int32 1), ("name", .string "a"), ("secret", .string "s")]]
      ids := ⟨fun _ => ⟨0⟩, 0⟩ }
  exact ⟨s, rfl, rfl, rfl⟩

end Model

end DocMapper
