import DocMapper.Proofs.Subjects

namespace DocMapper

/-! # Nested keywords without nested paths

A nested keyword that leads into a field without nested paths is refused, or stands for the field
that is named by the whole of it, as the policy says. With a schema that was built there is no such
field: the whole of a nested keyword has a pair of underscores in it, and no name has one. So both
policies refuse the keyword, each in its own words, and they agree on everything else.
-/

/-! ## Computations that differ in their errors -/

section Outcomes

variable {ε α β : Type}

/-- Two computations end alike, or each in an error, and the two errors are related. -/
inductive SameUpTo (R : ε → ε → Prop) : Except ε α → Except ε α → Prop
  | same (x : Except ε α) : SameUpTo R x x
  | errors {e e' : ε} (h : R e e') : SameUpTo R (.error e) (.error e')

namespace SameUpTo

variable {R : ε → ε → Prop} {x y : Except ε α}

/-- What one of them gives, the other one gives. -/
theorem eq_ok_iff (h : SameUpTo R x y) (a : α) : x = .ok a ↔ y = .ok a := by
  cases h with
  | same => exact Iff.rfl
  | errors => simp

theorem bind {f g : α → Except ε β} (h : SameUpTo R x y)
    (hnext : ∀ a, x = .ok a → SameUpTo R (f a) (g a)) : SameUpTo R (x >>= f) (y >>= g) := by
  cases h with
  | same =>
    cases x with
    | error e => exact .same _
    | ok a => exact hnext a rfl
  | errors h => exact .errors h

/-- Folds with steps that differ in their errors differ in their errors. -/
theorem foldlM {f g : β → α → Except ε β} {l : List α}
    (hstep : ∀ a ∈ l, ∀ b, SameUpTo R (f b a) (g b a)) (b : β) :
    SameUpTo R (l.foldlM f b) (l.foldlM g b) := by
  induction l generalizing b with
  | nil => exact .same _
  | cons a rest ih =>
    rw [List.foldlM_cons, List.foldlM_cons]
    apply (hstep a List.mem_cons_self b).bind
    intro c _
    exact ih (fun a' ha' => hstep a' (List.mem_cons_of_mem _ ha')) c

end SameUpTo

end Outcomes

/-- The keyword is nested, but its field has no nested paths, or there is no such field. -/
def Keyword.StraysFrom (k : Keyword) (schema : Schema) : Prop :=
  k.isNested = true ∧ ∀ field, schema.field? k.field = some field → field.type.isMapping = false

/-- No field of a schema that was built is named by the whole of a nested keyword. -/
theorem Schema.WellFormed.declared_literal {schema : Schema} (hs : schema.WellFormed) {k : Keyword}
    (hk : k.isNested = true) :
    schema.declared k.literal = .error (schema.undeclared k.literal) := by
  cases hdeclared : schema.declared k.literal with
  | ok field =>
    have hfield := Schema.declared_eq_ok.mp hdeclared
    have hname : field.name = k.literal := (Schema.field?_eq_some hfield).1
    exact absurd hname ((hs.legal_of_field? hfield).ne_literal hk)
  | error e =>
    rw [Schema.declared] at hdeclared
    split at hdeclared
    · cases hdeclared
    · exact hdeclared.symm

/-- What a nested keyword looks like as it is written is longer than its first segment. -/
theorem Keyword.literal_ne_field {k : Keyword} (hk : k.isNested = true) : k.literal ≠ k.field := by
  intro h
  have hlength := congrArg String.length h
  rw [Keyword.literal, Keyword.path] at hlength
  cases hinner : k.inner with
  | nil => simp [Keyword.isNested, hinner] at hk
  | cons next others =>
    have hpair : "__".length = 2 := rfl
    rw [hinner, String.intercalate_cons_cons, String.length_append, String.length_append] at hlength
    omega

namespace Lowering

variable {l l' : Lowering} {schema : Schema} {key : String} {k : Keyword} {kwargs : Document}
  {policy policy' : SuffixPolicy}

/-- The error for a keyword that strays: taken literally it is not declared, and otherwise its last
segment is no operator, or its field is not declared. -/
def strayError (policy : SuffixPolicy) (schema : Schema) (key : String) (k : Keyword) : Error :=
  match policy, schema.field? k.field with
  | .literal, _ => schema.undeclared k.literal
  | .reject, some _ => unknownOperator key k
  | .reject, none => schema.undeclared k.field

/-- The errors are those that the two policies have for one keyword, which strays. -/
def StrayErrors (policy policy' : SuffixPolicy) (schema : Schema) (kwargs : Document)
    (e e' : Error) : Prop :=
  ∃ entry ∈ kwargs, ∃ k, Keyword.parse entry.1 = .ok k ∧ k.StraysFrom schema ∧
    e = strayError policy schema entry.1 k ∧ e' = strayError policy' schema entry.1 k

/-- The policies say different things of a keyword that strays. -/
theorem strayError_ne (h : k.StraysFrom schema) :
    strayError .literal schema key k ≠ strayError .reject schema key k := by
  intro heq
  cases hfield : schema.field? k.field with
  | some field => simp [strayError, hfield, unknownOperator, Schema.undeclared] at heq
  | none =>
    simp only [strayError, hfield, Schema.undeclared, Error.undeclaredField.injEq] at heq
    exact Keyword.literal_ne_field h.1 heq.1

/-! ## The policy at each step -/

theorem fieldOf_of_strays (hs : schema.WellFormed) (h : k.StraysFrom schema) :
    l.fieldOf schema key k = .error (strayError l.policy schema key k) := by
  rcases h with ⟨hnested, hplain⟩
  rw [fieldOf, if_pos hnested, hs.declared_literal hnested]
  cases hfield : schema.field? k.field with
  | none => cases hpolicy : l.policy <;> simp [strayError, hfield]
  | some field => cases hpolicy : l.policy <;> simp [strayError, hfield, hplain field hfield]

/-- The policy has no say about a keyword that does not stray. -/
theorem fieldOf_of_not_strays (h : ¬ k.StraysFrom schema) :
    l.fieldOf schema key k = schema.declared k.field := by
  rw [fieldOf]
  split
  · rename_i hnested
    -- the field of such a keyword is there, and has nested paths
    have hmapping : ∃ field, schema.field? k.field = some field ∧ field.type.isMapping = true := by
      by_contra hnone
      apply h
      refine ⟨hnested, fun field hfield => ?_⟩
      by_contra hmapping
      exact hnone ⟨field, hfield, by simpa using hmapping⟩
    rcases hmapping with ⟨field, hfield, hmapping⟩
    simp only [hfield, hmapping, if_true]
    exact (Schema.declared_eq_ok.mpr hfield).symm
  · rfl

section Steps

variable (hs : schema.WellFormed) (hl : l.schema? = some schema) (hl' : l'.schema? = some schema)

include hs hl hl'

/-- What a keyword addresses does not depend on the policy, as long as it addresses anything. -/
theorem sameUpTo_subject {entry : String × Value} (hentry : entry ∈ kwargs)
    (hk : Keyword.parse entry.1 = .ok k) :
    SameUpTo (StrayErrors l.policy l'.policy schema kwargs) (l.subject entry.1 k)
      (l'.subject entry.1 k) := by
  simp only [subject, hl, hl']
  by_cases hstrays : k.StraysFrom schema
  · rw [fieldOf_of_strays hs hstrays, fieldOf_of_strays hs hstrays]
    exact .errors ⟨entry, hentry, k, hk, hstrays, rfl, rfl⟩
  · rw [fieldOf_of_not_strays hstrays, fieldOf_of_not_strays hstrays]
    exact .same _

theorem sameUpTo_addFilter {entry : String × Value} (hentry : entry ∈ kwargs)
    (draft : FilterDraft) :
    SameUpTo (StrayErrors l.policy l'.policy schema kwargs) (l.addFilter draft entry)
      (l'.addFilter draft entry) := by
  apply (SameUpTo.same (Keyword.parse entry.1)).bind
  intro k hk
  apply (sameUpTo_subject hs hl hl' hentry hk).bind
  intro s _
  exact .same _

theorem sameUpTo_addUpdate {entry : String × Value} (hentry : entry ∈ kwargs)
    (draft : UpdateDraft) :
    SameUpTo (StrayErrors l.policy l'.policy schema kwargs) (l.addUpdate draft entry)
      (l'.addUpdate draft entry) := by
  apply (SameUpTo.same (Keyword.parse entry.1)).bind
  intro k hk
  apply (sameUpTo_subject hs hl hl' hentry hk).bind
  intro s _
  exact .same _

/-! ## The policy in a whole run -/

theorem sameUpTo_filter (kwargs : Document) :
    SameUpTo (StrayErrors l.policy l'.policy schema kwargs) (l.filter kwargs)
      (l'.filter kwargs) := by
  apply (SameUpTo.foldlM (fun entry hentry draft => sameUpTo_addFilter hs hl hl' hentry draft)
    []).bind
  intro draft _
  exact .same _

theorem sameUpTo_update (kwargs : Document) :
    SameUpTo (StrayErrors l.policy l'.policy schema kwargs) (l.update kwargs)
      (l'.update kwargs) := by
  apply (SameUpTo.foldlM (fun entry hentry draft => sameUpTo_addUpdate hs hl hl' hentry draft)
    {}).bind
  intro draft _
  exact .same _

end Steps

/-- With a schema, what keyword arguments become does not depend on the policy. Where the outcomes
differ, both are errors for one keyword, which is nested but leads into no field with nested paths:
taken literally it is not declared, and otherwise its last segment is no operator, or its first one
is not declared. -/
theorem policies_differ_in_errors {draft : SchemaDraft} (hbuild : draft.build = .ok schema)
    (kwargs : Document) :
    (∀ filter, Lowering.filter { schema? := some schema, policy := .literal } kwargs = .ok filter ↔
      Lowering.filter { schema? := some schema, policy := .reject } kwargs = .ok filter) ∧
    (∀ change, Lowering.update { schema? := some schema, policy := .literal } kwargs = .ok change ↔
      Lowering.update { schema? := some schema, policy := .reject } kwargs = .ok change) ∧
    SameUpTo (StrayErrors .literal .reject schema kwargs)
      (Lowering.filter { schema? := some schema, policy := .literal } kwargs)
      (Lowering.filter { schema? := some schema, policy := .reject } kwargs) ∧
    SameUpTo (StrayErrors .literal .reject schema kwargs)
      (Lowering.update { schema? := some schema, policy := .literal } kwargs)
      (Lowering.update { schema? := some schema, policy := .reject } kwargs) ∧
    ∀ e e', StrayErrors .literal .reject schema kwargs e e' → e ≠ e' := by
  have hs := SchemaDraft.build_wellFormed hbuild
  -- both lowerings take the same steps, except that a stray suffix has an error of each policy
  have hfilter := @sameUpTo_filter { schema? := some schema, policy := .literal }
    { schema? := some schema, policy := .reject } schema hs rfl rfl kwargs
  have hupdate := @sameUpTo_update { schema? := some schema, policy := .literal }
    { schema? := some schema, policy := .reject } schema hs rfl rfl kwargs
  refine ⟨hfilter.eq_ok_iff, hupdate.eq_ok_iff, hfilter, hupdate, ?_⟩
  rintro e e' ⟨entry, hentry, k, hk, hstrays, rfl, rfl⟩
  exact strayError_ne hstrays

/-- Items with settings, which accept nested paths, and a position, which does not. -/
def items : Schema :=
  ⟨⟨"item"⟩, [{ name := "config", type := .mapping }, { name := "position", type := .int }]⟩

/-- The theorem at items: a nested keyword for the settings is accepted when it is not to be taken
literally, so it is accepted when it is, and a nested keyword for the position is refused. -/
theorem policies_differ_in_errors_of_items :
    SchemaDraft.build { collection := "item", fields := items.fields } = .ok items ∧
    Lowering.filter { schema? := some items, policy := .literal }
        [("config__mode", .string "x"), ("position__gte", .int32 1)] =
      .ok [("config.mode", .string "x"), ("position", .document [("$gte", .int32 1)])] ∧
    (∀ filter, Lowering.filter { schema? := some items, policy := .literal }
      [("position__contains", .int32 1)] ≠ .ok filter) ∧
    ∀ change, Lowering.update { schema? := some items, policy := .literal }
      [("position__contains", .int32 1), ("config__mode__set", .string "y")] ≠ .ok change := by
  have hbuild : SchemaDraft.build { collection := "item", fields := items.fields } =
      .ok items := rfl
  refine ⟨hbuild, ((policies_differ_in_errors hbuild _).1 _).mpr rfl, ?_, ?_⟩
  · intro filter hfilter
    cases ((policies_differ_in_errors hbuild _).1 filter).mp hfilter
  · intro change hchange
    cases ((policies_differ_in_errors hbuild _).2.1 change).mp hchange

end Lowering

end DocMapper
