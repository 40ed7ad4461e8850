import DocMapper.Proofs.Paths
import DocMapper.ReadOptions

namespace DocMapper

/-! # Projections

A projection copies the values at its paths into a document that is a part of the source from the
start and stays one, so no write is refused on the way. Included paths may lead into one another.
Once a path reads what it reads in the source, it goes on doing so whatever is copied after it, and
what is neither an included path nor below one never gets a value.
-/

namespace Document

variable {d out out' projection : Document} {path : String} {v : Value}

/-! ## Documents of entries -/

/-- A document of entries has all of them, if no key has two values. -/
theorem mem_ofEntries {entries : List (String × Value)}
    (h : ∀ entry ∈ entries, ∀ other ∈ entries, entry.1 = other.1 → entry = other)
    {entry : String × Value} : entry ∈ ofEntries entries ↔ entry ∈ entries := by
  refine ⟨fun hentry => (mem_of_mem_insertAll hentry).resolve_right List.not_mem_nil,
    fun hentry => ?_⟩
  have hkey : entry.1 ∈ keys (ofEntries entries) :=
    mem_keys_insertAll.mpr (Or.inr (mem_keys_of_mem hentry))
  obtain ⟨v, hv⟩ := exists_of_mem_keys hkey
  have hv' := (mem_of_mem_insertAll hv).resolve_right List.not_mem_nil
  rwa [h entry hentry _ hv' rfl]

/-! ## Copying paths -/

/-- Copies the value at a path, if there is one; a write that is refused is an error. -/
def copyPath? (d out : Document) (path : String) : Except PathBlocked Document :=
  match getPath? d path with
  | some v => setPath out path v
  | none => .ok out

/-- What copying paths makes of a document. It is a part of the source again; what reads as in the
source goes on doing so, and the paths do; what is no document was there or stands at one of the
paths or below it; and no key is new but the first segments of the paths. -/
structure Copied (d : Document) (paths : List String) (out out' : Document) : Prop where
  partOf : PartOf out' d
  settled : ∀ q, at? out q = at? d q → at? out' q = at? d q
  copied : ∀ path ∈ paths, getPath? out' path = getPath? d path
  origin : ∀ q w, at? out' q = some w → (∀ inner, w ≠ .document inner) →
    at? out q = some w ∨ ∃ path ∈ paths, (Path.ofString path).segments <+: q.segments
  heads : ∀ key ∈ keys out', key ∈ keys out ∨ ∃ path ∈ paths, key = (Path.ofString path).head

theorem copied_nil (h : PartOf out d) : Copied d [] out out where
  partOf := h
  settled := fun _ hq => hq
  copied := fun _ hpath => absurd hpath List.not_mem_nil
  origin := fun _ _ hw _ => Or.inl hw
  heads := fun _ hkey => Or.inl hkey

/-- A path is copied into a part of the source without being refused, so it does not matter that
nothing is made of a refusal. -/
theorem exists_copyPath (h : PartOf out d) (path : String) :
    ∃ out', copyPath? d out path = .ok out' ∧ copyPath d out path = out' ∧
      Copied d [path] out out' := by
  cases hv : getPath? d path with
  | none =>
    -- a path the document has nothing at is left out, and nothing is written
    refine ⟨out, by rw [copyPath?, hv], by rw [copyPath, hv], h, fun _ hq => hq, ?_,
      fun _ _ hw _ => Or.inl hw, fun _ hkey => Or.inl hkey⟩
    intro other hother
    rw [List.mem_singleton.mp hother, hv]
    exact h.at?_eq_none hv
  | some v =>
    obtain ⟨out', hset⟩ := h.exists_setAt hv v
    have hpath : setPath out path v = .ok out' := hset
    refine ⟨out', by rw [copyPath?, hv]; exact hpath, ?_, h.setAt hv hset,
      fun q hq => at?_settled hq hv hset, ?_, ?_, ?_⟩
    · rw [copyPath, hv]
      dsimp only
      rw [hpath]
      rfl
    · intro other hother
      rw [List.mem_singleton.mp hother, hv]
      exact at?_setAt hset
    · intro q w hw hplain
      -- a path apart from the copied one reads as before, one below it is covered by it, and one
      -- above it reads a document
      rcases at?_after hset q with ⟨-, hbefore⟩ | ⟨back, hback, -⟩ | ⟨-, inner, -, -, habove⟩
      · exact Or.inl (hbefore.symm.trans hw)
      · exact Or.inr ⟨path, List.mem_singleton_self _, hback ▸ List.prefix_append _ _⟩
      · exact absurd (Option.some.inj (hw.symm.trans habove)) (hplain inner)
    · intro key hkey
      obtain ⟨w, rfl, -⟩ := setAt_eq_ok hset
      refine (mem_keys_insert.mp hkey).imp_right fun hhead => ?_
      exact ⟨path, List.mem_singleton_self _, hhead⟩

theorem Copied.trans {before after : List String} {middle : Document}
    (h : Copied d before out middle) (h' : Copied d after middle out') :
    Copied d (before ++ after) out out' where
  partOf := h'.partOf
  settled := fun q hq => h'.settled q (h.settled q hq)
  -- later copies do not disturb what an earlier one settled
  copied := by
    intro path hpath
    rcases List.mem_append.mp hpath with hbefore | hafter
    · exact h'.settled _ (h.copied path hbefore)
    · exact h'.copied path hafter
  origin := by
    intro q w hw hplain
    rcases h'.origin q w hw hplain with hmiddle | ⟨path, hpath, hprefix⟩
    · refine (h.origin q w hmiddle hplain).imp_right ?_
      rintro ⟨path, hpath, hprefix⟩
      exact ⟨path, List.mem_append_left _ hpath, hprefix⟩
    · exact Or.inr ⟨path, List.mem_append_right _ hpath, hprefix⟩
  heads := by
    intro key hkey
    rcases h'.heads key hkey with hmiddle | ⟨path, hpath, hhead⟩
    · refine (h.heads key hmiddle).imp_right ?_
      rintro ⟨path, hpath, hhead⟩
      exact ⟨path, List.mem_append_left _ hpath, hhead⟩
    · exact Or.inr ⟨path, List.mem_append_right _ hpath, hhead⟩

/-- Paths can be copied one after the other, in any order and whichever leads into another. -/
theorem copied_foldl (h : PartOf out d) (paths : List String) :
    paths.foldlM (copyPath? d) out = .ok (paths.foldl (copyPath d) out) ∧
      Copied d paths out (paths.foldl (copyPath d) out) := by
  induction paths generalizing out with
  | nil => exact ⟨rfl, copied_nil h⟩
  | cons path rest ih =>
    obtain ⟨middle, hstrict, hcopy, hcopied⟩ := exists_copyPath h path
    obtain ⟨hrest, hcopiedRest⟩ := ih hcopied.partOf
    rw [List.foldlM_cons, List.foldl_cons, hstrict, hcopy]
    exact ⟨hrest, hcopied.trans hcopiedRest⟩

/-! ## What a projection copies -/

/-- A flag asks for its path unless it is zero, in any width, or false. -/
def Wants (flag : Value) : Prop := flag ≠ .bool false ∧ flag.equals (.int32 0) = false

/-- The projection includes the path. The identifier has a rule of its own. -/
def Includes (projection : Document) (path : String) : Prop :=
  path ≠ idKey ∧ ∃ flag, (path, flag) ∈ projection ∧ Wants flag

/-- The projection keeps the identifier: it says nothing of it, or asks for it. -/
def RetainsId (projection : Document) : Prop :=
  ∀ flag, get? projection idKey = some flag → Wants flag

/-- The projection asks for what stands at the path, or for something around it. -/
def AsksFor (projection : Document) (path : String) : Prop :=
  (RetainsId projection ∧ (Path.ofString path).head = idKey) ∨
    ∃ around, Includes projection around ∧
      (Path.ofString around).segments <+: (Path.ofString path).segments

theorem wants_iff (flag : Value) : Wants flag ↔ excludes flag = false := by
  cases hnumber : flag.toDouble? with
  | some x =>
    -- a number excludes exactly when its place is that of zero
    have hzero : (Value.int32 0).magnitude? = some (.exact 0) := by decide +kernel
    have hequals : flag.equals (.int32 0) = (!x.isNaN && x.scaled == 0) := by
      rw [Value.equals, hzero, Value.magnitude?, hnumber, Option.map_some, Magnitude.ofDouble]
      cases x.isNaN <;> rfl
    have hexcludes : excludes flag = (!x.isNaN && x.scaled == 0) := by
      cases flag <;> cases hnumber <;> rfl
    have hbool : flag ≠ .bool false := by
      rintro rfl
      cases hnumber
    rw [Wants, hequals, hexcludes]
    exact and_iff_right hbool
  | none =>
    cases flag with
    | bool b =>
      cases b with
      | false => exact iff_of_false (fun h => h.1 rfl) (by decide)
      | true => exact iff_of_true ⟨by simp, rfl⟩ rfl
    | int32 | int64 | double => cases hnumber
    | _ => exact iff_of_true ⟨by simp, rfl⟩ rfl

/-- The paths that a projection copies, in order. -/
def includedPaths (projection : Document) : List String :=
  keys (projection.filter fun entry => !decide (entry.1 = idKey ∨ excludes entry.2))

/-- The identifier of a document, unless the projection excludes it. -/
def retained (projection d : Document) : Document :=
  match !(get? projection idKey).any excludes, id? d with
  | true, some id => [(idKey, id)]
  | _, _ => []

theorem mem_includedPaths : path ∈ includedPaths projection ↔ Includes projection path := by
  constructor
  · intro h
    obtain ⟨flag, hflag⟩ := exists_of_mem_keys h
    obtain ⟨hentry, hcopied⟩ := List.mem_filter.mp hflag
    simp only [Bool.not_eq_eq_eq_not, Bool.not_true, decide_eq_false_iff_not, not_or,
      Bool.not_eq_true] at hcopied
    exact ⟨hcopied.1, flag, hentry, (wants_iff flag).mpr hcopied.2⟩
  · rintro ⟨hne, flag, hentry, hwants⟩
    have hcopied : (path, flag) ∈ projection.filter
        fun entry => !decide (entry.1 = idKey ∨ excludes entry.2) := by
      refine List.mem_filter.mpr ⟨hentry, ?_⟩
      simp [hne, (wants_iff flag).mp hwants]
    exact mem_keys_of_mem hcopied

theorem retainsId_iff : RetainsId projection ↔ (get? projection idKey).any excludes = false := by
  rw [RetainsId]
  cases get? projection idKey with
  | none => simp
  | some flag => simp [wants_iff]

theorem id?_retained (h : RetainsId projection) (d : Document) :
    id? (retained projection d) = id? d := by
  rw [retained, retainsId_iff.mp h]
  cases hid : id? d with
  | none => rfl
  | some id => exact get?_cons_self _ _ _

/-- A projection starts with nothing but the identifier, which is the document's own. -/
theorem at?_retained {q : Path} {w : Value} (hw : at? (retained projection d) q = some w) :
    RetainsId projection ∧ q.head = idKey ∧ at? d q = some w := by
  rw [retained] at hw
  split at hw
  · rename_i id hkeeps hid
    have hhead : idKey = q.head := by
      by_contra hne
      rw [at?, get?_cons_of_ne hne] at hw
      cases hw
    refine ⟨retainsId_iff.mpr (by simpa using hkeeps), hhead.symm, ?_⟩
    rw [at?, ← hhead, get?_cons_self] at hw
    rw [id?] at hid
    rw [at?, ← hhead, hid]
    exact hw
  · cases hw

theorem partOf_retained (projection d : Document) : PartOf (retained projection d) d :=
  fun _ _ hw => Or.inl (at?_retained hw).2.2

theorem project_eq (projection d : Document) :
    project projection d =
      (includedPaths projection).foldl (copyPath d) (retained projection d) := by
  rw [includedPaths, keys, List.foldl_map, List.foldl_filter]
  have hstep : (fun (out : Document) (entry : String × Value) =>
      if entry.1 = idKey ∨ excludes entry.2 then out else copyPath d out entry.1) =
      fun out entry => if (!decide (entry.1 = idKey ∨ excludes entry.2)) = true
        then copyPath d out entry.1 else out := by
    funext out entry
    by_cases h : entry.1 = idKey ∨ excludes entry.2 = true
    · simp [h]
    · simp [h]
  rw [← hstep]
  rfl

/-- The projection of a document, where a write that is refused is an error. -/
def project? (projection d : Document) : Except PathBlocked Document :=
  (includedPaths projection).foldlM (copyPath? d) (retained projection d)

/-- A projection copies its paths, and no write is refused. -/
theorem copied_project (projection d : Document) :
    project? projection d = .ok (project projection d) ∧
      Copied d (includedPaths projection) (retained projection d) (project projection d) := by
  rw [project_eq, project?]
  exact copied_foldl (partOf_retained projection d) (includedPaths projection)

theorem id?_project (h : RetainsId projection) (d : Document) :
    id? (project projection d) = id? d := by
  have hstart : at? (retained projection d) ⟨idKey, []⟩ = at? d ⟨idKey, []⟩ := by
    rw [at?_key, at?_key]
    exact id?_retained h d
  have hkept := (copied_project projection d).2.settled _ hstart
  rwa [at?_key, at?_key] at hkept

/-- A projection has no keys but the identifier and the first segments of its paths. -/
theorem mem_keys_project {key : String} (h : key ∈ keys (project projection d)) :
    key = idKey ∨ ∃ path ∈ keys projection, key = (Path.ofString path).head := by
  rcases (copied_project projection d).2.heads key h with hstart | ⟨path, hpath, hhead⟩
  · obtain ⟨w, hw⟩ := exists_get?_of_mem_keys hstart
    exact Or.inl (at?_retained ((at?_key _ key).trans hw)).2.1
  · obtain ⟨-, flag, hentry, -⟩ := mem_includedPaths.mp hpath
    exact Or.inr ⟨path, mem_keys_of_mem hentry, hhead⟩

/-- A document has, of another one, what the projection includes and nothing else. -/
structure Extracts (projection d out : Document) : Prop where
  included : ∀ path, Includes projection path → getPath? out path = getPath? d path
  identifier : RetainsId projection → id? out = id? d
  values : ∀ path v, getPath? out path = some v → (∀ inner, v ≠ .document inner) →
    getPath? d path = some v ∧ AsksFor projection path
  documents : ∀ path inner, getPath? out path = some (.document inner) →
    ∃ fields, getPath? d path = some (.document fields)

/-- A projection refuses no write on its way. Every included path reads what it reads in the
document, whichever included paths lead into one another and in whatever order they come; the
identifier is kept whole unless it is excluded; and what is not a document stands in the projection
only where it stands in the document and was asked for. -/
theorem projections_lose_and_add_nothing (projection d : Document) :
    project? projection d = .ok (project projection d) ∧
      Extracts projection d (project projection d) := by
  obtain ⟨hstrict, hcopied⟩ := copied_project projection d
  refine ⟨hstrict, ?_, fun hretains => id?_project hretains d, ?_, ?_⟩
  · intro path hpath
    exact hcopied.copied path (mem_includedPaths.mpr hpath)
  · intro path v hv hplain
    refine ⟨hcopied.partOf.at?_eq hv hplain, ?_⟩
    rcases hcopied.origin _ v hv hplain with hstart | ⟨around, hmem, hprefix⟩
    · obtain ⟨hretains, hhead, -⟩ := at?_retained hstart
      exact Or.inl ⟨hretains, hhead⟩
    · exact Or.inr ⟨around, mem_includedPaths.mp hmem, hprefix⟩
  · intro path inner hinner
    rcases hcopied.partOf _ _ hinner with hsame | ⟨-, fields, -, hfields⟩
    · exact ⟨inner, hsame⟩
    · exact ⟨fields, hfields⟩

/-- The theorem at a path inside one that comes after it: both are read, the identifier is kept, and
the city is there because it stands inside the address. -/
theorem projections_lose_and_add_nothing_nested :
    let d : Document := [("name", .string "a"), ("_id", .int32 7),
      ("address", .document [("city", .string "x"), ("zip", .null)])]
    let projection : Document := [("address.zip", .bool true), ("address", .bool true)]
    project? projection d = .ok (project projection d) ∧
      getPath? (project projection d) "address.zip" = some .null ∧
      getPath? (project projection d) "address" = getPath? d "address" ∧
      id? (project projection d) = some (.int32 7) ∧
      getPath? d "address.city" = some (.string "x") ∧ AsksFor projection "address.city" := by
  intro d projection
  obtain ⟨hstrict, hextracts⟩ := projections_lose_and_add_nothing projection d
  have hwants : Wants (.bool true) := ⟨by simp, rfl⟩
  have hzip : Includes projection "address.zip" :=
    ⟨by decide, .bool true, List.mem_cons_self, hwants⟩
  have haddress : Includes projection "address" :=
    ⟨by decide, .bool true, List.mem_cons_of_mem _ List.mem_cons_self, hwants⟩
  have hretains : RetainsId projection := fun flag hflag => by cases hflag
  have hcity : getPath? (project projection d) "address.city" = some (.string "x") := rfl
  obtain ⟨hsource, hasks⟩ := hextracts.values _ _ hcity fun inner h => by cases h
  exact ⟨hstrict, hextracts.included _ hzip, hextracts.included _ haddress,
    hextracts.identifier hretains, hsource, hasks⟩

/-! ## Projections to fields -/

/-- The projection that keeps the given fields. -/
def including (fields : List String) : Document :=
  ofEntries (fields.map fun field => (field, .int32 1))

theorem mem_including {fields : List String} {entry : String × Value} :
    entry ∈ including fields ↔ entry.1 ∈ fields ∧ entry.2 = .int32 1 := by
  rw [including, mem_ofEntries]
  · rw [List.mem_map]
    constructor
    · rintro ⟨field, hfield, rfl⟩
      exact ⟨hfield, rfl⟩
    · rintro ⟨hfield, hflag⟩
      exact ⟨entry.1, hfield, Prod.ext rfl hflag.symm⟩
  · intro entry hentry other hother hkey
    obtain ⟨k, -, rfl⟩ := List.mem_map.mp hentry
    obtain ⟨k', -, rfl⟩ := List.mem_map.mp hother
    exact Prod.ext hkey rfl

theorem mem_keys_including {fields : List String} {key : String} :
    key ∈ keys (including fields) ↔ key ∈ fields := by
  constructor
  · intro h
    obtain ⟨flag, hentry⟩ := exists_of_mem_keys h
    exact (mem_including.mp hentry).1
  · intro h
    have hentry : (key, Value.int32 1) ∈ including fields := mem_including.mpr ⟨h, rfl⟩
    exact mem_keys_of_mem hentry

theorem excludes_one : excludes (.int32 1) = false := by decide +kernel

/-- A field without dots keeps its value, and so does the identifier. -/
theorem get?_project_including {fields : List String} {key : String}
    (hkey : key = idKey ∨ key ∈ fields ∧ '.' ∉ key.toList) :
    get? (project (including fields) d) key = get? d key := by
  have hwants : Wants (.int32 1) := (wants_iff _).mpr excludes_one
  by_cases hid : key = idKey
  · subst hid
    refine id?_project (fun flag hflag => ?_) d
    have hone : flag = .int32 1 := (mem_including.mp (mem_of_get?_eq_some hflag)).2
    exact hone ▸ hwants
  · obtain ⟨hfield, hdotless⟩ := hkey.resolve_left hid
    have hincludes : Includes (including fields) key :=
      ⟨hid, .int32 1, mem_including.mpr ⟨hfield, rfl⟩, hwants⟩
    have hcopied := (copied_project (including fields) d).2.copied key
      (mem_includedPaths.mpr hincludes)
    rwa [getPath?_of_dotless hdotless, getPath?_of_dotless hdotless] at hcopied

/-- The identifier and the fields without dots that a document has are in its projection. -/
theorem mem_keys_project_including {fields : List String} {key : String}
    (hkey : key = idKey ∨ key ∈ fields ∧ '.' ∉ key.toList) (hd : key ∈ keys d) :
    key ∈ keys (project (including fields) d) := by
  obtain ⟨v, hv⟩ := exists_get?_of_mem_keys hd
  exact mem_keys_of_mem (mem_of_get?_eq_some ((get?_project_including hkey).trans hv))

end Document

end DocMapper
