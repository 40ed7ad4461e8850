import DocMapper.Proofs.Identifiers
import DocMapper.Proofs.ModelUpserts

namespace DocMapper

/-! # Amending stored documents

The updates of a batch address documents by the identifiers that were read before the first of them.
An update may put another value in the place of an identifier, but only an equal one, and it leaves
the key of the document. So an update reaches the first document with the key of its instance,
whatever the updates before it did.
-/

namespace Value

/-! ## Reading identifiers -/

@[simp] theorem readId_readId (v : Value) : v.readId.readId = v.readId := by
  refine readId.induct (fun v => v.readId.readId = v.readId)
    (fun items => readIds (readIds items) = readIds items) ?hex ?text ?array ?other ?nil ?cons v
  case hex =>
    intro s id h
    simp only [readId, h]
  case text =>
    intro s h
    simp only [readId, h]
  case array =>
    intro items ih
    rw [readId, readId, ih]
  case other =>
    intro v hstring harray
    have hv : v.readId = v := by rw [readId] <;> assumption
    rw [hv, hv]
  case nil => rfl
  case cons =>
    intro v rest ih ihrest
    rw [readIds, readIds, ih, ihrest]

theorem readId_eq_null {v : Value} (h : v.readId = .null) : v = .null := by
  cases v with
  | string s =>
    rw [readId] at h
    split at h <;> cases h
  | null => rfl
  | _ => cases h

/-- An identifier that equals a value before and after reading it was not changed by reading. -/
theorem readId_eq_self_of_beq {a v : Value} (h : a.beq v = true) (hread : a.beq v.readId = true) :
    v.readId = v := by
  -- the induction follows the reading, through the items of lists
  refine readId.induct
    (fun v => ∀ a : Value, a.beq v = true → a.beq v.readId = true → v.readId = v)
    (fun items => ∀ as : List Value, beqItems as items = true → beqItems as (readIds items) = true →
      readIds items = items)
    ?hex ?text ?array ?other ?nil ?cons v a h hread
  case hex =>
    intro s id hid a h hread
    cases alike_of_beq h
    simp only [readId, hid] at hread
    cases hread
  case text =>
    intro s hs a _ _
    simp only [readId, hs]
  case array =>
    intro items ih a h hread
    obtain ⟨as, rfl, has⟩ : ∃ as, a = .array as ∧ beqItems as items = true := by
      cases alike_of_beq h with
      | same => exact ⟨items, rfl, by simpa only [Value.beq] using h⟩
      | arrays has => exact ⟨_, rfl, has⟩
    rw [readId, Value.beq] at hread
    rw [readId, ih as has hread]
  case other =>
    intro v hstring harray a _ _
    rw [readId] <;> assumption
  case nil => exact fun _ _ _ => rfl
  case cons =>
    intro v rest ih ihrest as h hread
    cases as with
    | nil => cases h
    | cons a as =>
      rw [beqItems, Bool.and_eq_true] at h
      rw [readIds, beqItems, Bool.and_eq_true] at hread
      rw [readIds, ih a h.1 hread.1, ihrest as h.2 hread.2]

theorem readId_eq_self {a v : Value} (h : a.equals v = true)
    (hread : equalsOperand (some a) v.readId = true) : v.readId = v := by
  have hbeq : v.magnitude? = none → a.beq v = true := fun hv => by
    rwa [← equals_eq_beq ((magnitude?_of_equals h).mpr hv)]
  cases v with
  | string s =>
    have hstring := hbeq rfl
    cases alike_of_beq hstring
    rw [equalsOperand, equals_eq_beq rfl] at hread
    · exact readId_eq_self_of_beq hstring hread
    · exact fun _ he => by cases he
  | array items =>
    have harray := hbeq rfl
    obtain ⟨as, rfl⟩ : ∃ as, a = .array as := by
      cases alike_of_beq harray <;> exact ⟨_, rfl⟩
    rw [readId, equalsOperand, equals_eq_beq rfl] at hread
    exact readId_eq_self_of_beq harray (by rwa [readId])
  | _ => rfl

namespace SameId

variable {a b c : Value}

theorem equals_trans (h : SameId a b) (hequals : b.equals c = true) : a.equals c = true := by
  rcases h with rfl | h
  · exact hequals
  · exact Value.equals_trans h hequals

theorem equals_left (h : SameId b c) (hkeys : b.DistinctKeys) (hequals : a.equals c = true) :
    a.equals b = true := by
  rcases h with rfl | h
  · exact hequals
  · exact Value.equals_trans hequals (Value.equals_symm hkeys h)

end SameId

end Value

namespace Document

/-! ## Setting fields -/

variable {d d' : Document} {fields : Document}

theorem insertAll_of_foldlM_set (hlegal : ∀ entry ∈ fields, LegalName entry.1)
    (h : fields.foldlM (applyAt "$set") d = .ok d') : d' = insertAll d fields := by
  induction fields generalizing d with
  | nil => exact (pure_eq_ok.mp h).symm
  | cons entry rest ih =>
    obtain ⟨c, happly, hrest⟩ := bind_eq_ok.mp h
    have hc : c = insert d entry.1 entry.2 := by
      unfold applyAt at happly
      dsimp only at happly
      split at happly
      · cases happly
      · rw [write_of_dotless (hlegal entry List.mem_cons_self).dotless] at happly
        exact (Except.ok.inj happly).symm
    rw [insertAll_cons, ← hc]
    exact ih (fun e he => hlegal e (List.mem_cons_of_mem _ he)) hrest

/-- Setting fields that succeeds puts them in, and keeps the identifier. -/
theorem updated_set_eq_ok (hlegal : ∀ entry ∈ fields, LegalName entry.1)
    (h : updated d [("$set", .document fields)] = .ok d') :
    d' = insertAll d fields ∧ KeepsId d d' := by
  constructor
  · obtain ⟨c, hc, h⟩ := bind_eq_ok.mp h
    cases pure_eq_ok.mp h
    exact insertAll_of_foldlM_set hlegal hc
  · refine updated_keepsId (fun operator fields' hmem entry hentry _ _ => ?_) h
    rw [List.mem_singleton, Prod.mk.injEq, Value.document.injEq] at hmem
    obtain ⟨rfl, rfl⟩ := hmem
    rw [(hlegal entry hentry).path]
    exact ⟨rfl, fun hinc => absurd hinc (by decide)⟩

/-- The identifier equals itself, so that a filter by it finds the document. A NaN does not. -/
def hasOwnId (d : Document) : Bool := (id? d).any fun id => id.equals id

theorem KeepsId.hasOwnId_eq (h : KeepsId d d') {id : Value} (hid : id? d = some id)
    (hkeys : id.DistinctKeys) : d'.hasOwnId = d.hasOwnId := by
  obtain ⟨id', hid', hsame⟩ := h id hid
  rw [hasOwnId, hasOwnId, hid, hid', Option.any_some, Option.any_some]
  rcases hsame with rfl | hequals
  · rfl
  · have hback := Value.equals_symm hkeys hequals
    rw [Value.equals_trans hback hequals, Value.equals_trans hequals hback]

end Document

namespace Reconciler

variable {r : Reconciler} {instances docs docs' more : List Document} {inst d d' : Document}

/-! ## The first document with a key -/

/-- What updates use of an instance: it has a key, and what they write are fields of its own under
names. -/
structure Writable (r : Reconciler) (inst : Document) : Prop where
  key : ∃ key, r.key? inst = some key
  legal : ∀ entry ∈ r.written inst, LegalName entry.1
  distinct : (Document.keys (r.written inst)).Nodup
  own : ∀ entry ∈ r.written inst, Document.get? inst entry.1 = some entry.2

/-- A document that takes values over from an instance with its key keeps the key. -/
theorem Writable.key?_insertAll (h : r.Writable inst) (hd : r.key? d = r.key? inst) :
    r.key? (Document.insertAll d (r.written inst)) = r.key? d := by
  obtain ⟨key, hkey⟩ := h.key
  rw [hd, hkey]
  refine (key?_eq_iff hkey).mpr fun field hfield => ?_
  rcases Document.get?_insertAll_of_own h.distinct h.own d field with heq | heq
  · rw [identity?, identity?, heq]
  · rw [← (key?_eq_iff hkey).mp (hd.trans hkey) field hfield, identity?, identity?, heq]

/-- The update of an instance as it works out: it sets fields of the first document with the key,
unless a filter by the identifier does not find that. -/
def amend (r : Reconciler) (inst : Document) : List Document → List Document
  | [] => []
  | d :: rest =>
    if r.key? d = r.key? inst then
      (if d.hasOwnId then Document.insertAll d (r.written inst) else d) :: rest
    else d :: amend r inst rest

/-- The update of an instance finds a document to set fields of. -/
def reaches (r : Reconciler) (docs : List Document) (inst : Document) : Bool :=
  (docs.find? fun d => r.key? d = r.key? inst).any Document.hasOwnId

theorem amend_append_of_ne (h : ∀ d ∈ docs, r.key? d ≠ r.key? inst) :
    r.amend inst (docs ++ more) = docs ++ r.amend inst more := by
  induction docs with
  | nil => rfl
  | cons d rest ih =>
    rw [List.cons_append, amend, if_neg (h d List.mem_cons_self),
      ih fun e he => h e (List.mem_cons_of_mem _ he), List.cons_append]

/-- What comes after the first document with the key is not touched. -/
theorem amend_append_of_mem (h : r.key? inst ∈ docs.map r.key?) :
    r.amend inst (docs ++ more) = r.amend inst docs ++ more := by
  induction docs with
  | nil => exact absurd h List.not_mem_nil
  | cons d rest ih =>
    rw [List.cons_append, amend, amend]
    by_cases hkey : r.key? d = r.key? inst
    · rw [if_pos hkey, if_pos hkey, List.cons_append]
    · rw [if_neg hkey, if_neg hkey, List.cons_append]
      rw [List.map_cons, List.mem_cons] at h
      rw [ih (h.resolve_left fun he => hkey he.symm)]

theorem reaches_append_of_mem (h : r.key? inst ∈ docs.map r.key?) :
    r.reaches (docs ++ more) inst = r.reaches docs inst := by
  obtain ⟨d, hd, hkey⟩ := List.mem_map.mp h
  obtain ⟨c, hc⟩ : ∃ c, (docs.find? fun d => r.key? d = r.key? inst) = some c :=
    Option.isSome_iff_exists.mp (List.find?_isSome.mpr ⟨d, hd, by simpa using hkey⟩)
  rw [reaches, reaches, List.find?_append, hc, Option.some_or]

theorem map_key?_amend (h : r.Writable inst) (docs : List Document) :
    (r.amend inst docs).map r.key? = docs.map r.key? := by
  induction docs with
  | nil => rfl
  | cons d rest ih =>
    rw [amend]
    split
    · rename_i hkey
      split
      · rw [List.map_cons, List.map_cons, h.key?_insertAll hkey]
      · rfl
    · rw [List.map_cons, List.map_cons, ih]

theorem identity?_readId (field : String) (d : Document) :
    identity? field (Document.readId d) = identity? field d := by
  by_cases hid : field = Document.idKey
  · subst hid
    have hget : Document.get? (Document.readId d) Document.idKey =
        (Document.get? d Document.idKey).map Value.readId := Document.id?_readId d
    -- reading an identifier that was read changes nothing
    have hcomparand : ∀ v : Value,
        comparand Document.idKey v.readId = comparand Document.idKey v := fun v => by
      rw [comparand, comparand, if_pos rfl, if_pos rfl, Value.readId_readId]
    ext identity
    rw [identity?_eq_some, identity?_eq_some, hget]
    constructor
    · rintro ⟨_, hv, hnull, hidentity⟩
      obtain ⟨v, hv', rfl⟩ := Option.map_eq_some_iff.mp hv
      refine ⟨v, hv', ?_, hcomparand v ▸ hidentity⟩
      rintro rfl
      exact hnull rfl
    · rintro ⟨v, hv, hnull, hidentity⟩
      refine ⟨v.readId, by rw [hv, Option.map_some], ?_, (hcomparand v).symm ▸ hidentity⟩
      exact fun hread => hnull (Value.readId_eq_null hread)
  · rw [identity?, identity?, Document.get?_readId_of_ne hid]

theorem key?_readId (d : Document) : r.key? (Document.readId d) = r.key? d :=
  key?_congr fun field _ => identity?_readId field d

/-- Amendments by several instances in order. -/
def amendAll (r : Reconciler) (found docs : List Document) : List Document :=
  found.foldl (fun docs inst => r.amend inst docs) docs

/-! ## What updates assume and keep -/

/-- What matching and updating assume of instances and of known identifiers, which are those that
documents can come to have: filters by identifiers compare them, and an instance asks for whatever
is stored for another with its key. -/
structure Faithful (r : Reconciler) (instances : List Document) (Known : Value → Prop) : Prop where
  legal : ∀ field ∈ r.queryFields, LegalName field
  check : r.checkBatch instances = .ok ()
  plain : r.queryFields.length ≠ 1 → ∀ inst ∈ instances, r.Plain inst
  writable : ∀ inst ∈ instances, r.Writable inst
  asks : ∀ inst ∈ instances, ∀ other ∈ instances, r.key? other = r.key? inst →
    r.asks inst (Document.readId other) = true
  given : ∀ inst ∈ instances, ∀ id, Document.id? inst = some id → Known id ∧ Known id.readId
  fresh : ∀ i : ObjectId, Known (.objectId i)
  meets : ∀ v w, Known v → Known w → Value.meets (some v) w = .ok (v.equals w)
  keys : ∀ v, Known v → v.DistinctKeys

/-- Stored documents as a run meets them: under known identifiers of which none equals a later one,
and such that the instances with the key of one ask for it. -/
structure Tame (r : Reconciler) (instances : List Document) (Known : Value → Prop)
    (docs : List Document) : Prop where
  known : ∀ d ∈ docs, ∃ id, Document.id? d = some id ∧ Known id
  distinct : docs.Pairwise fun d e => ∀ x y, Document.id? d = some x → Document.id? e = some y →
    x.equals y = false
  asked : ∀ inst ∈ instances, ∀ d ∈ docs, r.key? d = r.key? inst → r.asks inst d = true

/-- What updates for instances make of a document: nothing, or it takes fields over from an instance
with its key and keeps its identifier. -/
inductive Becomes (r : Reconciler) (instances : List Document) (d : Document) : Document → Prop
  | same : Becomes r instances d d
  | set {inst : Document} (hinst : inst ∈ instances) (hkey : r.key? d = r.key? inst)
      (hid : d.KeepsId (Document.insertAll d (r.written inst))) :
      Becomes r instances d (Document.insertAll d (r.written inst))

/-- A document stands where another stood: under an equal identifier, with the same key. -/
structure StandsFor (r : Reconciler) (d d' : Document) : Prop where
  key : r.key? d' = r.key? d
  id : d.KeepsId d'
  own : d'.hasOwnId = d.hasOwnId

theorem StandsFor.refl (r : Reconciler) (d : Document) : r.StandsFor d d :=
  ⟨rfl, Document.KeepsId.refl d, rfl⟩

theorem StandsFor.trans {d'' : Document} (h : r.StandsFor d d') (h' : r.StandsFor d' d'') :
    r.StandsFor d d'' :=
  ⟨h'.key.trans h.key, h.id.trans h'.id, h'.own.trans h.own⟩

theorem map_key?_of_standsFor (h : List.Forall₂ r.StandsFor docs docs') :
    docs'.map r.key? = docs.map r.key? :=
  (map_eq_of_forall₂ h fun _ _ _ hd => hd.key.symm).symm

/-- Whether an update finds something depends on the keys and on which identifiers equal
themselves. -/
theorem reaches_congr
    (h : List.Forall₂ (fun d d' => r.key? d' = r.key? d ∧ d'.hasOwnId = d.hasOwnId) docs docs')
    (inst : Document) : r.reaches docs' inst = r.reaches docs inst := by
  unfold reaches
  induction h with
  | nil => rfl
  | cons hd _ ih =>
    rw [List.find?_cons, List.find?_cons, hd.1]
    split
    · rw [Option.any_some, Option.any_some, hd.2]
    · exact ih

theorem reaches_of_standsFor (h : List.Forall₂ r.StandsFor docs docs') (inst : Document) :
    r.reaches docs' inst = r.reaches docs inst :=
  reaches_congr (h.imp fun _ _ hd => ⟨hd.key, hd.own⟩) inst

/-- The partner of an instance is the first document with its key, and what stands for it is still
the first. -/
theorem exists_standing_partner {Known : Value → Prop} {x : Value}
    (h : r.Tame instances Known docs) (hstands : List.Forall₂ r.StandsFor docs docs')
    (hpartner : r.partner? docs inst = some x) :
    ∃ before d after y, docs' = before ++ d :: after ∧
      (∀ e ∈ before, r.key? e ≠ r.key? inst) ∧ r.key? d = r.key? inst ∧
      Document.id? d = some y ∧ x.SameId y ∧ Known x := by
  obtain ⟨key, hkey, hstored⟩ := Option.bind_eq_some_iff.mp hpartner
  obtain ⟨before, d, after, rfl, hd, hbefore⟩ := List.findSome?_eq_some_iff.mp hstored
  split at hd
  case isFalse => cases hd
  case isTrue hdkey =>
    obtain ⟨before', rest', rfl, hbeforeStands, hrest⟩ := forall₂_append_left hstands
    cases hrest with
    | @cons _ d' _ after' hstand _ =>
      -- the document at the same place is the one that stands for the partner
      obtain ⟨y, hy, hsame⟩ := hstand.id x hd
      obtain ⟨x', hx', hknown⟩ := h.known d (List.mem_append_right _ List.mem_cons_self)
      cases hd.symm.trans hx'
      refine ⟨before', d', after', y, rfl, fun e' he' hekey => ?_,
        hstand.key.trans (hdkey.trans hkey.symm), hy, hsame, hknown⟩
      -- one before it with the key would have been the partner already
      obtain ⟨e, he, hestand⟩ := forall₂_exists_of_mem hbeforeStands he'
      obtain ⟨z, hz, -⟩ := h.known e (List.mem_append_left _ he)
      have hnone := hbefore e he
      rw [if_pos ((hestand.key.symm.trans hekey).trans hkey), hz] at hnone
      cases hnone

section Updates

variable {Known : Value → Prop} (hr : r.Faithful instances Known)

include hr

theorem Becomes.standsFor (h : r.Becomes instances d d') {id : Value}
    (hid : Document.id? d = some id) (hknown : Known id) : r.StandsFor d d' := by
  cases h with
  | same => exact StandsFor.refl r d
  | set hinst hkey hkeeps =>
    exact ⟨(hr.writable _ hinst).key?_insertAll hkey, hkeeps,
      hkeeps.hasOwnId_eq hid (hr.keys id hknown)⟩

/-- What becomes of a document has a known identifier. -/
theorem Becomes.known (h : r.Becomes instances d d') {id : Value}
    (hid : Document.id? d = some id) (hknown : Known id) :
    ∃ id', Document.id? d' = some id' ∧ Known id' := by
  cases h with
  | same => exact ⟨id, hid, hknown⟩
  | set hinst hkey hkeeps =>
    obtain ⟨id', hid', -⟩ := hkeeps id hid
    refine ⟨id', hid', ?_⟩
    have hw := hr.writable _ hinst
    rcases Document.get?_insertAll_of_own hw.distinct hw.own d Document.idKey with heq | heq
    · exact (hr.given _ hinst id' (heq.symm.trans hid')).1
    · rw [Document.id?, heq, ← Document.id?, hid, Option.some.injEq] at hid'
      exact hid' ▸ hknown

/-- Whoever asks for a document asks for what becomes of it. -/
theorem Becomes.asked (h : r.Becomes instances d d') (hinst : inst ∈ instances)
    (hasked : ∀ other ∈ instances, r.key? d = r.key? other → r.asks other d = true)
    (hkey : r.key? d = r.key? inst) : r.asks inst d' = true := by
  cases h with
  | same => exact hasked inst hinst hkey
  | @set other hother hotherkey hkeeps =>
    have hw := hr.writable _ hother
    have hread := asks_eq_true.mp (hr.asks inst hinst other hother (hotherkey.symm.trans hkey))
    refine asks_eq_true.mpr fun field hfield v hv => ?_
    rcases Document.get?_insertAll_of_own hw.distinct hw.own d field with heq | heq
    · by_cases hid : field = Document.idKey
      · -- the identifier is replaced by an equal one as the other instance gives it
        subst hid
        obtain ⟨key, hkey'⟩ := hw.key
        obtain ⟨u, hu, -⟩ := exists_value_of_key? hkey' hfield
        obtain ⟨y, hy, -⟩ := exists_value_of_key? (hotherkey.trans hkey') hfield
        obtain ⟨u', hu', hsame⟩ := hkeeps y hy
        cases (heq.trans hu).symm.trans hu'
        rcases hsame with rfl | hequals
        · rw [heq, hu, ← hy]
          exact asks_eq_true.mp (hasked inst hinst hkey) _ hfield v hv
        · have hasks := asks_eq_true.mp (hasked other hother hotherkey) _ hfield u hu
          rw [hy, comparand, if_pos rfl] at hasks
          have hself := Value.readId_eq_self hequals hasks
          have hid : Document.get? (Document.readId other) Document.idKey = some u := by
            rw [← Document.id?, Document.id?_readId, Document.id?, hu, Option.map_some, hself]
          rw [heq, hu, ← hid]
          exact hread _ hfield v hv
      · rw [heq, ← Document.get?_readId_of_ne hid]
        exact hread field hfield v hv
    · rw [heq]
      exact asks_eq_true.mp (hasked inst hinst hkey) field hfield v hv

/-- Updates of tame documents leave tame documents that stand for them. -/
theorem Tame.becomes (h : r.Tame instances Known docs)
    (hdocs : List.Forall₂ (r.Becomes instances) docs docs') :
    r.Tame instances Known docs' ∧ List.Forall₂ r.StandsFor docs docs' := by
  induction hdocs with
  | nil => exact ⟨h, .nil⟩
  | @cons d d' rest rest' hd hrest ih =>
    obtain ⟨id, hid, hknown⟩ := h.known d List.mem_cons_self
    obtain ⟨hdistinct, hpairwise⟩ := List.pairwise_cons.mp h.distinct
    obtain ⟨htame, hstands⟩ := ih ⟨fun e he => h.known e (List.mem_cons_of_mem _ he), hpairwise,
      fun inst hinst e he => h.asked inst hinst e (List.mem_cons_of_mem _ he)⟩
    have hfirst := hd.standsFor hr hid hknown
    refine ⟨⟨?_, List.pairwise_cons.mpr ⟨fun e' he' x' y' hx' hy' => ?_, htame.distinct⟩, ?_⟩,
      .cons hfirst hstands⟩
    · exact List.forall_mem_cons.mpr ⟨hd.known hr hid hknown, htame.known⟩
    · -- two new identifiers that were equal would make the old ones equal
      obtain ⟨e, he, hstand⟩ := forall₂_exists_of_mem hstands he'
      obtain ⟨y, hy, hknown'⟩ := h.known e (List.mem_cons_of_mem _ he)
      obtain ⟨_, hxid, hx⟩ := hfirst.id id hid
      obtain ⟨_, hyid, hyy⟩ := hstand.id y hy
      cases hx'.symm.trans hxid
      cases hy'.symm.trans hyid
      rw [← Bool.not_eq_true]
      intro hequals
      have hold := hyy.equals_left (hr.keys y hknown') (hx.equals_trans hequals)
      rw [hdistinct e he id y hid hy] at hold
      cases hold
    · intro inst hinst e he
      rcases List.mem_cons.mp he with rfl | he
      · exact fun hkey => hd.asked hr hinst
          (fun other hother => h.asked other hother d List.mem_cons_self) (hfirst.key ▸ hkey)
      · exact htame.asked inst hinst e he

/-- What a filter by an identifier selects that stands for that of a document: nothing before the
document, the document if its identifier equals itself, and otherwise nothing after it. -/
theorem hasId_of_sameId {before after : List Document} {x y : Value}
    (h : r.Tame instances Known (before ++ d :: after)) (hx : Known x)
    (hid : Document.id? d = some y) (hsame : x.SameId y) :
    (∀ e ∈ before, Document.hasId x e = false) ∧ Document.hasId x d = d.hasOwnId ∧
      (d.hasOwnId = false → ∀ e ∈ after, Document.hasId x e = false) := by
  have hown : d.hasOwnId = y.equals y := by rw [Document.hasOwnId, hid, Option.any_some]
  refine ⟨fun e he => ?_, ?_, fun hnone e he => ?_⟩
  · obtain ⟨z, hz, -⟩ := h.known e (List.mem_append_left _ he)
    have hne := (List.pairwise_append.mp h.distinct).2.2 e he d List.mem_cons_self z y hz hid
    rw [Document.hasId, hz, Option.any_some, ← Bool.not_eq_true]
    intro hequals
    rcases hsame with rfl | hxy
    · rw [hequals] at hne
      cases hne
    · rw [Value.equals_trans hequals hxy] at hne
      cases hne
  · rw [Document.hasId, hid, Option.any_some, hown]
    rcases hsame with rfl | hxy
    · rfl
    · have hyx := Value.equals_symm (hr.keys x hx) hxy
      rw [hyx, Value.equals_trans hyx hxy]
  · obtain ⟨z, hz, hknown⟩ :=
      h.known e (List.mem_append_right _ (List.mem_cons_of_mem _ he))
    rw [Document.hasId, hz, Option.any_some, ← Bool.not_eq_true]
    intro hequals
    -- whatever equals an identifier makes it equal itself
    have hxx := Value.equals_trans (Value.equals_symm (hr.keys z hknown) hequals) hequals
    have hyy : y.equals y = true := by
      rcases hsame with rfl | hxy
      · exact hxx
      · exact Value.equals_trans (Value.equals_symm (hr.keys x hx) hxy) hxy
    rw [hown, hyy] at hnone
    cases hnone

/-- An update by an identifier that stands for that of the first document with the key of an
instance is the amendment by the instance. -/
theorem updateOne_eq_ok {s s' : Store} {outcome : UpdateReport} {before after : List Document}
    (hs : r.Tame instances Known s.documents) (hinst : inst ∈ instances)
    (hdocs : s.documents = before ++ d :: after)
    (hbefore : ∀ e ∈ before, r.key? e ≠ r.key? inst) (hkey : r.key? d = r.key? inst) {x y : Value}
    (hx : Known x) (hid : Document.id? d = some y) (hsame : x.SameId y)
    (h : Action.updateOne [(Document.idKey, x)] [("$set", .document (r.written inst))] false s =
      (.ok outcome, s')) :
    s' = { s with documents := r.amend inst s.documents } ∧
      outcome.matched = (r.reaches s.documents inst).toNat ∧
      List.Forall₂ (r.Becomes instances) s.documents s'.documents := by
  have hselects : ∀ e ∈ s.documents, Document.satisfies e [(Document.idKey, x)] =
      .ok (Document.hasId x e) := by
    intro e he
    obtain ⟨z, hz, hknown⟩ := hs.known e he
    have hget : Document.getPath? e Document.idKey = some z :=
      (Document.getPath?_of_legalName LegalName.id e).trans hz
    rw [Document.satisfies_singleton rfl, hget, hr.meets z x hknown hx, Document.hasId, hz,
      Option.any_some]
  have hrequire : Document.requireOperators [("$set", .document (r.written inst))] = .ok () := by
    have hset : isOperatorKey "$set" = true := by decide
    simp [Document.requireOperators, Document.keys, hset]
  have hreaches : r.reaches s.documents inst = d.hasOwnId := by
    have hnone : (before.find? fun e => r.key? e = r.key? inst) = none :=
      List.find?_eq_none.mpr fun e he => by simpa using hbefore e he
    rw [reaches, hdocs, List.find?_append, hnone, Option.none_or,
      List.find?_cons_of_pos (by simpa using hkey), Option.any_some]
  have hamend : r.amend inst s.documents = before ++
      (if d.hasOwnId then Document.insertAll d (r.written inst) else d) :: after := by
    rw [hdocs, amend_append_of_ne hbefore, amend, if_pos hkey]
  rw [hdocs] at hselects hs
  obtain ⟨hpassed, htarget, hafter⟩ := hasId_of_sameId hr hs hx hid hsame
  have hspared : ∀ e ∈ before, Document.satisfies e [(Document.idKey, x)] = .ok false :=
    fun e he => by rw [hselects e (List.mem_append_left _ he), hpassed e he]
  rw [Action.updateOne, Action.update_false_apply hrequire, hdocs,
    Document.updateEach_append hspared] at h
  rw [hreaches, hamend]
  -- an identifier that does not equal itself is found nowhere, and then the document stays
  cases hown : d.hasOwnId with
  | false =>
    have hrest : ∀ e ∈ d :: after, Document.satisfies e [(Document.idKey, x)] = .ok false := by
      intro e he
      rw [hselects e (List.mem_append_right _ he)]
      rcases List.mem_cons.mp he with rfl | he
      · rw [htarget, hown]
      · rw [hafter hown e he]
    rw [Document.updateEach_of_spared hrest] at h
    cases h
    refine ⟨by simp, rfl, ?_⟩
    rw [hdocs]
    exact List.forall₂_same.mpr fun _ _ => .same
  | true =>
    rw [Document.updateEach, hselects d (List.mem_append_right _ List.mem_cons_self), htarget,
      hown] at h
    cases hupdated : Document.updated d [("$set", .document (r.written inst))] with
    | error e =>
      simp only [hupdated] at h
      cases h
    | ok next =>
      simp only [hupdated] at h
      cases h
      obtain ⟨rfl, hkeeps⟩ :=
        Document.updated_set_eq_ok (hr.writable inst hinst).legal hupdated
      refine ⟨by simp, rfl, ?_⟩
      rw [hdocs]
      exact List.rel_append (List.forall₂_same.mpr fun _ _ => .same)
        (.cons (.set hinst hkey hkeeps) (List.forall₂_same.mpr fun _ _ => .same))

theorem isSome_partner? (h : r.Tame instances Known docs) (hinst : inst ∈ instances) :
    (r.partner? docs inst).isSome = true ↔ r.key? inst ∈ docs.map r.key? := by
  obtain ⟨key, hkey⟩ := (hr.writable inst hinst).key
  rw [partner?, hkey, Option.bind_some, stored?, List.isSome_findSome?, List.any_eq_true,
    List.mem_map]
  refine exists_congr fun d => and_congr_right fun hd => ?_
  obtain ⟨id, hid, -⟩ := h.known d hd
  rw [hid]
  split <;> simp_all

/-- The updates of a plan, carried out, amend the documents by the instances that are found. -/
theorem performUpdates_eq_ok {s s' : Store} {found : List Document} {us : List PlannedUpdate}
    {summary summary' : BatchSummary} (hdocs : r.Tame instances Known docs)
    (hs : r.Tame instances Known s.documents)
    (hstands : List.Forall₂ r.StandsFor docs s.documents)
    (hfound : ∀ inst ∈ found, inst ∈ instances)
    (hus : List.Forall₂ (fun inst u => ∃ index id, r.partner? docs inst = some id ∧
      u = .setting index id (r.written inst)) found us)
    (h : Plan.performUpdates summary us s = (.ok summary', s')) :
    s' = { s with documents := r.amendAll found s.documents } ∧
      r.Tame instances Known s'.documents ∧ List.Forall₂ r.StandsFor docs s'.documents ∧
      summary'.matched = summary.matched + found.countP (r.reaches docs) ∧
      summary'.insertedIds = summary.insertedIds := by
  -- the induction is on the updates: each reaches the first document with its key in the store as
  -- the updates before it have left it
  induction hus generalizing s summary with
  | nil =>
    cases h
    exact ⟨rfl, hs, hstands, rfl, rfl⟩
  | @cons inst u found us hu _ ih =>
    obtain ⟨index, x, hpartner, rfl⟩ := hu
    obtain ⟨outcome, t, hupdate, h⟩ := Action.bind_apply_eq_ok.mp h
    obtain ⟨before, d, after, y, hsplit, hbefore, hkey, hy, hsame, hx⟩ :=
      exists_standing_partner hdocs hstands hpartner
    obtain ⟨ht, hmatched, hbecomes⟩ := updateOne_eq_ok hr hs (hfound inst List.mem_cons_self)
      hsplit hbefore hkey hx hy hsame hupdate
    obtain ⟨htame, hstands'⟩ := hs.becomes hr hbecomes
    obtain ⟨hs', htame', hstands'', hcount, hids⟩ := ih htame
      (forall₂_trans (fun h h' => h.trans h') hstands hstands')
      (fun i hi => hfound i (List.mem_cons_of_mem _ hi)) h
    refine ⟨?_, htame', hstands'', ?_, ?_⟩
    · rw [hs', ht]
      rfl
    · have hreach : summary.matched + outcome.matched + found.countP (r.reaches docs) =
          summary.matched + (inst :: found).countP (r.reaches docs) := by
        rw [hmatched, reaches_of_standsFor hstands, List.countP_cons]
        cases r.reaches docs inst with
        | true =>
          rw [Bool.toNat_true, if_pos rfl]
          omega
        | false => rfl
      rw [hcount, ← hreach]
      rfl
    · rw [hids, BatchSummary.add, List.append_nil]

end Updates

end Reconciler

end DocMapper
