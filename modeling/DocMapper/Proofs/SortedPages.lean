import Mathlib.Data.List.Nodup
import DocMapper.Proofs.SortKeys
import DocMapper.Proofs.Sums
import DocMapper.Proofs.Targets

namespace DocMapper

/-! # Sorted pages

Sorting keeps the order of what it does not tell apart. Where no NaN stands at a path of the sort,
the order of documents is one of keys, total and transitive, and so the sorted list is determined:
of two documents the first field that tells them apart decides, or else their places. Pages are cut
out of that list, whatever the sign of the limit is, and together they are the list.
-/

namespace Document

variable {sort a b : Document} {docs selected : List Document} {options : ReadOptions}

/-! ## What the sort says about two documents -/

/-- No field of the sort tells the documents apart. -/
def Tied (sort a b : Document) : Prop :=
  ∀ entry ∈ sort, Value.order (getPath? a entry.1) (getPath? b entry.1) = .eq

/-- The first field of the sort that tells the documents apart has the value of the first document
before that of the second, or after it if the direction is negative. -/
def Precedes (sort a b : Document) : Prop :=
  ∃ before path direction after, sort = before ++ (path, direction) :: after ∧ Tied before a b ∧
    Value.order (getPath? a path) (getPath? b path) = if isNegative direction then .gt else .lt

/-- The order of documents by one field of the sort, if values are compared like this. -/
def fieldOrder (compareValues : Option Value → Option Value → Ordering) (entry : String × Value)
    (a b : Document) : Ordering :=
  if isNegative entry.2 then (compareValues (getPath? a entry.1) (getPath? b entry.1)).swap
  else compareValues (getPath? a entry.1) (getPath? b entry.1)

theorem sortOrder_cons (entry : String × Value) (rest a b : Document) :
    sortOrder (entry :: rest) a b =
      (fieldOrder Value.order entry a b).then (sortOrder rest a b) := rfl

theorem fieldOrder_eq_eq {entry : String × Value} : fieldOrder Value.order entry a b = .eq ↔
    Value.order (getPath? a entry.1) (getPath? b entry.1) = .eq := by
  rw [fieldOrder]
  split
  · exact Ordering.swap_eq_eq
  · rfl

theorem fieldOrder_eq_lt {entry : String × Value} : fieldOrder Value.order entry a b = .lt ↔
    Value.order (getPath? a entry.1) (getPath? b entry.1) =
      if isNegative entry.2 then .gt else .lt := by
  rw [fieldOrder]
  split
  · exact Ordering.swap_eq_lt
  · rfl

theorem tied_of_sortOrder (h : sortOrder sort a b = .eq) : Tied sort a b := by
  induction sort with
  | nil => exact nofun
  | cons entry rest ih =>
    obtain ⟨hfirst, hrest⟩ := Ordering.then_eq_eq.mp h
    exact List.forall_mem_cons.mpr ⟨fieldOrder_eq_eq.mp hfirst, ih hrest⟩

theorem precedes_of_sortOrder (h : sortOrder sort a b = .lt) : Precedes sort a b := by
  induction sort with
  | nil => cases h
  | cons entry rest ih =>
    rcases Ordering.then_eq_lt.mp h with hfirst | ⟨hfirst, hrest⟩
    · exact ⟨[], entry.1, entry.2, rest, rfl, nofun, fieldOrder_eq_lt.mp hfirst⟩
    · obtain ⟨before, path, direction, after, rfl, htied, hlast⟩ := ih hrest
      exact ⟨entry :: before, path, direction, after, rfl,
        List.forall_mem_cons.mpr ⟨fieldOrder_eq_eq.mp hfirst, htied⟩, hlast⟩

/-! ## The order of keys -/

/-- No NaN stands at a path of the sort. -/
def NoNaN (sort d : Document) : Prop :=
  ∀ entry ∈ sort, ∀ x, getPath? d entry.1 = some (.double x) → x.isNaN = false

instance transCmp_fieldOrder (entry : String × Value) :
    Std.TransCmp (fieldOrder Value.keyOrder entry) := by
  cases hdirection : isNegative entry.2 with
  | false =>
    have hsame : fieldOrder Value.keyOrder entry = fun a b =>
        Value.keyOrder (getPath? a entry.1) (getPath? b entry.1) := by
      funext a b
      rw [fieldOrder, hdirection, if_neg Bool.false_ne_true]
    rw [hsame]
    exact { eq_swap := Std.OrientedCmp.eq_swap, isLE_trans := Std.TransCmp.isLE_trans }
  | true =>
    have hswapped : fieldOrder Value.keyOrder entry = fun a b =>
        Value.keyOrder (getPath? b entry.1) (getPath? a entry.1) := by
      funext a b
      rw [fieldOrder, if_pos hdirection]
      exact Std.OrientedCmp.eq_swap.symm
    rw [hswapped]
    exact
      { eq_swap := Std.OrientedCmp.eq_swap
        isLE_trans := fun h h' => Std.TransCmp.isLE_trans h' h }

/-- The order of documents by the keys of their values. -/
def keySortOrder : Document → Document → Document → Ordering
  | [] => fun _ _ => .eq
  | entry :: rest => compareLex (fieldOrder Value.keyOrder entry) (keySortOrder rest)

instance transCmp_keySortOrder (sort : Document) : Std.TransCmp (keySortOrder sort) := by
  induction sort with
  | nil => exact { eq_swap := rfl, isLE_trans := fun _ _ => rfl }
  | cons entry rest ih => exact inferInstanceAs (Std.TransCmp (compareLex _ _))

theorem not_isNaN {entry : String × Value} (hentry : entry ∈ sort) (ha : NoNaN sort a) :
    ¬Value.IsNaN (getPath? a entry.1) := by
  intro hnan
  obtain ⟨x, hx, htrue⟩ := Value.isNaN_iff.mp hnan
  rw [ha entry hentry x hx] at htrue
  cases htrue

/-- Without NaN, documents are sorted by their keys. -/
theorem sortOrder_eq_keySortOrder (ha : NoNaN sort a) (hb : NoNaN sort b) :
    sortOrder sort a b = keySortOrder sort a b := by
  induction sort with
  | nil => rfl
  | cons entry rest ih =>
    have hfirst : fieldOrder Value.order entry a b = fieldOrder Value.keyOrder entry a b := by
      rw [fieldOrder, fieldOrder, Value.order_eq_keyOrder (not_isNaN List.mem_cons_self ha)
        (not_isNaN List.mem_cons_self hb)]
    rw [sortOrder_cons, hfirst, ih (List.forall_mem_cons.mp ha).2 (List.forall_mem_cons.mp hb).2]
    rfl

/-! ## The sorted list -/

/-- The documents at their places, in order: each before all that the sort puts after it, and before
those that the sort does not tell from it and that have later places. -/
structure SortedAt (sort : Document) (docs : List Document) (order : List (Document × Nat)) :
    Prop where
  perm : order.Perm docs.zipIdx
  sorted : order.Pairwise fun p q => Precedes sort p.1 q.1 ∨ Tied sort p.1 q.1 ∧ p.2 < q.2

/-- The first document is not after the second in the order of keys. -/
def keyLE (sort a b : Document) : Bool := (keySortOrder sort a b).isLE

theorem keyLE_trans (sort a b c : Document) (hab : keyLE sort a b = true)
    (hbc : keyLE sort b c = true) : keyLE sort a c = true := Std.TransCmp.isLE_trans hab hbc

theorem keySortOrder_swap (sort a b : Document) :
    keySortOrder sort b a = (keySortOrder sort a b).swap := Std.OrientedCmp.eq_swap

theorem keyLE_total (sort a b : Document) : (keyLE sort a b || keyLE sort b a) = true := by
  rw [keyLE, keyLE, keySortOrder_swap sort a b]
  cases keySortOrder sort a b <;> rfl

/-- The order of values is no total order of all documents, but on those without NaN it is that of
keys. -/
theorem sortBy_eq_mergeSort (hnan : ∀ d ∈ docs, NoNaN sort d) :
    sortBy sort docs = docs.mergeSort (keyLE sort) := by
  have hsame : (docs.mergeSort fun a b => (sortOrder sort a b).isLE).map id =
      (docs.map id).mergeSort (keyLE sort) := List.map_mergeSort fun a ha b hb => by
    rw [sortOrder_eq_keySortOrder (hnan a ha) (hnan b hb)]
    rfl
  rwa [List.map_id, List.map_id] at hsame

/-- Of two documents at different places, the one that is sorted first precedes the other, or ties
with it and has the earlier place. -/
theorem precedes_or_tied {p q : Document × Nat} (hp : NoNaN sort p.1) (hq : NoNaN sort q.1)
    (hplaces : p.2 ≠ q.2) (h : List.zipIdxLE (keyLE sort) p q = true) :
    Precedes sort p.1 q.1 ∨ Tied sort p.1 q.1 ∧ p.2 < q.2 := by
  have horder := sortOrder_eq_keySortOrder hp hq
  simp only [List.zipIdxLE, keyLE, keySortOrder_swap sort p.1 q.1] at h
  cases hcase : keySortOrder sort p.1 q.1 with
  | lt => exact Or.inl (precedes_of_sortOrder (horder.trans hcase))
  | eq =>
    rw [hcase] at h
    exact Or.inr ⟨tied_of_sortOrder (horder.trans hcase),
      Nat.lt_of_le_of_ne (of_decide_eq_true h) hplaces⟩
  | gt =>
    rw [hcase] at h
    cases h

/-- Sorting documents without NaN gives them in order. -/
theorem exists_sortedAt (hnan : ∀ d ∈ docs, NoNaN sort d) :
    ∃ order, SortedAt sort docs order ∧ sortBy sort docs = order.map (·.1) := by
  -- the documents are sorted together with their places
  have hperm := List.mergeSort_perm docs.zipIdx (List.zipIdxLE (keyLE sort))
  refine ⟨docs.zipIdx.mergeSort (List.zipIdxLE (keyLE sort)), ⟨hperm, ?_⟩, ?_⟩
  · have hplaces : ((docs.zipIdx.mergeSort (List.zipIdxLE (keyLE sort))).map (·.2)).Nodup := by
      rw [(hperm.map _).nodup_iff]
      exact List.zipIdx_map_snd 0 docs ▸ List.nodup_range'
    have hpairs := List.pairwise_mergeSort (List.zipIdxLE_trans (keyLE_trans sort))
      (List.zipIdxLE_total (keyLE_total sort)) docs.zipIdx
    refine (hpairs.and (List.pairwise_map.mp hplaces)).imp_of_mem fun {p q} hp hq hpq => ?_
    have hp := hnan p.1 (List.fst_mem_of_mem_zipIdx (hperm.subset hp))
    have hq := hnan q.1 (List.fst_mem_of_mem_zipIdx (hperm.subset hq))
    exact precedes_or_tied hp hq hpq.2 hpq.1
  · rw [sortBy_eq_mergeSort hnan, List.mergeSort_zipIdx]

/-! ## Pages -/

/-- Pages of equal size make up what they reach of a list. -/
theorem flatten_pages {α : Type} (l : List α) (size count : Nat) :
    ((List.range count).map fun i => (l.drop (i * size)).take size).flatten =
      l.take (count * size) := by
  induction count with
  | zero => rw [Nat.zero_mul, List.take_zero, List.range_zero, List.map_nil, List.flatten_nil]
  | succ count ih =>
    rw [List.range_succ, List.map_append, List.flatten_append, ih, List.map_singleton,
      List.flatten_singleton, Nat.succ_mul, List.take_add]

/-- A page has the size of the limit, whatever its sign. -/
theorem page_of_limit {limit : Int} {size : Nat} (hsize : 0 < size)
    (hlimit : limit = size ∨ limit = -size) (hoptions : options.limit? = some limit)
    (docs : List Document) :
    page options docs = (docs.drop (options.skip?.getD 0)).take size := by
  have hne : limit ≠ 0 := by omega
  have habs : limit.natAbs = size := by omega
  rw [page, hoptions]
  dsimp only
  rw [if_neg hne, habs]

end Document

namespace Store

variable {s : Store} {sort filter : Document} {selected : List Document} {options : ReadOptions}

/-- Reading with a sort gives the page of the sorted documents. -/
theorem find_sorted (hsort : options.sort? = some sort)
    (hselect : Document.select filter s.documents = .ok selected) :
    s.find filter options =
      .ok ((Document.page options (Document.sortBy sort selected)).map
        (Document.shaped options)) := by
  have harranged : Document.arranged options selected = Document.sortBy sort selected := by
    rw [Document.arranged, hsort]
  rw [find, Document.find_eq, hselect, ← harranged]
  rfl

/-- Reading a page gives that part of what is read without one. -/
theorem find_page (projection? : Option Document)
    (hselect : Document.select filter s.documents = .ok selected) {limit : Int} {size : Nat}
    (hsize : 0 < size) (hlimit : limit = size ∨ limit = -size) (skip : Nat) :
    s.find filter
        { sort? := some sort, skip? := some skip, limit? := some limit, projection? } =
      .ok ((((Document.sortBy sort selected).map
        (Document.shaped { sort? := some sort, projection? })).drop skip).take size) := by
  rw [find_sorted rfl hselect, Document.page_of_limit hsize hlimit rfl, List.map_take,
    List.map_drop]
  rfl

/-- Sorted reading gives the matching documents in order: of two documents the first field that
tells them apart decides, the other way around where its direction is negative, and otherwise their
places in the collection. Reading page by page, with limits of either sign, gives the same list. A
limit of zero is none. -/
theorem sorted_pages_lose_nothing (projection? : Option Document)
    (hselect : Document.select filter s.documents = .ok selected)
    (hnan : ∀ d ∈ selected, Document.NoNaN sort d) :
    let options : ReadOptions := { sort? := some sort, projection? }
    ∃ order found, Document.SortedAt sort selected order ∧
      found = order.map (fun p => Document.shaped options p.1) ∧
      s.find filter options = .ok found ∧
      (∀ size : Nat, 1 ≤ size → ∀ limit : Int, limit = size ∨ limit = -size →
        ∀ count, found.length ≤ count * size →
          ∃ pages, (List.range count).mapM (fun i =>
            s.find filter { options with skip? := some (i * size), limit? := some limit }) =
              .ok pages ∧ pages.flatten = found) ∧
      ∀ skip?, s.find filter { options with skip?, limit? := some 0 } =
        s.find filter { options with skip? } := by
  intro options
  -- the order is that of the sort, which both the whole and every page go by
  obtain ⟨order, horder, hsorted⟩ := Document.exists_sortedAt hnan
  have hfound : (Document.sortBy sort selected).map (Document.shaped options) =
      order.map fun p => Document.shaped options p.1 := by
    rw [hsorted, List.map_map]
    rfl
  refine ⟨order, _, horder, hfound, ?_, ?_, fun skip? => ?_⟩
  · rw [find_sorted rfl hselect]
    rfl
  · intro size hsize limit hlimit count hcount
    refine ⟨(List.range count).map fun i =>
      (((Document.sortBy sort selected).map (Document.shaped options)).drop (i * size)).take size,
      mapM_eq_ok_of_forall₂ ?_, ?_⟩
    · rw [List.forall₂_map_right_iff]
      exact List.forall₂_same.mpr fun i _ => find_page projection? hselect hsize hlimit (i * size)
    · rw [Document.flatten_pages, List.take_of_length_le hcount]
  · rw [find_sorted rfl hselect, find_sorted rfl hselect]
    rfl

/-- The theorem for a text, two equal numbers and a null in descending order, in two pages. -/
theorem sorted_pages_lose_nothing_of_numbers :
    let s := Model.numberStore [.string "b", .int32 2, .int64 2, .null]
    let sort : Document := [("n", .int32 (-1))]
    Document.select [] s.documents = .ok s.documents ∧
      (∀ d ∈ s.documents, Document.NoNaN sort d) ∧
      s.find [] { sort? := some sort } = .ok s.documents ∧
      ∃ pages, (List.range 2).mapM (fun i =>
        s.find [] { sort? := some sort, skip? := some (i * 3), limit? := some (-3) }) =
          .ok pages ∧ pages.flatten = s.documents := by
  intro s sort
  have hselect : Document.select [] s.documents = .ok s.documents := rfl
  have hnan : ∀ d ∈ s.documents, Document.NoNaN sort d := by
    intro d hd entry hentry x hx
    obtain ⟨value, hvalue, rfl⟩ := List.mem_map.mp hd
    rw [List.mem_singleton.mp hentry] at hx
    have hmem := List.fst_mem_of_mem_zipIdx hvalue
    rw [show value.1 = .double x from Option.some.inj hx] at hmem
    simp at hmem
  -- numbers of two widths tie, and are left in the order they are stored in
  have hinOrder : Document.sortBy sort s.documents = s.documents :=
    List.mergeSort_of_pairwise (by decide +kernel)
  obtain ⟨order, found, -, -, hfind, hpages, -⟩ := sorted_pages_lose_nothing none hselect hnan
  have hall : s.find [] { sort? := some sort } = .ok s.documents := by
    rw [find_sorted rfl hselect, hinOrder]
    rfl
  cases hfind.symm.trans hall
  exact ⟨hselect, hnan, hall, hpages 3 (by decide) (-3) (Or.inr rfl) 2 (by decide)⟩

end Store

end DocMapper
