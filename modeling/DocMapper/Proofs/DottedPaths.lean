import Mathlib.Data.List.TakeWhile
import DocMapper.Proofs.Paths

namespace DocMapper

/-! # Laws of dotted paths

Reading and writing follow the segments of a path. A write is refused exactly where a part of the
path leads to something other than a document. Otherwise the value is read back at its path, all
paths apart from it read what they read before, and a second write forgets the first. Carried out in
place, a refused write leaves nothing behind: an empty document is put only under a new key, and
below that nothing stands in the way.
-/

/-! ## Texts that are cut at dots -/

/-- Cutting at a separator is splitting there. -/
theorem Text.cut_eq_splitOn (c : Char) (s : List Char) :
    (cut c s).1 :: (cut c s).2 = s.splitOn c := by
  induction s with
  | nil => rfl
  | cons x rest ih =>
    rw [cut, List.splitOn_cons_eq_if_modifyHead, ← ih]
    by_cases hx : x = c
    · simp [hx]
    · simp [hx]

/-- Between two pieces of a text there is a separator at which it can be cut in two. -/
theorem Text.exists_cut_of_splitOn {c : Char} {s : List Char} {front back : List (List Char)}
    (h : s.splitOn c = front ++ back) (hfront : front ≠ []) (hback : back ≠ []) :
    ∃ a b, s = a ++ c :: b ∧ a.splitOn c = front ∧ b.splitOn c = back := by
  -- the first piece loses its first letter with the text, and is gone with the first separator
  induction s generalizing front with
  | nil =>
    obtain ⟨piece, front, rfl⟩ := List.exists_cons_of_ne_nil hfront
    cases front with
    | nil => exact absurd (List.cons.inj h).2.symm hback
    | cons next front => cases (List.cons.inj h).2
  | cons x rest ih =>
    obtain ⟨piece, front, rfl⟩ := List.exists_cons_of_ne_nil hfront
    rw [List.splitOn_cons_eq_if_modifyHead] at h
    by_cases hx : x = c
    · rw [if_pos (beq_iff_eq.mpr hx), List.cons_append, List.cons.injEq] at h
      obtain ⟨rfl, h⟩ := h
      subst hx
      cases front with
      | nil => exact ⟨[], rest, rfl, rfl, h⟩
      | cons next front =>
        obtain ⟨a, b, rfl, ha, hb⟩ := ih h (List.cons_ne_nil _ _)
        refine ⟨x :: a, b, rfl, ?_, hb⟩
        rw [List.splitOn_cons_eq_if_modifyHead, if_pos (beq_iff_eq.mpr rfl), ha]
    · rw [if_neg (by simpa using hx)] at h
      obtain ⟨first, others, hpieces⟩ := List.exists_cons_of_ne_nil (List.splitOn_ne_nil c rest)
      rw [hpieces, List.modifyHead_cons, List.cons_append, List.cons.injEq] at h
      obtain ⟨rfl, rfl⟩ := h
      rw [← List.cons_append] at hpieces
      obtain ⟨a, b, rfl, ha, hb⟩ := ih hpieces (List.cons_ne_nil _ _)
      refine ⟨x :: a, b, rfl, ?_, hb⟩
      rw [List.splitOn_cons_eq_if_modifyHead, if_neg (by simpa using hx), ha, List.modifyHead_cons]

namespace Path

variable {path : String} {front back : List String}

theorem segments_ofString (path : String) :
    (ofString path).segments = (path.toList.splitOn '.').map String.ofList := by
  rw [← Text.cut_eq_splitOn]
  rfl

/-- The segments of two paths joined by a dot are those of the first and then those of the
second. -/
theorem segments_append (p q : String) :
    (ofString (p ++ "." ++ q)).segments = (ofString p).segments ++ (ofString q).segments := by
  have hdot : (p ++ "." ++ q).toList = p.toList ++ '.' :: q.toList := by simp
  rw [segments_ofString, hdot, List.splitOn_append_cons_self, List.map_append,
    ← segments_ofString, ← segments_ofString]

/-- Between two segments there is a dot at which the text can be cut. -/
theorem exists_cut (h : (ofString path).segments = front ++ back) (hfront : front ≠ [])
    (hback : back ≠ []) : ∃ p q, path = p ++ "." ++ q ∧ (ofString p).segments = front ∧
      (ofString q).segments = back := by
  rw [segments_ofString, List.map_eq_append_iff] at h
  obtain ⟨pieces, others, hpieces, rfl, rfl⟩ := h
  obtain ⟨a, b, hcut, rfl, rfl⟩ := Text.exists_cut_of_splitOn hpieces
    (fun h => hfront (by rw [h]; rfl)) (fun h => hback (by rw [h]; rfl))
  refine ⟨String.ofList a, String.ofList b, ?_, ?_, ?_⟩
  · exact String.toList_inj.mp (by simp [hcut])
  · rw [segments_ofString, String.toList_ofList]
  · rw [segments_ofString, String.toList_ofList]

/-- The first segment ends at the first dot, and the other segments are those of the text behind
it. -/
theorem ofString_takeWhile (path : List Char) : ofString (String.ofList path) =
    ⟨String.ofList (path.takeWhile (· ≠ '.')), match path.dropWhile (· ≠ '.') with
      | [] => []
      | _ :: rest => (ofString (String.ofList rest)).segments⟩ := by
  have happend := List.takeWhile_append_dropWhile (p := (· ≠ '.')) (l := path)
  have hdotless : '.' ∉ path.takeWhile (· ≠ '.') := by
    intro hmem
    simpa using List.mem_takeWhile_imp hmem
  -- a text without a dot is one segment; else the first dot ends the first segment
  cases hrest : path.dropWhile (· ≠ '.') with
  | nil =>
    rw [hrest, List.append_nil] at happend
    rw [happend] at hdotless ⊢
    exact ofString_of_dotless (by rwa [String.toList_ofList])
  | cons c rest =>
    have hc : c = '.' := by
      have hhead := List.head?_dropWhile_not (p := (· ≠ '.')) (l := path)
      rw [hrest] at hhead
      simpa using hhead
    subst hc
    have hcut : Text.cut '.' path =
        (path.takeWhile (· ≠ '.'), (Text.cut '.' rest).1 :: (Text.cut '.' rest).2) := by
      conv_lhs => rw [← happend, hrest]
      exact Text.cut_append hdotless rest
    simp only [ofString, String.toList_ofList, hcut]
    rfl

theorem eq_of_segments {p q : Path} (h : p.segments = q.segments) : p = q := by
  obtain ⟨hhead, hrest⟩ := List.cons.inj h
  cases p
  cases q
  cases hhead
  cases hrest
  rfl

end Path

namespace Document

variable {d d' : Document} {path : String} {v w : Value}

/-! ## Writes that are refused -/

/-- A part of the path leads to something that is not a document. -/
def Blocks (d : Document) (path : String) : Prop :=
  ∃ p q w, path = p ++ "." ++ q ∧ getPath? d p = some w ∧ ∀ inner, w ≠ .document inner

/-- A write at a dotted path is refused when a part of the path leads to something that is not a
document. -/
theorem exists_setPath_eq_error_iff :
    (∃ b, setPath d path v = .error b) ↔ Blocks d path := by
  refine exists_setAt_eq_error_iff.trans ⟨?_, ?_⟩
  · rintro ⟨front, back, w, hrest, hback, hw, hblocks⟩
    have hsegments : (Path.ofString path).segments =
        ((Path.ofString path).head :: front) ++ back := congrArg _ hrest
    obtain ⟨p, q, hpath, hfront, -⟩ :=
      Path.exists_cut hsegments (List.cons_ne_nil _ _) hback
    have hp : Path.ofString p = ⟨(Path.ofString path).head, front⟩ := Path.eq_of_segments hfront
    exact ⟨p, q, w, hpath, by rwa [getPath?, hp], hblocks⟩
  · rintro ⟨p, q, w, rfl, hw, hblocks⟩
    obtain ⟨hhead, hrest⟩ := List.cons.inj (Path.segments_append p q)
    refine ⟨(Path.ofString p).rest, (Path.ofString q).segments, w, hrest, List.cons_ne_nil _ _,
      ?_, hblocks⟩
    rwa [hhead]

/-! ## Writing in place -/

/-- The document with an empty document under the key, if the key is new. -/
def entered (d : Document) (key : String) : Document :=
  if hasKey d key then d else insert d key (.document [])

theorem entered_of_get? {key : String} (h : get? d key = some w) : entered d key = d :=
  if_pos (hasKey_iff.mpr (mem_keys_of_mem (mem_of_get?_eq_some h)))

theorem entered_of_new {key : String} (h : get? d key = none) :
    entered d key = insert d key (.document []) :=
  if_neg fun hkey => get?_eq_none_iff.mp h (hasKey_iff.mp hkey)

/-- The same write in place: it cuts the path at its first dot, puts an empty document under the key
before the dot if that is new, and goes on inside. What comes with the outcome is the document as it
stands then, also when the write is refused. -/
def writeInPlace (d : Document) (path : List Char) (v : Value) :
    Except PathBlocked Unit × Document :=
  let key := String.ofList (path.takeWhile (· ≠ '.'))
  match _hrest : path.dropWhile (· ≠ '.') with
  | [] => (.ok (), insert d key v)
  | _ :: rest =>
    match get? (entered d key) key with
    | some (.document inner) =>
      let (outcome, inner) := writeInPlace inner rest v
      (outcome, insert (entered d key) key (.document inner))
    | _ => (.error ⟨(Path.ofString (String.ofList rest)).segments, key⟩, entered d key)
termination_by path.length
decreasing_by
  have hle := (List.dropWhile_suffix (l := path) (· ≠ '.')).length_le
  rw [_hrest, List.length_cons] at hle
  exact hle

/-- In place, a write that succeeds leaves the same document, and one that is refused leaves the
document as it was. -/
theorem writeInPlace_eq (d : Document) (path : List Char) (v : Value) :
    writeInPlace d path v = match setPath d (String.ofList path) v with
      | .ok d' => (.ok (), d')
      | .error b => (.error b, d) := by
  fun_induction writeInPlace d path v with
  | case1 d path key hrest =>
    rw [setPath, Path.ofString_takeWhile path, hrest, setAt]
  | case2 d path key c rest hrest inner hinner outcome inner' hwrite ih =>
    rw [setPath, Path.ofString_takeWhile path, hrest, setAt_segments]
    rw [hwrite, setPath] at ih
    cases hget : get? d key with
    | none =>
      -- below a new key nothing stands in the way
      rw [entered_of_new hget] at hinner ⊢
      rw [inside?_of_new hget]
      dsimp only
      rw [get?_insert_self] at hinner
      cases hinner
      obtain ⟨after, hafter, -⟩ := setAt_nil_ne_nil v (Path.ofString (String.ofList rest)).head
        (Path.ofString (String.ofList rest)).rest
      rw [hafter] at ih ⊢
      cases ih
      rw [insert_insert]
      rfl
    | some w =>
      rw [entered_of_get? hget] at hinner ⊢
      cases hget.symm.trans hinner
      rw [inside?_of_document hget]
      dsimp only
      cases hafter : setAt inner (Path.ofString (String.ofList rest)).head
          (Path.ofString (String.ofList rest)).rest v with
      | ok after =>
        rw [hafter] at ih
        cases ih
        rfl
      | error b =>
        rw [hafter] at ih
        cases ih
        rw [insert_of_get? hget]
        rfl
  | case3 d path key c rest hrest hother =>
    rw [setPath, Path.ofString_takeWhile path, hrest]
    dsimp only
    cases hget : get? d key with
    | none =>
      rw [entered_of_new hget] at hother
      exact absurd (get?_insert_self d key _) (hother [])
    | some w =>
      rw [entered_of_get? hget] at hother ⊢
      have hblocks : ∀ inner, w ≠ .document inner := fun inner hw => hother inner (hw ▸ hget)
      rw [setAt_segments, inside?_eq_none_iff.mpr ⟨w, hget, hblocks⟩]

/-! ## The laws -/

/-- A document after a write of a value at a path, by what the paths read in it. -/
structure Placed (d : Document) (path : String) (v : Value) (d' : Document) : Prop where
  here : getPath? d' path = some v
  apart : ∀ other, (Path.ofString path).Apart (Path.ofString other) →
    getPath? d' other = getPath? d other
  keys : keys d' = if (Path.ofString path).head ∈ keys d then keys d
    else keys d ++ [(Path.ofString path).head]
  again : ∀ w, ∃ after, setPath d' path w = .ok after ∧ setPath d path w = .ok after

theorem placed_of_setPath (h : setPath d path v = .ok d') : Placed d path v d' := by
  refine ⟨at?_setAt h, fun other hapart => at?_setAt_of_apart hapart h, ?_, fun w => ?_⟩
  · obtain ⟨u, rfl, -⟩ := setAt_eq_ok h
    exact keys_insert d _ u
  · -- whether a write is refused does not depend on the value
    cases hafter : setPath d path w with
    | ok after => exact ⟨after, (setAt_of_setAt h w).trans hafter, rfl⟩
    | error b =>
      have hblocks : Blocks d path := exists_setPath_eq_error_iff.mp ⟨b, hafter⟩
      obtain ⟨b', hb'⟩ := exists_setPath_eq_error_iff (v := v).mpr hblocks
      cases h.symm.trans hb'

/-- The laws of reading and writing at dotted paths. A write is refused exactly when a part of the
path, cut at a dot, leads to something that is not a document, and in place it then leaves the
document as it was. When it succeeds, in place or not, the value stands at the path, paths apart
from it read what they read before, the keys keep their order with a new one at the end, and writing
again at the path is as if the first write had not been. -/
theorem paths_obey_laws (d : Document) (path : String) (v : Value) :
    ((∃ b, setPath d path v = .error b) ↔ Blocks d path) ∧
      (∀ b, setPath d path v = .error b → writeInPlace d path.toList v = (.error b, d)) ∧
      ∀ d', setPath d path v = .ok d' →
        writeInPlace d path.toList v = (.ok (), d') ∧ Placed d path v d' := by
  refine ⟨exists_setPath_eq_error_iff, fun b hb => ?_, fun d' hd' => ⟨?_, placed_of_setPath hd'⟩⟩
  · rw [writeInPlace_eq, String.ofList_toList, hb]
  · rw [writeInPlace_eq, String.ofList_toList, hd']

/-- The theorem at a path with an empty last segment below a new key, and at a path that a number
blocks. -/
theorem paths_obey_laws_below_new_key :
    let d : Document := [("a", .document [("b", .int32 1)]), ("x", .int32 5)]
    let d' : Document :=
      [("a", .document [("b", .int32 1), ("c", .document [("", .int32 2)])]), ("x", .int32 5)]
    setPath d "a.c." (.int32 2) = .ok d' ∧
      writeInPlace d "a.c.".toList (.int32 2) = (.ok (), d') ∧
      getPath? d' "a.c." = some (.int32 2) ∧ getPath? d' "a.b" = getPath? d "a.b" ∧
      (∃ after, setPath d' "a.c." .null = .ok after ∧ setPath d "a.c." .null = .ok after) ∧
      Blocks d "x.y.z" ∧
      writeInPlace d "x.y.z".toList (.int32 2) = (.error ⟨["y", "z"], "x"⟩, d) := by
  intro d d'
  have hset : setPath d "a.c." (.int32 2) = .ok d' := rfl
  have hrefused : setPath d "x.y.z" (.int32 2) = .error ⟨["y", "z"], "x"⟩ := rfl
  obtain ⟨hplace, hplaced⟩ := (paths_obey_laws d "a.c." (.int32 2)).2.2 d' hset
  obtain ⟨hblocks, hleft, -⟩ := paths_obey_laws d "x.y.z" (.int32 2)
  have hapart : (Path.ofString "a.c.").Apart (Path.ofString "a.b") := ⟨by decide, by decide⟩
  exact ⟨hset, hplace, hplaced.here, hplaced.apart "a.b" hapart, hplaced.again .null,
    hblocks.mp ⟨_, hrefused⟩, hleft _ hrefused⟩

end Document

end DocMapper
