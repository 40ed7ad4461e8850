import DocMapper.Proofs.Equality
import DocMapper.Proofs.Numbers
import DocMapper.Value.Identity

namespace DocMapper

/-! # Values with one identity

Identities are texts, so that values have one identity says something about the values only where
the notations do not overlap. Integers, hexadecimal digits and Base64 have texts of their own, and
a simple value shares its identity with equal values only, apart from documents that spell the
notation out.
-/

namespace Text

theorem natText_inj {m n : Nat} (h : m.repr = n.repr) : m = n := by
  rw [Nat.repr_eq_ofList_toDigits, Nat.repr_eq_ofList_toDigits, String.ofList_inj] at h
  have hread := congrArg (Nat.ofDigitChars 10 · 0) h
  simpa only [Nat.ofDigitChars_toDigits (b := 10) (by decide) (by decide)] using hread

theorem minus_not_mem_natText (n : Nat) : '-' ∉ n.repr.toList := by
  rw [Nat.repr_eq_ofList_toDigits, String.toList_ofList]
  intro hmem
  exact absurd (Nat.isDigit_of_mem_toDigits (by decide) (by decide) hmem) (by decide)

/-- Integers have a text of their own. -/
theorem intText_inj {m n : Int} (h : toString m = toString n) : m = n := by
  have hminus : ∀ k : Nat, '-' ∈ ("-" ++ k.repr).toList := by simp
  rw [Int.toString_eq_repr, Int.toString_eq_repr, Int.repr_eq_if, Int.repr_eq_if] at h
  split at h
  · split at h
    · have hnat := natText_inj h
      omega
    · have hmem := hminus (-n).toNat
      rw [← h] at hmem
      exact absurd hmem (minus_not_mem_natText _)
  · split at h
    · have hmem := hminus (-m).toNat
      rw [h] at hmem
      exact absurd hmem (minus_not_mem_natText _)
    · have hlist := congrArg String.toList h
      rw [String.toList_append, String.toList_append] at hlist
      have hnat := natText_inj (String.toList_inj.mp (List.append_cancel_left hlist))
      omega

theorem hexDigit_inj : ∀ m < 16, ∀ n < 16, hexDigit m = hexDigit n → m = n := by decide

/-- Numbers that fit into the digits have digits of their own. -/
theorem hexDigits_inj {width m n : Nat} (hm : m < Nat.pow 16 width) (hn : n < Nat.pow 16 width)
    (h : hexDigits width m = hexDigits width n) : m = n := by
  induction width generalizing m n with
  | zero => exact (Nat.lt_one_iff.mp hm).trans (Nat.lt_one_iff.mp hn).symm
  | succ width ih =>
    obtain ⟨hhigh, hlow⟩ := List.append_inj' h rfl
    have hlow' : m % 16 = n % 16 :=
      hexDigit_inj _ (Nat.mod_lt _ (by decide)) _ (Nat.mod_lt _ (by decide)) (List.cons.inj hlow).1
    have hhigh' : m / 16 = n / 16 :=
      ih (Nat.div_lt_of_lt_mul (Nat.mul_comm _ _ ▸ hm))
        (Nat.div_lt_of_lt_mul (Nat.mul_comm _ _ ▸ hn)) hhigh
    omega

theorem base64Digit_inj : ∀ m < 64, ∀ n < 64, base64Digit m = base64Digit n → m = n := by
  decide +kernel

theorem base64Digit_ne_padding : ∀ n < 64, base64Digit n ≠ '=' := by decide

/-- Bytes have a Base64 text of their own. -/
theorem base64_inj {as bs : List UInt8} (h : base64 as = base64 bs) : as = bs := by
  have hbyte : ∀ a : UInt8, a.toNat < 256 := fun a => a.toNat_lt
  have hpadding : ∀ n, base64Digit (n % 64) ≠ '=' :=
    fun n => base64Digit_ne_padding _ (Nat.mod_lt _ (by decide))
  -- three bytes make four digits, and what is left at the end is padded; a padded text is never
  -- one of a longer list, since padding is no digit
  fun_induction base64 as generalizing bs with
  | case1 =>
    rcases bs with _ | ⟨b, _ | ⟨c, _ | ⟨d, rest⟩⟩⟩ <;> first | rfl | cases h
  | case2 a =>
    rcases bs with _ | ⟨b, _ | ⟨c, _ | ⟨d, rest⟩⟩⟩
    · cases h
    · simp only [base64, List.cons.injEq, and_true] at h
      have ha := hbyte a
      have hb := hbyte b
      have h1 := base64Digit_inj _ (by omega) _ (by omega) h.1
      have h2 := base64Digit_inj _ (by omega) _ (by omega) h.2
      have hab : a = b := UInt8.toNat_inj.mp (by omega)
      rw [hab]
    · simp only [base64, List.cons.injEq] at h
      exact absurd h.2.2.1.symm (hpadding _)
    · simp only [base64, List.cons.injEq] at h
      exact absurd h.2.2.1.symm (hpadding _)
  | case3 a b =>
    rcases bs with _ | ⟨c, _ | ⟨d, _ | ⟨e, rest⟩⟩⟩
    · cases h
    · simp only [base64, List.cons.injEq] at h
      exact absurd h.2.2.1 (hpadding _)
    · simp only [base64, List.cons.injEq, and_true] at h
      have ha := hbyte a
      have hb := hbyte b
      have hc := hbyte c
      have hd := hbyte d
      have h1 := base64Digit_inj _ (by omega) _ (by omega) h.1
      have h2 := base64Digit_inj _ (by omega) _ (by omega) h.2.1
      have h3 := base64Digit_inj _ (by omega) _ (by omega) h.2.2
      have hac : a = c := UInt8.toNat_inj.mp (by omega)
      have hbd : b = d := UInt8.toNat_inj.mp (by omega)
      rw [hac, hbd]
    · simp only [base64, List.cons.injEq] at h
      exact absurd h.2.2.2.1.symm (hpadding _)
  | case4 =>
    rename_i a b c rest n ih
    -- the digits give back the bytes, and the induction the bytes after them
    rcases bs with _ | ⟨d, _ | ⟨e, _ | ⟨f, rest'⟩⟩⟩
    · cases h
    · simp only [base64, List.cons.injEq] at h
      exact absurd h.2.2.1 (hpadding _)
    · simp only [base64, List.cons.injEq] at h
      exact absurd h.2.2.2.1 (hpadding _)
    · simp only [base64, List.cons.injEq] at h
      have ha := hbyte a
      have hb := hbyte b
      have hc := hbyte c
      have hd := hbyte d
      have he := hbyte e
      have hf := hbyte f
      have h1 := base64Digit_inj _ (by omega) _ (by omega) h.1
      have h2 := base64Digit_inj _ (by omega) _ (by omega) h.2.1
      have h3 := base64Digit_inj _ (by omega) _ (by omega) h.2.2.1
      have h4 := base64Digit_inj _ (by omega) _ (by omega) h.2.2.2.1
      have had : a = d := UInt8.toNat_inj.mp (by omega)
      have hbe : b = e := UInt8.toNat_inj.mp (by omega)
      have hcf : c = f := UInt8.toNat_inj.mp (by omega)
      rw [had, hbe, hcf, ih h.2.2.2.2]

end Text

namespace IdentityToken

/-- The token starts a list or an object, or is a double. -/
def opens : IdentityToken → Bool
  | .listStart | .objectStart | .bareDouble _ => true
  | _ => false

/-- The value whose identity is the token. -/
def value? : IdentityToken → Option Value
  | .null => some .null
  | .bool b => some (.bool b)
  | .text s => some (.string s)
  | _ => none

end IdentityToken

namespace Identity

theorem ofInt_inj {m n : Int} (h : ofInt m = ofInt n) : m = n := by
  simp only [ofInt, taggedText, tagged, List.cons_append, List.nil_append, List.cons.injEq,
    IdentityToken.text.injEq, and_true, true_and] at h
  exact Text.intText_inj h

theorem ofOwnDouble_cases (x : Double) :
    (∃ s, ofOwnDouble x = taggedText "$numberDouble" s) ∨ ofOwnDouble x = [.bareDouble x] := by
  unfold ofOwnDouble
  dsimp only
  split
  · exact Or.inl ⟨_, rfl⟩
  · split
    · exact Or.inl ⟨_, rfl⟩
    · split
      · exact Or.inl ⟨_, rfl⟩
      · split
        · exact Or.inr rfl
        · exact Or.inl ⟨_, rfl⟩

/-- The identity of a double: that of a whole number, or one that only doubles have. -/
theorem ofDouble_cases (x : Double) :
    (∃ n, x.toInt? = some n ∧ ofDouble x = ofInt n) ∨
      (∃ s, ofDouble x = taggedText "$numberDouble" s) ∨ ofDouble x = [.bareDouble x] := by
  unfold ofDouble
  split
  · rename_i n hn
    split
    · exact Or.inl ⟨n, hn, rfl⟩
    · exact Or.inr (ofOwnDouble_cases x)
  · exact Or.inr (ofOwnDouble_cases x)

theorem ofDouble_head (x : Double) :
    ∃ token rest, ofDouble x = token :: rest ∧ token.opens = true := by
  rcases ofDouble_cases x with ⟨n, -, hx⟩ | ⟨s, hx⟩ | hx
  · exact ⟨_, _, hx, rfl⟩
  · exact ⟨_, _, hx, rfl⟩
  · exact ⟨_, _, hx, rfl⟩

end Identity

namespace ObjectId

theorem hex_inj {a b : ObjectId} (h : a.hex = b.hex) : a = b := by
  have hdigits : Text.hexDigits 24 a.bits.toNat = Text.hexDigits 24 b.bits.toNat :=
    String.ofList_inj.mp h
  have hbits : a.bits.toNat = b.bits.toNat :=
    Text.hexDigits_inj (by simpa using a.bits.isLt) (by simpa using b.bits.isLt) hdigits
  cases a
  cases b
  simpa [← BitVec.toNat_inj] using hbits

end ObjectId

namespace Value

variable {v w : Value}

/-- A number that is whole, as an integer. -/
def whole? : Value → Option Int
  | .int32 n => some n.toInt
  | .int64 n => some n.toInt
  | .double x => x.toInt?
  | _ => none

/-- A whole number has the place of the double nearest to it. -/
theorem magnitude?_of_whole? {n : Int} (hv : v.whole? = some n) :
    v.magnitude? = some (.exact (Double.ofInt n).scaled) := by
  cases v with
  | int32 m | int64 m =>
    cases hv
    simp [magnitude?, toDouble?, Magnitude.ofDouble, Double.isNaN_ofInt]
  | double x =>
    obtain ⟨hscaled, hnan⟩ := Double.scaled_ofInt hv
    simp [magnitude?, toDouble?, Magnitude.ofDouble, hnan, hscaled]
  | _ => cases hv

/-- Whole numbers with one value are equal in the store, whatever their widths. -/
theorem equals_of_whole? {n : Int} (hv : v.whole? = some n) (hw : w.whole? = some n) :
    v.equals w = true := by
  rw [equals_of_magnitude? (magnitude?_of_whole? hv) (magnitude?_of_whole? hw)]
  exact beq_self_eq_true _

theorem identity_array (items : List Value) :
    (array items).identity = .listStart :: tokensOfItems .shared items ++ [.listEnd] := rfl

theorem tokensOfItems_cons (v : Value) (rest : List Value) :
    tokensOfItems .shared (v :: rest) = v.identity ++ tokensOfItems .shared rest := rfl

theorem identity_double (x : Double) : (double x).identity = Identity.ofDouble x := rfl

/-- Values with the identity of an integer: whole numbers, and documents. -/
theorem whole?_of_identity {n : Int} (h : w.identity = Identity.ofInt n)
    (hw : ∀ fields, w ≠ .document fields) : w.whole? = some n := by
  cases w with
  | int32 m => exact congrArg some (Identity.ofInt_inj h)
  | int64 m => exact congrArg some (Identity.ofInt_inj h)
  | double x =>
    rw [identity_double] at h
    rcases Identity.ofDouble_cases x with ⟨m, hm, hx⟩ | ⟨s, hx⟩ | hx
    · rw [whole?, hm, Identity.ofInt_inj (hx.symm.trans h)]
    · rw [hx] at h
      simp [Identity.ofInt, Identity.taggedText, Identity.tagged] at h
    · rw [hx] at h
      simp [Identity.ofInt, Identity.taggedText, Identity.tagged] at h
  | document fields => exact absurd rfl (hw fields)
  | _ => simp [identity, tokens, Identity.ofInt, Identity.taggedText, Identity.tagged] at h

/-! ### Identities of one token -/

/-- An identity that starts with a token that opens nothing is this token alone, and it is the
token of null, a truth value or a text. -/
theorem eq_of_identity_head {token : IdentityToken} {rest rest' : Identity}
    (htoken : token.opens = false) (h : w.identity ++ rest = token :: rest') :
    token.value? = some w ∧ rest = rest' := by
  cases w with
  | null | bool b | string s =>
    obtain ⟨rfl, hrest⟩ := List.cons.inj h
    exact ⟨rfl, hrest⟩
  | double x =>
    obtain ⟨token', others, hx, hopens⟩ := Identity.ofDouble_head x
    rw [identity_double, hx] at h
    rw [(List.cons.inj h).1, htoken] at hopens
    cases hopens
  | _ =>
    -- every other value has an identity that starts with an opening token
    rw [← (List.cons.inj h).1] at htoken
    cases htoken

/-- An identity of one token is that of null, of a truth value or of a text. -/
theorem eq_of_identity_singleton {token : IdentityToken} (htoken : token.opens = false)
    (h : w.identity = [token]) : token.value? = some w := by
  have happend : w.identity ++ [] = [token] := (List.append_nil _).trans h
  exact (eq_of_identity_head htoken happend).1

/-! ### Simple values -/

/-- The values that fields of the simple types hold: texts, integers, truth values, times and
object identifiers. -/
def isKey : Value → Bool
  | .string _ | .int32 _ | .int64 _ | .bool _ | .dateTime _ | .objectId _ => true
  | _ => false

theorem eq_objectId_of_identity {id : ObjectId} (h : w.identity = (objectId id).identity)
    (hw : ∀ fields, w ≠ .document fields) : w = .objectId id := by
  cases w with
  | objectId i =>
    simp only [identity, tokens, Identity.taggedText, Identity.tagged, List.cons_append,
      List.nil_append, List.cons.injEq, IdentityToken.text.injEq, and_true, true_and] at h
    rw [ObjectId.hex_inj h]
  | double x =>
    rcases Identity.ofDouble_cases x with ⟨m, -, hx⟩ | ⟨s, hx⟩ | hx <;>
      simp [identity, tokens, hx, Identity.ofInt, Identity.taggedText, Identity.tagged] at h
  | document fields => exact absurd rfl (hw fields)
  | _ => simp [identity, tokens, Identity.ofInt, Identity.taggedText, Identity.tagged] at h

theorem eq_dateTime_of_identity {millis : Int64} (h : w.identity = (dateTime millis).identity)
    (hw : ∀ fields, w ≠ .document fields) : w = .dateTime millis := by
  cases w with
  | dateTime m =>
    simp only [identity, tokens, Identity.tagged, List.cons.injEq, true_and,
      List.append_left_inj] at h
    rw [Int64.toInt_inj.mp (Identity.ofInt_inj h)]
  | double x =>
    rcases Identity.ofDouble_cases x with ⟨m, -, hx⟩ | ⟨s, hx⟩ | hx <;>
      simp [identity, tokens, hx, Identity.ofInt, Identity.taggedText, Identity.tagged] at h
  | document fields => exact absurd rfl (hw fields)
  | _ => simp [identity, tokens, Identity.ofInt, Identity.taggedText, Identity.tagged] at h

/-- What has the identity of a simple value equals it, unless it is a document that spells the
identity out. -/
theorem equals_of_identity (hv : v.isKey = true) (h : w.identity = v.identity)
    (hw : ∀ fields, w ≠ .document fields) : w.equals v = true := by
  -- an integer shares its identity with equal numbers of other widths, other keys with no value
  cases v with
  | int32 n => exact equals_of_whole? (whole?_of_identity h hw) rfl
  | int64 n => exact equals_of_whole? (whole?_of_identity h hw) rfl
  | string s =>
    cases eq_of_identity_singleton rfl h
    rw [equals_eq_beq rfl, beq]
    exact beq_self_eq_true s
  | bool b =>
    cases eq_of_identity_singleton rfl h
    rw [equals_eq_beq rfl, beq]
    exact beq_self_eq_true b
  | dateTime m =>
    rw [eq_dateTime_of_identity h hw, equals_eq_beq rfl, beq]
    exact beq_self_eq_true m
  | objectId i =>
    rw [eq_objectId_of_identity h hw, equals_eq_beq rfl, beq]
    exact beq_self_eq_true i
  | _ => cases hv

end Value

end DocMapper
