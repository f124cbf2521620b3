import Mathlib.Data.Nat.Digits.Defs
import Mathlib.Tactic.Ring
import ScriptTags.Proofs.Order

/-!
# The bytes of texts

The first byte of a character tells how many bytes follow it and grows with the code point, and the
bytes that follow are the digits of the code point to the base 64, the highest first. Texts
therefore stand in the same order by their code points, by which a tags file is sorted, and by
their bytes, which the programs that read it compare; and a text is read back from its bytes.
-/

namespace ScriptTags.Text
namespace Utf8

/-- The number of bytes that follow the first byte of a code point. -/
def tailLength (v : ℕ) : ℕ :=
  if v < 0x80 then 0 else if v < 0x800 then 1 else if v < 0x10000 then 2 else 3

/-- The first byte of a code point. -/
def leadValue (v : ℕ) : ℕ :=
  if v < 0x80 then v
  else if v < 0x800 then 0xC0 + v / 64
  else if v < 0x10000 then 0xE0 + v / 4096
  else 0xF0 + v / 262144

/-- The lowest `k` digits of a code point to the base 64, as bytes. -/
def tailValues : ℕ → ℕ → List ℕ
  | 0, _ => []
  | k + 1, v => (0x80 + v / 64 ^ k % 64) :: tailValues k v

def charValues (v : ℕ) : List ℕ := leadValue v :: tailValues (tailLength v) v

theorem toNat_lt (c : Char) : c.toNat < 0x110000 := by
  have hvalid := c.valid
  simp only [UInt32.isValidChar, Nat.isValidChar] at hvalid
  change c.val.toNat < _
  omega

theorem map_toNat_utf8EncodeChar (c : Char) :
    (String.utf8EncodeChar c).map UInt8.toNat = charValues c.toNat := by
  have hc := toNat_lt c
  change c.val.toNat < _ at hc
  change _ = charValues c.val.toNat
  unfold String.utf8EncodeChar charValues leadValue tailLength
  generalize c.val.toNat = v at hc ⊢
  simp only
  split_ifs <;> simp [tailValues] <;> omega

/-- Digits tell which of two remainders is smaller, whatever follows them. -/
theorem tailValues_append_lt {k v w : ℕ} (h : v % 64 ^ k < w % 64 ^ k) (xs ys : List ℕ) :
    tailValues k v ++ xs < tailValues k w ++ ys := by
  induction k with
  | zero => simp [Nat.mod_one] at h
  | succ k ih =>
    rw [Nat.mod_pow_succ, Nat.mod_pow_succ] at h
    simp only [tailValues, List.cons_append, List.cons_lt_cons_iff]
    rcases Nat.lt_trichotomy (v / 64 ^ k % 64) (w / 64 ^ k % 64) with hdigit | hdigit | hdigit
    · exact .inl (by omega)
    · rw [hdigit] at h
      exact .inr ⟨by rw [hdigit], ih (by omega)⟩
    · -- A higher digit outweighs all lower ones.
      have hv : w % 64 ^ k < 64 ^ k := Nat.mod_lt _ (by positivity)
      have hstep := Nat.mul_le_mul_left (64 ^ k) (Nat.succ_le_of_lt hdigit)
      rw [Nat.mul_succ] at hstep
      omega

/-- Of two characters the one with the smaller code point has the smaller bytes, and the bytes
differ before either ends. -/
theorem charValues_append_lt {v w : ℕ} (h : v < w) (hw : w < 0x110000) (xs ys : List ℕ) :
    charValues v ++ xs < charValues w ++ ys := by
  have hlead : leadValue v < leadValue w ∨ leadValue v = leadValue w ∧
      tailLength v = tailLength w ∧ v % 64 ^ tailLength w < w % 64 ^ tailLength w := by
    unfold leadValue tailLength
    split_ifs <;> norm_num <;> omega
  simp only [charValues, List.cons_append, List.cons_lt_cons_iff]
  rcases hlead with hlead | ⟨hlead, htail, hdigits⟩
  · exact .inl hlead
  · rw [htail]
    exact .inr ⟨hlead, tailValues_append_lt hdigits xs ys⟩

theorem map_toNat_encode (cs : List Char) :
    (encode cs).map UInt8.toNat = cs.flatMap fun c => charValues c.toNat := by
  rw [encode, List.map_flatMap]
  simp only [map_toNat_utf8EncodeChar]

theorem encode_lt {cs ds : List Char} (h : cs < ds) :
    (encode cs).map UInt8.toNat < (encode ds).map UInt8.toNat := by
  rw [map_toNat_encode, map_toNat_encode]
  induction cs generalizing ds with
  | nil =>
    cases ds with
    | nil => simp at h
    | cons d ds => simp [charValues]
  | cons c cs ih =>
    cases ds with
    | nil => simp at h
    | cons d ds =>
      simp only [List.flatMap_cons]
      rcases List.cons_lt_cons_iff.mp h with hlt | ⟨rfl, hlt⟩
      · exact charValues_append_lt hlt (toNat_lt d) _ _
      · exact List.append_left_lt (ih hlt)

theorem ofByte?_eq (b : UInt8) : Lead.ofByte? b =
    if b.toNat < 0x80 then some ⟨b.toNat, 0, 0x80, 0xBF⟩
    else if b.toNat < 0xC2 then none
    else if b.toNat < 0xE0 then some ⟨b.toNat - 0xC0, 1, 0x80, 0xBF⟩
    else if b.toNat = 0xE0 then some ⟨0, 2, 0xA0, 0xBF⟩
    else if b.toNat = 0xED then some ⟨0xD, 2, 0x80, 0x9F⟩
    else if b.toNat < 0xF0 then some ⟨b.toNat - 0xE0, 2, 0x80, 0xBF⟩
    else if b.toNat = 0xF0 then some ⟨0, 3, 0x90, 0xBF⟩
    else if b.toNat < 0xF4 then some ⟨b.toNat - 0xF0, 3, 0x80, 0xBF⟩
    else if b.toNat = 0xF4 then some ⟨4, 3, 0x80, 0x8F⟩
    else none := by
  simp only [Lead.ofByte?, UInt8.lt_iff_toNat_lt, ← UInt8.toNat_inj]
  rfl

theorem leadValue_cases (v : ℕ) :
    (v < 0x80 ∧ leadValue v = v ∧ tailLength v = 0) ∨
    (0x80 ≤ v ∧ v < 0x800 ∧ leadValue v = 0xC0 + v / 64 ∧ tailLength v = 1) ∨
    (0x800 ≤ v ∧ v < 0x10000 ∧ leadValue v = 0xE0 + v / 4096 ∧ tailLength v = 2) ∨
    (0x10000 ≤ v ∧ leadValue v = 0xF0 + v / 262144 ∧ tailLength v = 3) := by
  unfold leadValue tailLength
  split_ifs <;> omega

/-- The first byte of a code point tells how many digits follow and in which range the first of
them lies. -/
structure Lead.Announces (lead : Lead) (v : ℕ) : Prop where
  tails : lead.tails = tailLength v
  bits : lead.bits = v / 64 ^ lead.tails
  first : ∀ k, lead.tails = k + 1 →
    lead.low.toNat ≤ 0x80 + v / 64 ^ k % 64 ∧ 0x80 + v / 64 ^ k % 64 ≤ lead.high.toNat

theorem Lead.announces {v k bits : ℕ} (l h : ℕ) {low high : UInt8} (htail : tailLength v = k + 1)
    (hbits : bits = v / 64 ^ (k + 1)) (hlow : low.toNat = l) (hhigh : high.toNat = h)
    (hrange : l ≤ 0x80 + v / 64 ^ k % 64 ∧ 0x80 + v / 64 ^ k % 64 ≤ h) :
    (Lead.mk bits (k + 1) low high).Announces v where
  tails := htail.symm
  bits := hbits
  first j hj := by
    obtain rfl : j = k := (Nat.succ.inj hj).symm
    rwa [hlow, hhigh]

theorem ofByte?_leadValue {v : ℕ} (hv : v < 0x110000) (hsurrogate : v < 0xD800 ∨ 0xE000 ≤ v)
    {b : UInt8} (hb : b.toNat = leadValue v) :
    ∃ lead, Lead.ofByte? b = some lead ∧ lead.Announces v := by
  rw [ofByte?_eq, hb]
  obtain ⟨h, hlead, htail⟩ | ⟨h, h', hlead, htail⟩ | ⟨h, h', hlead, htail⟩ | ⟨h, hlead, htail⟩ :=
    leadValue_cases v
  · rw [hlead, if_pos h]
    exact ⟨_, rfl, htail.symm, by simp, by simp⟩
  · rw [hlead, if_neg (by omega), if_neg (by omega), if_pos (by omega)]
    exact ⟨_, rfl, Lead.announces 0x80 0xBF htail (by omega) rfl rfl (by omega)⟩
  · rw [hlead, if_neg (by omega), if_neg (by omega), if_neg (by omega)]
    by_cases hzero : v / 4096 = 0
    · rw [if_pos (by omega)]
      exact ⟨_, rfl, Lead.announces 0xA0 0xBF htail (by omega) rfl rfl (by omega)⟩
    by_cases hthirteen : v / 4096 = 13
    · rw [if_neg (by omega), if_pos (by omega)]
      exact ⟨_, rfl, Lead.announces 0x80 0x9F htail (by omega) rfl rfl (by omega)⟩
    rw [if_neg (by omega), if_neg (by omega), if_pos (by omega)]
    exact ⟨_, rfl, Lead.announces 0x80 0xBF htail (by omega) rfl rfl (by omega)⟩
  · rw [hlead, if_neg (by omega), if_neg (by omega), if_neg (by omega), if_neg (by omega),
      if_neg (by omega), if_neg (by omega)]
    by_cases hzero : v / 262144 = 0
    · rw [if_pos (by omega)]
      exact ⟨_, rfl, Lead.announces 0x90 0xBF htail (by omega) rfl rfl (by omega)⟩
    by_cases hfour : v / 262144 = 4
    · rw [if_neg (by omega), if_neg (by omega), if_pos (by omega)]
      exact ⟨_, rfl, Lead.announces 0x80 0x8F htail (by omega) rfl rfl (by omega)⟩
    rw [if_neg (by omega), if_pos (by omega)]
    exact ⟨_, rfl, Lead.announces 0x80 0xBF htail (by omega) rfl rfl (by omega)⟩

theorem continuations_tailValues {k v : ℕ} {low high : UInt8}
    (hfirst : ∀ j, k = j + 1 →
      low.toNat ≤ 0x80 + v / 64 ^ j % 64 ∧ 0x80 + v / 64 ^ j % 64 ≤ high.toNat)
    (rest : Bytes) :
    continuations k low high (v / 64 ^ k) ((tailValues k v).map UInt8.ofNat ++ rest) =
      (.ok v, rest) := by
  induction k generalizing low high with
  | zero => simp [continuations, tailValues]
  | succ k ih =>
    obtain ⟨hle, hge⟩ := hfirst k rfl
    have hdigit : v / 64 ^ k % 64 < 64 := Nat.mod_lt _ (by decide)
    have hbyte : (UInt8.ofNat (0x80 + v / 64 ^ k % 64)).toNat = 0x80 + v / 64 ^ k % 64 := by
      rw [UInt8.toNat_ofNat']
      omega
    have hvalue : v / 64 ^ (k + 1) * 64 + (0x80 + v / 64 ^ k % 64 - 0x80) = v / 64 ^ k := by
      rw [Nat.pow_succ, ← Nat.div_div_eq_div_mul]
      omega
    rw [tailValues, List.map_cons, List.cons_append, continuations, if_pos, hbyte, hvalue]
    · refine ih fun j _ => ?_
      have : v / 64 ^ j % 64 < 64 := Nat.mod_lt _ (by decide)
      simp
      omega
    · rw [UInt8.le_iff_toNat_le, UInt8.le_iff_toNat_le, hbyte]
      exact ⟨hle, hge⟩

theorem surrogate_free (c : Char) : c.toNat < 0xD800 ∨ 0xE000 ≤ c.toNat := by
  have hvalid := c.valid
  simp only [UInt32.isValidChar, Nat.isValidChar] at hvalid
  change c.val.toNat < _ ∨ _ ≤ c.val.toNat
  omega

/-- A character is read back from its bytes, whatever follows them. -/
theorem next_utf8EncodeChar (c : Char) (rest : Bytes) :
    ∃ b bs, String.utf8EncodeChar c = b :: bs ∧ next b (bs ++ rest) = (.ok c, rest) := by
  have hbytes : String.utf8EncodeChar c = (charValues c.toNat).map UInt8.ofNat := by
    rw [← map_toNat_utf8EncodeChar, List.map_map]
    simp [Function.comp_def]
  have hbyte : (UInt8.ofNat (leadValue c.toNat)).toNat = leadValue c.toNat := by
    have hc := toNat_lt c
    rw [UInt8.toNat_ofNat']
    unfold leadValue
    split_ifs <;> omega
  obtain ⟨lead, hofByte, hlead⟩ := ofByte?_leadValue (toNat_lt c) (surrogate_free c) hbyte
  have hcontinuations := continuations_tailValues hlead.first rest
  rw [← hlead.bits, hlead.tails] at hcontinuations
  refine ⟨_, _, hbytes, ?_⟩
  simp only [next, hofByte, hlead.tails, hcontinuations, Char.ofNat_toNat]

theorem encode_cons (c : Char) (cs : List Char) :
    ∃ b rest, encode (c :: cs) = b :: rest ∧ next b rest = (.ok c, encode cs) := by
  obtain ⟨b, bs, hbytes, hnext⟩ := next_utf8EncodeChar c (encode cs)
  refine ⟨b, bs ++ encode cs, ?_, hnext⟩
  rw [encode, List.flatMap_cons, hbytes]
  rfl

theorem decode_encode (cs : List Char) : decode (encode cs) = cs := by
  induction cs with
  | nil => simp [encode, decode]
  | cons c cs ih =>
    obtain ⟨b, rest, hbytes, hnext⟩ := encode_cons c cs
    rw [hbytes, decode, hnext, ih]

theorem decodeFrom_encode (position : ℕ) (cs : List Char) :
    decodeFrom position (encode cs) = .ok cs := by
  induction cs generalizing position with
  | nil => simp [encode, decodeFrom]
  | cons c cs ih =>
    obtain ⟨b, rest, hbytes, hnext⟩ := encode_cons c cs
    rw [hbytes, decodeFrom, hnext]
    simp only [ih]
    rfl

end Utf8

def byteValues (s : String) : List ℕ := (bytesOf s).map UInt8.toNat

theorem byteValues_strictMono : StrictMono byteValues := by
  intro a b h
  exact Utf8.encode_lt (String.lt_iff_toList_lt.mp h)

theorem inOrder_iff_byteValues (a b : String) :
    inOrder a b = true ↔ byteValues a ≤ byteValues b := by
  rw [inOrder_iff_le, byteValues_strictMono.le_iff_le]

theorem decode_bytesOf (s : String) : Utf8.decode (bytesOf s) = s.toList :=
  Utf8.decode_encode s.toList

theorem bytesOf_injective : Function.Injective bytesOf := by
  intro s t h
  rw [← String.toList_inj, ← decode_bytesOf, h, decode_bytesOf]

theorem decode?_bytesOf (s : String) : Utf8.decode? (bytesOf s) = .ok s.toList :=
  Utf8.decodeFrom_encode 0 s.toList

theorem utf8ByteSize_replicate (n : ℕ) (c : Char) :
    (String.ofList (List.replicate n c)).utf8ByteSize = n * c.utf8Size := by
  induction n with
  | zero => simp
  | succ n ih =>
    rw [List.replicate_succ', String.ofList_append, String.utf8ByteSize_append, ih, Nat.succ_mul]
    simp

end ScriptTags.Text
