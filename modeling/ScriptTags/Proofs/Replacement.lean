import ScriptTags.Proofs.Utf8

/-!
# Bytes that are no text

A source need not be text. Where its bytes are those of a character, the character is read. Where
no character begins, the longest stretch that could still begin one is passed over, or a single byte
if there is none, and one replacement character is read for it. Reading is settled by this rule. It
follows that bytes from which no replacement character was read are those of the text that was read:
no other form of a character is accepted in the place of its bytes.
-/

namespace ScriptTags.Text.Utf8

theorem continuations_eq_ok {k value v : ℕ} {low high : UInt8} {bs rest : Bytes}
    (hlow : 0x80 ≤ low.toNat) (hhigh : high.toNat ≤ 0xBF)
    (h : continuations k low high value bs = (.ok v, rest)) :
    v / 64 ^ k = value ∧ bs.map UInt8.toNat = tailValues k v ++ rest.map UInt8.toNat ∧
      ∀ j, k = j + 1 →
        low.toNat ≤ 0x80 + v / 64 ^ j % 64 ∧ 0x80 + v / 64 ^ j % 64 ≤ high.toNat := by
  fun_induction continuations k low high value bs with
  | case1 low high value bs =>
    obtain ⟨rfl, rfl⟩ : value = v ∧ bs = rest := by simpa using h
    simp [tailValues]
  | case2 => simp at h
  | case3 k low high value b bs hb ih =>
    obtain ⟨hvalue, hbytes, -⟩ := ih (by decide) (by decide) h
    rw [UInt8.le_iff_toNat_le, UInt8.le_iff_toNat_le] at hb
    have hdigit : 0x80 + v / 64 ^ k % 64 = b.toNat := by omega
    refine ⟨?_, ?_, ?_⟩
    · rw [Nat.pow_succ, ← Nat.div_div_eq_div_mul]
      omega
    · rw [List.map_cons, hbytes, tailValues, hdigit]
      rfl
    · intro j hj
      obtain rfl := Nat.succ.inj hj
      rwa [hdigit]
  | case4 => simp at h

theorem ofByte?_cases {b : UInt8} {lead : Lead} (h : Lead.ofByte? b = some lead) :
    (b.toNat < 0x80 ∧ lead = ⟨b.toNat, 0, 0x80, 0xBF⟩) ∨
    (0xC2 ≤ b.toNat ∧ b.toNat < 0xE0 ∧ lead = ⟨b.toNat - 0xC0, 1, 0x80, 0xBF⟩) ∨
    (b.toNat = 0xE0 ∧ lead = ⟨0, 2, 0xA0, 0xBF⟩) ∨
    (b.toNat = 0xED ∧ lead = ⟨0xD, 2, 0x80, 0x9F⟩) ∨
    (0xE1 ≤ b.toNat ∧ b.toNat < 0xF0 ∧ b.toNat ≠ 0xED ∧
      lead = ⟨b.toNat - 0xE0, 2, 0x80, 0xBF⟩) ∨
    (b.toNat = 0xF0 ∧ lead = ⟨0, 3, 0x90, 0xBF⟩) ∨
    (0xF1 ≤ b.toNat ∧ b.toNat < 0xF4 ∧ lead = ⟨b.toNat - 0xF0, 3, 0x80, 0xBF⟩) ∨
    (b.toNat = 0xF4 ∧ lead = ⟨4, 3, 0x80, 0x8F⟩) := by
  rw [ofByte?_eq] at h
  grind

theorem ofByte?_range {b : UInt8} {lead : Lead} (h : Lead.ofByte? b = some lead) :
    0x80 ≤ lead.low.toNat ∧ lead.low.toNat ≤ lead.high.toNat ∧ lead.high.toNat ≤ 0xBF := by
  obtain ⟨-, rfl⟩ | ⟨-, -, rfl⟩ | ⟨-, rfl⟩ | ⟨-, rfl⟩ | ⟨-, -, -, rfl⟩ | ⟨-, rfl⟩ | ⟨-, -, rfl⟩ |
    ⟨-, rfl⟩ := ofByte?_cases h
  all_goals simp

/-- A value of the announced digits is a code point with this first byte, in its shortest form and
no surrogate. -/
theorem leadValue_of_ofByte? {b : UInt8} {lead : Lead} {v : ℕ} (h : Lead.ofByte? b = some lead)
    (hbits : v / 64 ^ lead.tails = lead.bits)
    (hfirst : ∀ k, lead.tails = k + 1 →
      lead.low.toNat ≤ 0x80 + v / 64 ^ k % 64 ∧ 0x80 + v / 64 ^ k % 64 ≤ lead.high.toNat) :
    leadValue v = b.toNat ∧ tailLength v = lead.tails ∧ v.isValidChar := by
  have hv := leadValue_cases v
  unfold Nat.isValidChar
  obtain ⟨hb, rfl⟩ | ⟨hb, hb', rfl⟩ | ⟨hb, rfl⟩ | ⟨hb, rfl⟩ | ⟨hb, hb', hne, rfl⟩ | ⟨hb, rfl⟩ |
    ⟨hb, hb', rfl⟩ | ⟨hb, rfl⟩ := ofByte?_cases h
  · simp only [Nat.pow_zero, Nat.div_one] at hbits ⊢
    omega
  all_goals
    have hk := hfirst _ rfl
    simp only [UInt8.reduceToNat, Nat.reducePow] at hbits hk ⊢
    omega

theorem next_of_stray {b : UInt8} (hlead : Lead.ofByte? b = none) (bs : Bytes) :
    next b bs = (.error .invalidStart, bs) := by
  rw [next, hlead]

section Lead

variable {b : UInt8} {lead : Lead} {bs rest : Bytes}

theorem next_of_complete {v : ℕ} (hlead : Lead.ofByte? b = some lead)
    (h : continuations lead.tails lead.low lead.high lead.bits bs = (.ok v, rest)) :
    next b bs = (.ok (Char.ofNat v), rest) := by
  simp only [next, hlead, h]

theorem next_of_broken {fault : Fault} (hlead : Lead.ofByte? b = some lead)
    (h : continuations lead.tails lead.low lead.high lead.bits bs = (.error fault, rest)) :
    next b bs = (.error fault, rest) := by
  simp only [next, hlead, h]

theorem eq_utf8EncodeChar_append {v : ℕ} (hlead : Lead.ofByte? b = some lead)
    (h : continuations lead.tails lead.low lead.high lead.bits bs = (.ok v, rest)) :
    b :: bs = String.utf8EncodeChar (Char.ofNat v) ++ rest := by
  obtain ⟨hlow, -, hhigh⟩ := ofByte?_range hlead
  obtain ⟨hbits, hbytes, hfirst⟩ := continuations_eq_ok hlow hhigh h
  obtain ⟨hb, htails, hvalid⟩ := leadValue_of_ofByte? hlead hbits hfirst
  have hchar : (Char.ofNat v).toNat = v := by
    rw [Char.ofNat, dif_pos hvalid]
    rfl
  apply List.map_injective_iff.mpr fun _ _ => UInt8.toNat_inj.mp
  rw [List.map_append, map_toNat_utf8EncodeChar, hchar, charValues, htails, hb, List.map_cons,
    hbytes, List.cons_append]

end Lead

theorem next_eq_ok {b : UInt8} {bs rest : Bytes} {c : Char} (h : next b bs = (.ok c, rest)) :
    b :: bs = String.utf8EncodeChar c ++ rest := by
  cases hlead : Lead.ofByte? b with
  | none => simp [next_of_stray hlead] at h
  | some lead =>
    rcases hbs : continuations lead.tails lead.low lead.high lead.bits bs with ⟨fault | v, rest'⟩
    · simp [next_of_broken hlead hbs] at h
    · obtain ⟨rfl, rfl⟩ : Char.ofNat v = c ∧ rest' = rest := by
        simpa [next_of_complete hlead hbs] using h
      exact eq_utf8EncodeChar_append hlead hbs

/-! ### Stretches -/

/-- Bytes with which those of some character begin. -/
def Begins (bs : Bytes) : Prop := ∃ c, bs <+: String.utf8EncodeChar c

/-- The stretch that is passed over where no character begins: the longest one that begins the bytes
of a character, or a single byte if that begins none. -/
structure IsStretch (stretch rest : Bytes) : Prop where
  noCharacter : ∀ c, ¬ String.utf8EncodeChar c <+: stretch ++ rest
  part : Begins stretch ∧ stretch ≠ [] ∨ stretch.length = 1
  longest : ∀ longer, longer <+: stretch ++ rest → Begins longer → longer.length ≤ stretch.length

/-- Bytes can always be completed to a character once its first byte is there. -/
theorem exists_continuations_eq_ok (k value : ℕ) {low high : UInt8} (h : low ≤ high) :
    ∃ filler v, continuations k low high value filler = (.ok v, []) := by
  induction k generalizing value low high with
  | zero => exact ⟨[], value, rfl⟩
  | succ k ih =>
    have hrange : (0x80 : UInt8) ≤ 0xBF := by decide
    obtain ⟨filler, v, hfiller⟩ := ih (value * 64 + (low.toNat - 0x80)) hrange
    exact ⟨low :: filler, v, by rw [continuations, if_pos ⟨UInt8.le_refl low, h⟩, hfiller]⟩

/-- Where the bytes of a character break off, those that were read can be completed, and the byte
that comes next cannot follow them. -/
theorem continuations_eq_error {k value : ℕ} {low high : UInt8} {bs rest : Bytes} {fault : Fault}
    (hrange : low ≤ high) (h : continuations k low high value bs = (.error fault, rest)) :
    ∃ read, bs = read ++ rest ∧
      (∃ filler v, continuations k low high value (read ++ filler) = (.ok v, [])) ∧
      ∀ b others, rest.head? = some b →
        ∃ fault' rest', continuations k low high value (read ++ b :: others) =
          (.error fault', rest') := by
  fun_induction continuations k low high value bs with
  | case1 => simp at h
  | case2 k low high value =>
    obtain ⟨-, rfl⟩ := Prod.mk.inj h
    exact ⟨[], rfl, exists_continuations_eq_ok (k + 1) value hrange, by simp⟩
  | case3 k low high value b bs hb ih =>
    obtain ⟨read, rfl, ⟨filler, v, hfiller⟩, hstop⟩ := ih (by decide) h
    refine ⟨b :: read, rfl, ⟨filler, v, ?_⟩, ?_⟩
    · rw [List.cons_append, continuations, if_pos hb, hfiller]
    · intro next others hnext
      obtain ⟨fault', rest', hstop⟩ := hstop next others hnext
      exact ⟨fault', rest', by rw [List.cons_append, continuations, if_pos hb, hstop]⟩
  | case4 k low high value b bs hb =>
    obtain ⟨-, rfl⟩ := Prod.mk.inj h
    refine ⟨[], rfl, exists_continuations_eq_ok (k + 1) value hrange, ?_⟩
    intro next others hnext
    obtain rfl := Option.some.inj hnext
    exact ⟨_, _, by rw [List.nil_append, continuations, if_neg hb]⟩

theorem next_of_utf8EncodeChar {c : Char} {b : UInt8} {bs rest : Bytes}
    (h : String.utf8EncodeChar c ++ rest = b :: bs) : next b bs = (.ok c, rest) := by
  obtain ⟨first, others, hbytes, hnext⟩ := next_utf8EncodeChar c rest
  rw [hbytes, List.cons_append, List.cons.injEq] at h
  rw [← h.1, ← h.2, hnext]

theorem isStretch_cons {b : UInt8} {read rest : Bytes}
    (hpart : Begins (b :: read) ∨ read = [])
    (herror : ∃ fault rest', next b (read ++ rest) = (.error fault, rest'))
    (hstop : ∀ next others, rest.head? = some next →
      ∃ fault rest', Utf8.next b (read ++ next :: others) = (.error fault, rest')) :
    IsStretch (b :: read) rest where
  noCharacter := by
    rintro c ⟨after, hafter⟩
    obtain ⟨fault, rest', herror⟩ := herror
    have hok := next_of_utf8EncodeChar hafter
    exact absurd (hok.symm.trans herror) (by simp)
  part := by
    rcases hpart with hbegins | rfl
    · exact .inl ⟨hbegins, List.cons_ne_nil b read⟩
    · exact .inr rfl
  longest := by
    rintro longer hlonger ⟨c, after, hafter⟩
    by_contra hlength
    have hread : b :: read <+: longer :=
      List.prefix_of_prefix_length_le (List.prefix_append _ rest) hlonger (by omega)
    obtain ⟨more, rfl⟩ := hread
    rw [List.prefix_append_right_inj] at hlonger
    -- A longer one goes on with the byte that cannot follow.
    cases more with
    | nil => simp at hlength
    | cons x more =>
      obtain ⟨others, rfl⟩ := hlonger
      obtain ⟨fault, rest', herror⟩ := hstop x (more ++ after) rfl
      have hbytes : String.utf8EncodeChar c ++ [] = b :: (read ++ x :: (more ++ after)) := by
        rw [← hafter]
        simp
      exact absurd ((next_of_utf8EncodeChar hbytes).symm.trans herror) (by simp)

/-- What is passed over where no character is read is such a stretch. -/
theorem next_eq_error {b : UInt8} {bs rest : Bytes} {fault : Fault}
    (h : next b bs = (.error fault, rest)) :
    ∃ stretch, b :: bs = stretch ++ rest ∧ IsStretch stretch rest := by
  cases hlead : Lead.ofByte? b with
  | none =>
    obtain ⟨-, rfl⟩ := Prod.mk.inj ((next_of_stray hlead bs).symm.trans h)
    refine ⟨[b], rfl, isStretch_cons (.inr rfl) ⟨_, _, next_of_stray hlead _⟩ ?_⟩
    intro x others _
    exact ⟨_, _, next_of_stray hlead _⟩
  | some lead =>
    rcases hbs : continuations lead.tails lead.low lead.high lead.bits bs with ⟨fault' | v, rest'⟩
    · obtain ⟨rfl, rfl⟩ : fault' = fault ∧ rest' = rest := by
        simpa [next_of_broken hlead hbs] using h
      have hrange : lead.low ≤ lead.high :=
        UInt8.le_iff_toNat_le.mpr (ofByte?_range hlead).2.1
      obtain ⟨read, rfl, ⟨filler, v, hfiller⟩, hstop⟩ := continuations_eq_error hrange hbs
      refine ⟨b :: read, rfl, isStretch_cons (.inl ?_) ⟨_, _, h⟩ ?_⟩
      · have hbytes := eq_utf8EncodeChar_append hlead hfiller
        rw [List.append_nil] at hbytes
        exact ⟨Char.ofNat v, filler, hbytes⟩
      · intro x others hx
        obtain ⟨fault'', rest'', hx⟩ := hstop x others hx
        exact ⟨fault'', rest'', next_of_broken hlead hx⟩
    · simp [next_of_complete hlead hbs] at h

theorem IsStretch.ne_nil {stretch rest : Bytes} (h : IsStretch stretch rest) : stretch ≠ [] := by
  rcases h.part with ⟨-, hne⟩ | hone
  · exact hne
  · exact List.ne_nil_of_length_eq_add_one hone

theorem IsStretch.unique {stretch other rest rest' : Bytes} (h : IsStretch stretch rest)
    (h' : IsStretch other rest') (heq : stretch ++ rest = other ++ rest') :
    stretch = other ∧ rest = rest' := by
  have hle : ∀ {a b s t : Bytes}, IsStretch a s → IsStretch b t → a ++ s = b ++ t →
      a.length ≤ b.length := by
    intro a b s t ha hb hab
    rcases ha.part with ⟨hbegins, -⟩ | hone
    · exact hb.longest a (hab ▸ List.prefix_append a s) hbegins
    · exact hone ▸ List.length_pos_of_ne_nil hb.ne_nil
  exact List.append_inj heq (Nat.le_antisymm (hle h h' heq) (hle h' h heq.symm))

/-! ### What is read -/

def replacement : Char := Char.ofNat 0xFFFD

/-- Characters are read from bytes: each from its own bytes, or a replacement from a stretch. -/
inductive Reads : Bytes → List Char → Prop
  | nil : Reads [] []
  | character {rest : Bytes} {cs : List Char} (c : Char) (hrest : Reads rest cs) :
      Reads (String.utf8EncodeChar c ++ rest) (c :: cs)
  | replaced {stretch rest : Bytes} {cs : List Char} (hstretch : IsStretch stretch rest)
      (hrest : Reads rest cs) : Reads (stretch ++ rest) (replacement :: cs)

theorem reads_decode (bs : Bytes) : Reads bs (decode bs) := by
  induction bs using decode.induct with
  | case1 =>
    rw [decode]
    exact .nil
  | case2 b bs ih =>
    rw [decode]
    rcases hnext : next b bs with ⟨fault | c, rest⟩
    · obtain ⟨stretch, hbytes, hstretch⟩ := next_eq_error hnext
      rw [hnext] at ih
      rw [hbytes]
      exact .replaced hstretch ih
    · rw [hnext] at ih
      rw [next_eq_ok hnext]
      exact .character c ih

theorem reads_iff {bs : Bytes} {cs : List Char} : Reads bs cs ↔ decode bs = cs := by
  constructor
  · intro h
    induction h with
    | nil => rw [decode]
    | @character rest cs c hrest ih =>
      obtain ⟨b, bs, hbytes, hnext⟩ := next_utf8EncodeChar c rest
      rw [hbytes, List.cons_append, decode, hnext, ih]
    | @replaced stretch rest cs hstretch hrest ih =>
      obtain ⟨b, bs, hcons⟩ := List.exists_cons_of_ne_nil
        (List.append_ne_nil_of_left_ne_nil hstretch.ne_nil rest)
      rw [hcons, decode]
      rcases hnext : next b bs with ⟨fault | c, rest'⟩
      · obtain ⟨other, hbytes, hother⟩ := next_eq_error hnext
        rw [← (hstretch.unique hother (hcons.trans hbytes)).2, ih]
        rfl
      · exact absurd ⟨rest', (next_eq_ok hnext).symm.trans hcons.symm⟩ (hstretch.noCharacter c)
  · rintro rfl
    exact reads_decode bs

/-- Where nothing was replaced, the bytes are those of the text that was read. -/
theorem Reads.encode_eq {bs : Bytes} {cs : List Char} (h : Reads bs cs)
    (hkept : replacement ∉ cs) : encode cs = bs := by
  induction h with
  | nil => rfl
  | character c _ ih =>
    rw [encode, List.flatMap_cons, ← encode, ih fun hmem => hkept (List.mem_cons_of_mem c hmem)]
  | replaced => exact absurd List.mem_cons_self hkept

end ScriptTags.Text.Utf8
