/-!
# UTF-8

Sources and settings are files of bytes. A source is decoded leniently: each longest stretch of
bytes that could begin a character but does not form one becomes a single replacement character.
A settings file is decoded strictly, and the first such stretch is reported with its place.
-/

namespace ScriptTags.Text

abbrev Bytes := List UInt8

namespace Utf8

/-- Why a stretch of bytes is no character. -/
inductive Fault where
  | invalidStart
  | invalidContinuation
  | unexpectedEnd
  deriving DecidableEq, Repr

def Fault.message : Fault → String
  | .invalidStart => "invalid start byte"
  | .invalidContinuation => "invalid continuation byte"
  | .unexpectedEnd => "unexpected end of data"

/-- What a lead byte announces: the leading bits of the code point, the number of bytes to come,
and the range in which the first of them lies. Overlong forms, surrogates and values above
U+10FFFF are excluded by that range. -/
structure Lead where
  bits : Nat
  tails : Nat
  low : UInt8
  high : UInt8

def Lead.ofByte? (b : UInt8) : Option Lead :=
  if b < 0x80 then some ⟨b.toNat, 0, 0x80, 0xBF⟩
  else if b < 0xC2 then none
  else if b < 0xE0 then some ⟨b.toNat - 0xC0, 1, 0x80, 0xBF⟩
  else if b = 0xE0 then some ⟨0, 2, 0xA0, 0xBF⟩
  else if b = 0xED then some ⟨0xD, 2, 0x80, 0x9F⟩
  else if b < 0xF0 then some ⟨b.toNat - 0xE0, 2, 0x80, 0xBF⟩
  else if b = 0xF0 then some ⟨0, 3, 0x90, 0xBF⟩
  else if b < 0xF4 then some ⟨b.toNat - 0xF0, 3, 0x80, 0xBF⟩
  else if b = 0xF4 then some ⟨4, 3, 0x80, 0x8F⟩
  else none

/-- Reads the bytes that complete a code point, the first one within `[low, high]`. The unread
bytes are returned as well. -/
def continuations : Nat → UInt8 → UInt8 → Nat → Bytes → Except Fault Nat × Bytes
  | 0, _, _, value, rest => (.ok value, rest)
  | _ + 1, _, _, _, [] => (.error .unexpectedEnd, [])
  | n + 1, low, high, value, b :: rest =>
    if low ≤ b ∧ b ≤ high then
      continuations n 0x80 0xBF (value * 64 + (b.toNat - 0x80)) rest
    else (.error .invalidContinuation, b :: rest)

theorem continuations_length_le (n : Nat) (low high : UInt8) (value : Nat) (bs : Bytes) :
    (continuations n low high value bs).2.length ≤ bs.length := by
  fun_induction continuations n low high value bs with
  | case1 => simp
  | case2 => simp
  | case3 n low high value b rest h ih => simp only [List.length_cons]; omega
  | case4 => simp

/-- Reads one character that begins with byte `b`, or the longest stretch that could begin one. -/
def next (b : UInt8) (rest : Bytes) : Except Fault Char × Bytes :=
  match Lead.ofByte? b with
  | none => (.error .invalidStart, rest)
  | some lead =>
    match continuations lead.tails lead.low lead.high lead.bits rest with
    | (.ok value, rest) => (.ok (Char.ofNat value), rest)
    | (.error fault, rest) => (.error fault, rest)

theorem next_length_le (b : UInt8) (rest : Bytes) : (next b rest).2.length ≤ rest.length := by
  unfold next
  split
  · simp
  · rename_i lead _
    have h := continuations_length_le lead.tails lead.low lead.high lead.bits rest
    split <;> simp_all

/-- Decodes leniently: one U+FFFD for each stretch that is no character. -/
def decode : Bytes → List Char
  | [] => []
  | b :: rest =>
    (match (next b rest).1 with
      | .ok c => c
      | .error _ => Char.ofNat 0xFFFD) :: decode (next b rest).2
termination_by bs => bs.length
decreasing_by exact Nat.lt_succ_of_le (next_length_le b rest)

/-- The place and cause of the first stretch that is no character. -/
structure DecodeError where
  lead : UInt8
  start : Nat
  stop : Nat
  fault : Fault
  deriving DecidableEq, Repr

/-- One byte is named by its value, a longer stretch by its first and last position. -/
def DecodeError.message (e : DecodeError) : String :=
  let place :=
    if e.stop = e.start + 1 then
      let digits := String.ofList [Nat.digitChar (e.lead.toNat / 16), Nat.digitChar (e.lead.toNat % 16)]
      s!"byte 0x{digits} in position {e.start}"
    else s!"bytes in position {e.start}-{e.stop - 1}"
  s!"'utf-8' codec can't decode {place}: {e.fault.message}"

/-- Decodes strictly the bytes that begin at `position`. -/
def decodeFrom (position : Nat) : Bytes → Except DecodeError (List Char)
  | [] => .ok []
  | b :: rest =>
    match (next b rest).1 with
    | .ok c => (decodeFrom (position + (rest.length + 1 - (next b rest).2.length)) (next b rest).2).map (c :: ·)
    | .error fault =>
      .error ⟨b, position, position + (rest.length + 1 - (next b rest).2.length), fault⟩
termination_by bs => bs.length
decreasing_by exact Nat.lt_succ_of_le (next_length_le b rest)

def decode? (bs : Bytes) : Except DecodeError (List Char) := decodeFrom 0 bs

/-- The bytes of a text. -/
def encode (cs : List Char) : Bytes := cs.flatMap String.utf8EncodeChar

end Utf8

def bytesOf (s : String) : Bytes := Utf8.encode s.toList

end ScriptTags.Text
