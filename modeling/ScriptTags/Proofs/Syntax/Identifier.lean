import ScriptTags.Proofs.Imports
import ScriptTags.Proofs.Replacement

/-!
# Names and their bytes

An identifier spells what is read from its bytes. A name in which nothing was replaced therefore
tells the bytes that spell it, and a call of `require` is told by the seven bytes of that word and
by no others.
-/

namespace ScriptTags.Syntax.Node

open Text (Bytes bytesOf)
open Text.Utf8 (Reads replacement)

variable {n m : Node} {name : String}

theorem identifier?_of_text (h : n.kind ∈ identifierKinds) {bytes : Bytes}
    (htext : n.head.text = some bytes) (hbytes : bytes ≠ []) :
    n.identifier? = some (String.ofList (Text.Utf8.decode bytes)) := by
  obtain ⟨b, bs, rfl⟩ := List.exists_cons_of_ne_nil hbytes
  rw [identifier?, if_pos (by simpa using h), htext]

theorem identifier?_eq_none_iff (h : n.kind ∈ identifierKinds) :
    n.identifier? = none ↔ n.head.text = none ∨ n.head.text = some [] := by
  constructor
  · intro hnone
    cases htext : n.head.text with
    | none => exact .inl rfl
    | some bytes =>
      refine .inr (congrArg some ?_)
      by_contra hbytes
      exact absurd (hnone.symm.trans (identifier?_of_text h htext hbytes)) (by simp)
  · rintro (htext | htext) <;> rw [identifier?, if_pos (by simpa using h), htext]

theorem identifier?_eq_some_iff (h : n.kind ∈ identifierKinds) :
    n.identifier? = some name ↔
      ∃ bytes, n.head.text = some bytes ∧ bytes ≠ [] ∧ Reads bytes name.toList := by
  constructor
  · intro hname
    have hsome : ¬ n.identifier? = none := by rw [hname]; simp
    rw [identifier?_eq_none_iff h, not_or] at hsome
    obtain ⟨bytes, htext⟩ := Option.ne_none_iff_exists'.mp hsome.1
    have hbytes : bytes ≠ [] := fun hnil => hsome.2 (hnil ▸ htext)
    refine ⟨bytes, htext, hbytes, Text.Utf8.reads_iff.mpr ?_⟩
    rw [identifier?_of_text h htext hbytes, Option.some.injEq] at hname
    rw [← hname, String.toList_ofList]
  · rintro ⟨bytes, htext, hbytes, hreads⟩
    rw [identifier?_of_text h htext hbytes, Text.Utf8.reads_iff.mp hreads, String.ofList_toList]

theorem identifier?_of_bytesOf (h : n.kind ∈ identifierKinds) (hname : name ≠ "")
    (htext : n.head.text = some (bytesOf name)) : n.identifier? = some name := by
  have hbytes : bytesOf name ≠ [] := by
    intro hnil
    exact hname (Text.bytesOf_injective hnil)
  rw [identifier?_of_text h htext hbytes, Text.decode_bytesOf, String.ofList_toList]

/-- A name in which nothing was replaced is spelled by its own bytes only. -/
theorem text_of_identifier? (h : n.kind ∈ identifierKinds) (hname : n.identifier? = some name)
    (hkept : replacement ∉ name.toList) : n.head.text = some (bytesOf name) := by
  obtain ⟨bytes, htext, -, hreads⟩ := (identifier?_eq_some_iff h).mp hname
  rw [htext, ← hreads.encode_eq hkept]
  rfl

def requireBytes : Bytes := [0x72, 0x65, 0x71, 0x75, 0x69, 0x72, 0x65]

theorem identifier?_eq_require_iff (h : n.kind ∈ identifierKinds) :
    n.identifier? = some "require" ↔ n.head.text = some requireBytes := by
  have hbytes : requireBytes = bytesOf "require" := by decide
  rw [hbytes]
  constructor
  · intro hname
    exact text_of_identifier? h hname (by decide)
  · exact identifier?_of_bytesOf h (by decide)

/-- Names are faithful to the bytes that spell them: an identifier spells no name only if it has no
bytes, a text is spelled by its bytes, and a name without replacements by no other ones. A call is
one of `require` if and only if its callee has the bytes of that word. -/
theorem identifier?_faithful {n : Node} (h : n.kind ∈ identifierKinds) :
    (n.identifier? = none ↔ n.head.text = none ∨ n.head.text = some []) ∧
    (∀ name, n.identifier? = some name ↔
      ∃ bytes, n.head.text = some bytes ∧ bytes ≠ [] ∧ Reads bytes name.toList) ∧
    (∀ name, name ≠ "" → n.head.text = some (bytesOf name) → n.identifier? = some name) ∧
    (∀ name, n.identifier? = some name → replacement ∉ name.toList →
      n.head.text = some (bytesOf name)) ∧
    (∀ m : Node, ∀ name, m.kind ∈ identifierKinds → n.identifier? = some name →
      m.identifier? = some name → replacement ∉ name.toList → m.head.text = n.head.text) ∧
    (∀ call : Node, call.kind = "call_expression" → call.child? "function" = some n →
      n.kind = "identifier" → (call.isImportCall = true ↔ n.head.text = some requireBytes)) := by
  refine ⟨identifier?_eq_none_iff h, fun name => identifier?_eq_some_iff h,
    fun name => identifier?_of_bytesOf h, fun name => text_of_identifier? h, ?_, ?_⟩
  · intro m name hm hn hname hkept
    rw [text_of_identifier? h hn hkept, text_of_identifier? hm hname hkept]
  · intro call hcall hcallee hkind
    rw [Extract.isImportCall_iff, ← identifier?_eq_require_iff h]
    simp [hcall, hcallee, hkind]

/-- A callee whose first letter has been spelled in a form that is too long. -/
def sampleOverlong : Node :=
  .mk { kind := "identifier", field := some "function",
        text := some [0xC1, 0xB2, 0x65, 0x71, 0x75, 0x69, 0x72, 0x65] } []

theorem identifier?_faithful_overlong :
    sampleOverlong.kind ∈ identifierKinds ∧
    sampleOverlong.identifier? = some "\uFFFD\uFFFDequire" ∧
    Reads [0xC1, 0xB2, 0x65, 0x71, 0x75, 0x69, 0x72, 0x65] "\uFFFD\uFFFDequire".toList ∧
    (Node.mk { kind := "call_expression" } [sampleOverlong]).isImportCall = false := by
  have hkind : sampleOverlong.kind ∈ identifierKinds := by decide
  have hname : sampleOverlong.identifier? = some "\uFFFD\uFFFDequire" := by decide +kernel
  obtain ⟨-, hreads, -, -, -, hcall⟩ := identifier?_faithful hkind
  obtain ⟨bytes, htext, -, hbytes⟩ := (hreads _).mp hname
  obtain rfl := Option.some.inj htext
  refine ⟨hkind, hname, hbytes, ?_⟩
  rw [Bool.eq_false_iff, Ne, hcall (.mk { kind := "call_expression" } [sampleOverlong]) rfl rfl rfl]
  decide

end ScriptTags.Syntax.Node
