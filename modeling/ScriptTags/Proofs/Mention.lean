import Mathlib.Tactic.SplitIfs
import ScriptTags.Extract

/-!
# Tags of mentions

Every mention that a walk makes spells a name and a word, since only nonempty identifiers are
mentioned. The tag drafted for such a mention passes its own check, so extraction from a tree
without errors always gives tags, one for each mention.
-/

namespace ScriptTags
namespace Syntax.Node

theorem identifier?_ne_empty {n : Node} {name : String} (h : n.identifier? = some name) :
    name ≠ "" := by
  unfold identifier? at h
  split at h
  · split at h
    · rename_i b bytes _
      rw [Option.some.injEq] at h
      rw [← h, Text.Utf8.decode]
      intro hempty
      simpa using congrArg String.toList hempty
    · simp at h
  · simp at h

end Syntax.Node

open Record Syntax

namespace Tag

/-- A tag with a name, a line and an address on that line is read back from its own table. -/
theorem check_toValue {t : Tag} (hname : t.name ≠ "") (hline : 1 ≤ t.lineno)
    (haddress : t.address.startsWith (lineOffset t.lineno) = true) :
    check t.toValue = .accepted t := by
  have hn : Value.checkNonempty (.string t.name) = .accepted t.name := by
    simp [Value.checkNonempty, Value.checkString, Check.bind, hname]
  have hk : Kind.check (.string t.kind.letter) = .accepted t.kind := by
    simp [Kind.check]
  have hl : Value.checkPositive (.int t.lineno) = .accepted t.lineno := by
    have hpositive : (1 : Int) ≤ t.lineno := by omega
    simp [Value.checkPositive, Value.checkInt, Check.bind, hpositive]
  simp [check, toValue, Value.checkTable, Value.Fields.required, Value.Fields.get?, hn, hk, hl,
    Value.checkString, Check.bind, Check.app, Check.map, Check.under, checkAddress, haddress]

end Tag

namespace Mention

/-- The tag of a mention that spells a name and a word. -/
def tag (m : Mention) (file : String) : Tag where
  name := m.name
  file := file
  address := address (m.row + 1) m.word
  kind := m.kind
  lineno := m.row + 1

/-- A mention with a name and a word to search for. -/
structure Named (m : Mention) : Prop where
  name : m.name ≠ ""
  word : m.word ≠ ""

theorem address_startsWith (line : Int) (word : String) :
    (address line word).startsWith (lineOffset line) = true := by
  rw [String.startsWith_string_iff]
  exact ⟨("\\<" ++ word ++ "\\>/;\"").toList, by simp [address]⟩

theorem toTag_of_named {m : Mention} (h : m.Named) (file : String) :
    m.toTag file = .accepted (m.tag file) := by
  have hdraft : Tag.draft file (m.row + 1) m.name m.kind.letter m.word =
      (m.tag file).toValue := by
    simp [Tag.draft, Tag.toValue, tag, h.word]
  rw [toTag, hdraft]
  apply Tag.check_toValue
  · exact h.name
  · exact Nat.succ_le_succ (Nat.zero_le m.row)
  · exact address_startsWith _ _

theorem toTags_cons {m : Mention} {file : String} {tag : Tag} (h : m.toTag file = .accepted tag)
    (rest : List Mention) : toTags file (m :: rest) = (toTags file rest).map (tag :: ·) := by
  conv =>
    lhs
    unfold toTags
  rw [h]

theorem toTags_of_named (file : String) {ms : List Mention} (h : ∀ m ∈ ms, m.Named) :
    toTags file ms = .ok (ms.map (·.tag file)) := by
  induction ms with
  | nil => rfl
  | cons m rest ih =>
    have hrest := ih fun m hm => h m (List.mem_cons_of_mem _ hm)
    rw [toTags_cons (toTag_of_named (h m List.mem_cons_self) file), hrest]
    rfl

end Mention

namespace Extract

theorem method?_named {owner : String} {property : Node} {m : Mention}
    (h : method? owner property = some m) : m.Named := by
  simp only [method?, Option.bind_eq_bind, Option.pure_def, Option.bind_eq_some_iff,
    Option.some.injEq] at h
  obtain ⟨key, _, word, hword, rfl⟩ := h
  refine ⟨?_, Node.identifier?_ne_empty hword⟩
  intro hempty
  simpa using congrArg String.toList hempty

theorem methods_named {owner : String} {object : Node} {m : Mention}
    (h : m ∈ methods owner object) : m.Named := by
  obtain ⟨property, _, hm⟩ := List.mem_filterMap.mp h
  exact method?_named hm

theorem binding_named {n : Node} {m : Mention} (h : m ∈ binding n) : m.Named := by
  unfold binding at h
  split at h
  · rename_i value name _ hname
    obtain ⟨id, _, hid⟩ := Option.bind_eq_some_iff.mp hname
    have hne := Node.identifier?_ne_empty hid
    split_ifs at h
    · rw [List.mem_singleton.mp h]
      exact ⟨hne, hne⟩
    · rw [List.mem_singleton.mp h]
      exact ⟨hne, hne⟩
    · simp at h
    · split at h
      · exact methods_named h
      · simp at h
    · simp at h
  · simp at h

theorem declaration_named {n : Node} {m : Mention} (h : m ∈ declaration n) : m.Named := by
  unfold declaration at h
  split at h
  · rename_i name hname
    obtain ⟨id, _, hid⟩ := Option.bind_eq_some_iff.mp hname
    have hne := Node.identifier?_ne_empty hid
    rw [List.mem_singleton.mp h]
    exact ⟨hne, hne⟩
  · simp at h

theorem prototypeAssignment_named {parentKind : Option String} {n : Node} {m : Mention}
    (h : m ∈ prototypeAssignment parentKind n) : m.Named := by
  unfold prototypeAssignment at h
  split_ifs at h
  · split at h
    · exact methods_named h
    · simp at h
  · simp at h

theorem visit_named {parentKind : Option String} {n : Node} {m : Mention}
    (h : m ∈ visit parentKind n) : m.Named := by
  unfold visit at h
  split_ifs at h
  · exact binding_named h
  · exact declaration_named h
  · exact prototypeAssignment_named h
  · simp at h

theorem mentions_named {root : Node} {m : Mention} (h : m ∈ mentions root) : m.Named := by
  obtain ⟨c, _, hm⟩ := List.mem_flatMap.mp h
  exact visit_named hm

end Extract

/-- A tree without errors always gives tags, one for each mention. -/
theorem extractTree_of_sound {root : Node} (h : root.hasError = false) (file : String) :
    extractTree root file = .ok ⟨file, (Extract.mentions root).map (·.tag file)⟩ := by
  rw [extractTree, h, Mention.toTags_of_named file fun _ hm => Extract.mentions_named hm]
  rfl

theorem extractTree_of_hasError {root : Node} (h : root.hasError = true) (file : String) :
    extractTree root file =
      .error (.reported (.unparsable file ((Extract.firstErrorLine? root).map Int.ofNat))) := by
  rw [extractTree, if_pos h]

end ScriptTags
