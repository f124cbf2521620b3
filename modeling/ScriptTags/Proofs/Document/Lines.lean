import Mathlib.Algebra.Ring.Nat
import Mathlib.Data.List.Basic
import Mathlib.Tactic.Tauto
import ScriptTags.Tag.Document

/-!
# The lines of a tags file

Nothing in a tags file is escaped, so its lines can be told apart exactly when no text in it holds
a line break. The number of line breaks shows whether that is so: there are as many as lines if and
only if none of them comes from a text.
-/

namespace ScriptTags
namespace Document

/-- The lines of a text in which every line ends with a line break. -/
def lines (text : String) : List String :=
  (text.toList.splitOn '\n').dropLast.map String.ofList

theorem toList_unlines (ls : List String) :
    (unlines ls).toList = ls.flatMap fun line => line.toList ++ ['\n'] := by
  simp [unlines, String.toList_join, List.flatMap_map]

theorem unlines_append (ls ms : List String) : unlines (ls ++ ms) = unlines ls ++ unlines ms := by
  simp [unlines]

theorem text_eq_unlines (p : ProgramInfo) (tags : List Tag) :
    text p tags = unlines (headerLines p ++ tags.map Tag.render) := by
  rw [text, header, body, unlines_append]

theorem count_unlines (ls : List String) :
    (unlines ls).toList.count '\n' =
      ls.length + (ls.map fun line => line.toList.count '\n').sum := by
  rw [toList_unlines]
  induction ls with
  | nil => rfl
  | cons line rest ih =>
    rw [List.flatMap_cons, List.count_append, List.count_append, ih]
    simp
    omega

theorem count_unlines_eq_length (ls : List String) :
    (unlines ls).toList.count '\n' = ls.length ↔ ∀ line ∈ ls, '\n' ∉ line.toList := by
  rw [count_unlines]
  simp [List.sum_eq_zero_iff_forall_eq_nat, List.count_eq_zero]

/-- Cutting a text at its line breaks gives the lines back, and nothing after the last one. -/
theorem splitOn_unlines {ls : List String} (h : ∀ line ∈ ls, '\n' ∉ line.toList) :
    (unlines ls).toList.splitOn '\n' = (ls ++ [""]).map String.toList := by
  rw [toList_unlines]
  induction ls with
  | nil => simp
  | cons line rest ih =>
    have hline := h line List.mem_cons_self
    have hrest := ih fun other hother => h other (List.mem_cons_of_mem _ hother)
    rw [List.flatMap_cons, List.append_assoc, List.singleton_append,
      List.splitOn_append_cons_self_of_not_mem hline, hrest]
    rfl

theorem lines_unlines {ls : List String} (h : ∀ line ∈ ls, '\n' ∉ line.toList) :
    lines (unlines ls) = ls := by
  rw [lines, splitOn_unlines h]
  simp

/-- The header in one piece: its lines with a line break between them, and one at the end. -/
theorem header_eq_intercalate (p : ProgramInfo) :
    header p = "\n".intercalate (headerLines p) ++ "\n" := by
  simp [header, unlines, headerLines, String.append_assoc]

theorem toList_header (p : ProgramInfo) :
    (header p).toList =
      ((headerLines p).take 4).flatMap (fun line => line.toList ++ ['\n']) ++
      (("!_TAG_PROGRAM_URL\t" ++ p.url ++ "\t/").toList ++ p.description.toList ++
        "/".toList ++ ['\n'] ++ ("!_TAG_PROGRAM_VERSION\t" ++ p.version ++ "\t//").toList ++
          ['\n']) := by
  rw [header, toList_unlines]
  simp only [headerLines, List.take_succ_cons, List.take_zero, List.flatMap_cons,
    List.flatMap_nil, List.append_assoc, List.append_nil, String.toList_append]

theorem description_le_header (p : ProgramInfo) :
    p.description.utf8ByteSize ≤ (header p).utf8ByteSize := by
  simp only [header, unlines, headerLines, List.map_cons, List.map_nil, String.join_cons,
    String.utf8ByteSize_append]
  omega

end Document

/-- No field of the description holds a line break. -/
def ProgramInfo.OneLine (p : ProgramInfo) : Prop := ∀ field ∈ p.fields, '\n' ∉ field.2.toList

instance (p : ProgramInfo) : Decidable p.OneLine :=
  inferInstanceAs (Decidable (∀ field ∈ p.fields, '\n' ∉ field.2.toList))

/-- No field of the tag holds a line break. -/
structure Tag.OneLine (t : Tag) : Prop where
  name : '\n' ∉ t.name.toList
  file : '\n' ∉ t.file.toList
  address : '\n' ∉ t.address.toList

instance (t : Tag) : Decidable t.OneLine :=
  decidable_of_iff ('\n' ∉ t.name.toList ∧ '\n' ∉ t.file.toList ∧ '\n' ∉ t.address.toList)
    ⟨fun ⟨hname, hfile, haddress⟩ => ⟨hname, hfile, haddress⟩,
      fun h => ⟨h.name, h.file, h.address⟩⟩

namespace Tag

def numberLabel : List Char := ['l', 'i', 'n', 'e', 'n', 'o', ':']

def numberField (t : Tag) : List Char := numberLabel ++ Nat.toDigits 10 t.lineno

theorem toList_render (t : Tag) :
    t.render.toList = t.name.toList ++ '\t' :: (t.file.toList ++ '\t' :: (t.address.toList ++
      '\t' :: (t.kind.letter.toList ++ '\t' :: t.numberField))) := by
  simp [render, String.intercalate_cons_cons, numberField, numberLabel]

theorem not_mem_letter {c : Char} (hc : c.isAlpha = false) (t : Tag) :
    c ∉ t.kind.letter.toList := by
  intro h
  cases hkind : t.kind <;> simp [hkind, Kind.letter] at h <;> subst h <;> simp at hc

theorem not_mem_numberField {c : Char} (hc : c.isAlphanum = false) (hcolon : c ≠ ':') (t : Tag) :
    c ∉ t.numberField := by
  rw [Char.isAlphanum, Bool.or_eq_false_iff] at hc
  rw [numberField, List.mem_append, not_or]
  constructor
  · intro h
    simp only [numberLabel, List.mem_cons, List.not_mem_nil, or_false] at h
    rcases h with rfl | rfl | rfl | rfl | rfl | rfl | rfl
    all_goals simp at hc hcolon
  · intro h
    rw [Nat.isDigit_of_mem_toDigits (by decide) (by decide) h] at hc
    exact Bool.noConfusion hc.2

theorem oneLine_iff (t : Tag) : t.OneLine ↔ '\n' ∉ t.render.toList := by
  have hletter := not_mem_letter (c := '\n') (by decide) t
  have hnumber := not_mem_numberField (c := '\n') (by decide) (by decide) t
  constructor
  · intro h
    simp [toList_render, h.name, h.file, h.address, hletter, hnumber]
  · intro h
    simp only [toList_render, List.mem_append, List.mem_cons, not_or] at h
    exact ⟨h.1, h.2.2.1, h.2.2.2.2.1⟩

end Tag

theorem ProgramInfo.oneLine_iff (p : ProgramInfo) :
    p.OneLine ↔ ∀ line ∈ Document.headerLines p, '\n' ∉ line.toList := by
  simp [ProgramInfo.OneLine, ProgramInfo.fields, Document.headerLines]
  tauto

namespace Document

/-- The lines of a tags file hold no line break exactly when none of the texts in it does. -/
theorem oneLine_iff (p : ProgramInfo) (tags : List Tag) :
    (p.OneLine ∧ ∀ t ∈ tags, t.OneLine) ↔
      ∀ line ∈ headerLines p ++ tags.map Tag.render, '\n' ∉ line.toList := by
  rw [List.forall_mem_append, List.forall_mem_map, p.oneLine_iff]
  simp only [Tag.oneLine_iff]

theorem count_text (p : ProgramInfo) (tags : List Tag) :
    (text p tags).toList.count '\n' = 6 + tags.length ↔ p.OneLine ∧ ∀ t ∈ tags, t.OneLine := by
  have hlength : (headerLines p ++ tags.map Tag.render).length = 6 + tags.length := by
    simp [headerLines]
    omega
  rw [text_eq_unlines, oneLine_iff, ← count_unlines_eq_length, hlength]

theorem lines_text {p : ProgramInfo} {tags : List Tag} (hp : p.OneLine)
    (htags : ∀ t ∈ tags, t.OneLine) :
    lines (text p tags) = headerLines p ++ tags.map Tag.render := by
  rw [text_eq_unlines, lines_unlines ((oneLine_iff p tags).mp ⟨hp, htags⟩)]

end Document
end ScriptTags
