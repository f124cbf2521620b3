import ScriptTags.Proofs.Document.Lines
import ScriptTags.Proofs.Utf8

/-!
# The order of a tags file

The header announces a sorted file and stands in it unsorted itself. It keeps the promise
nevertheless: its lines are told apart by their labels before any text of the program is reached,
and they begin with an exclamation mark, which comes before the name of any ordinary tag.
-/

namespace ScriptTags
namespace Document

theorem headerLines_sorted (p : ProgramInfo) : (headerLines p).Pairwise (· < ·) := by
  rw [← List.isChain_iff_pairwise]
  simp only [headerLines, List.isChain_cons_cons, List.IsChain.singleton, and_true,
    String.lt_iff_toList_lt, String.toList_append]
  refine ⟨?_, ?_, ?_, ?_, ?_⟩
  all_goals simp [List.cons_lt_cons_iff]

theorem headerLines_head {p : ProgramInfo} {line : String} (h : line ∈ headerLines p) :
    ∃ rest, line.toList = '!' :: rest := by
  simp only [headerLines, List.mem_cons, List.not_mem_nil, or_false] at h
  rcases h with rfl | rfl | rfl | rfl | rfl | rfl
  all_goals exact ⟨_, by simp; rfl⟩

theorem headerLine_lt_render {p : ProgramInfo} {line : String} (hline : line ∈ headerLines p)
    {t : Tag} {c : Char} {rest : List Char} (hname : t.name.toList = c :: rest)
    (hc : 0x21 < c.toNat) : line < t.render := by
  obtain ⟨tail, htail⟩ := headerLines_head hline
  have hmark : '!' < c := hc
  rw [String.lt_iff_toList_lt, htail, Tag.toList_render, hname, List.cons_append,
    List.cons_lt_cons_iff]
  exact .inl hmark

/-- All lines of the file in order, those of the header before those of the tags. -/
theorem headerLines_append_sort_inOrder (p : ProgramInfo) {tags : List Tag}
    (hnames : ∀ t ∈ tags, ∃ c rest, t.name.toList = c :: rest ∧ 0x21 < c.toNat) :
    (headerLines p ++ (Tag.sort tags).map Tag.render).Pairwise (Text.inOrder · · = true) := by
  rw [List.pairwise_append]
  refine ⟨?_, ?_, ?_⟩
  · refine (headerLines_sorted p).imp ?_
    intro a b hab
    exact (Text.inOrder_iff_le a b).mpr hab.le
  · rw [Tag.map_render_sort]
    exact Text.sort_sorted _
  · intro line hline other hother
    obtain ⟨t, ht, rfl⟩ := List.mem_map.mp hother
    obtain ⟨c, rest, hname, hc⟩ := hnames t ((Tag.sort_perm tags).mem_iff.mp ht)
    exact (Text.inOrder_iff_le _ _).mpr (headerLine_lt_render hline hname hc).le

/-- The header tells the truth about the whole file: all its lines, the header included, are in the
order of their code points, and in the order of their bytes as well. -/
theorem lines_sorted {p : ProgramInfo} (hp : p.OneLine) {tags : List Tag}
    (htags : ∀ t ∈ tags, t.OneLine)
    (hnames : ∀ t ∈ tags, ∃ c rest, t.name.toList = c :: rest ∧ 0x21 < c.toNat) :
    ∃ sorted, (Collector.accumulating tags).flush = .ok (sorted, .flushed) ∧
      lines (append (header p) sorted).1 = headerLines p ++ sorted.map Tag.render ∧
      (lines (append (header p) sorted).1).Pairwise
        (fun a b => Text.codePoints a ≤ Text.codePoints b) ∧
      (lines (append (header p) sorted).1).Pairwise
        (fun a b => Text.byteValues a ≤ Text.byteValues b) := by
  have hsorted : ∀ t ∈ Tag.sort tags, t.OneLine :=
    fun t ht => htags t ((Tag.sort_perm tags).mem_iff.mp ht)
  have hlines : lines (append (header p) (Tag.sort tags)).1 =
      headerLines p ++ (Tag.sort tags).map Tag.render := by
    rw [append_eq]
    exact lines_text hp hsorted
  have horder := headerLines_append_sort_inOrder p hnames
  refine ⟨Tag.sort tags, rfl, hlines, ?_, ?_⟩
  · rw [hlines]
    exact horder.imp fun {a b} => (Text.inOrder_iff a b).mp
  · rw [hlines]
    exact horder.imp fun {a b} => (Text.inOrder_iff_byteValues a b).mp

def sampleTags : List Tag :=
  [⟨"😀", "a.js", "0/", .function, 1⟩, ⟨"é", "a.js", "0/", .function, 1⟩]

theorem lines_sorted_sample :
    ({} : ProgramInfo).OneLine ∧ (∀ t ∈ sampleTags, t.OneLine) ∧
      ∃ sorted, (Collector.accumulating sampleTags).flush = .ok (sorted, .flushed) ∧
        (lines (append (header {}) sorted).1).Pairwise
          (fun a b => Text.byteValues a ≤ Text.byteValues b) := by
  have hp : ({} : ProgramInfo).OneLine := by decide
  have htags : ∀ t ∈ sampleTags, t.OneLine := by decide
  obtain ⟨sorted, hflush, -, -, hbytes⟩ := lines_sorted hp htags (by
    intro t ht
    simp only [sampleTags, List.mem_cons, List.not_mem_nil, or_false] at ht
    rcases ht with rfl | rfl
    · exact ⟨'😀', [], rfl, by decide⟩
    · exact ⟨'é', [], rfl, by decide⟩)
  exact ⟨hp, htags, sorted, hflush, hbytes⟩

end Document
end ScriptTags
