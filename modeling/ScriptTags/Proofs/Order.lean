import Mathlib.Data.List.Sort
import Mathlib.Data.String.Basic
import ScriptTags.Tag.Collector

/-!
# Sorting texts and tags

The order of texts is the lexicographic order of their code points, a linear order, so a list of
texts has only one sorted arrangement. Tags are sorted by their lines, which do not tell all tags
apart: the arrangement of tags with the same line is the one they came in.
-/

namespace ScriptTags
namespace Text

def codePoints (s : String) : List ℕ := s.toList.map Char.toNat

theorem codePoints_strictMono : StrictMono codePoints := by
  intro a b h
  apply List.map_lt
  · intro c d hcd
    exact hcd
  · exact String.lt_iff_toList_lt.mp h

theorem inOrder_iff_le (a b : String) : inOrder a b = true ↔ a ≤ b := by
  rw [inOrder, Bool.not_eq_true', decide_eq_false_iff_not, not_lt]

theorem inOrder_iff (a b : String) : inOrder a b = true ↔ codePoints a ≤ codePoints b := by
  rw [inOrder_iff_le, codePoints_strictMono.le_iff_le]

theorem inOrder_trans (a b c : String) (hab : inOrder a b = true) (hbc : inOrder b c = true) :
    inOrder a c = true := by
  rw [inOrder_iff_le] at *
  exact hab.trans hbc

theorem inOrder_total (a b : String) : (inOrder a b || inOrder b a) = true := by
  rw [Bool.or_eq_true, inOrder_iff_le, inOrder_iff_le]
  exact le_total a b

theorem sort_sorted (texts : List String) : (sort texts).Pairwise (inOrder · · = true) :=
  List.pairwise_mergeSort inOrder_trans inOrder_total texts

theorem sort_eq_of_perm {texts others : List String} (h : texts.Perm others) :
    sort texts = sort others := by
  have hperm : (sort texts).Perm (sort others) :=
    (List.mergeSort_perm texts _).trans (h.trans (List.mergeSort_perm others _).symm)
  refine hperm.eq_of_pairwise ?_ (sort_sorted texts) (sort_sorted others)
  intro a b _ _ hab hba
  rw [inOrder_iff_le] at hab hba
  exact le_antisymm hab hba

end Text

namespace Tag

theorem sort_perm (tags : List Tag) : (sort tags).Perm tags := List.mergeSort_perm tags _

theorem precedes_trans (a b c : Tag) (hab : a.precedes b = true) (hbc : b.precedes c = true) :
    a.precedes c = true :=
  Text.inOrder_trans _ _ _ hab hbc

theorem precedes_total (a b : Tag) : (a.precedes b || b.precedes a) = true :=
  Text.inOrder_total _ _

theorem sort_sorted (tags : List Tag) :
    (sort tags).Pairwise fun a b => Text.codePoints a.render ≤ Text.codePoints b.render := by
  refine (List.pairwise_mergeSort precedes_trans precedes_total tags).imp ?_
  intro a b h
  exact (Text.inOrder_iff _ _).mp h

/-- The lines of sorted tags are the sorted lines of the tags. -/
theorem map_render_sort (tags : List Tag) :
    (sort tags).map render = Text.sort (tags.map render) :=
  List.map_mergeSort fun _ _ _ _ => rfl

theorem filter_sort (tags : List Tag) (line : String) :
    (sort tags).filter (fun t => t.render = line) = tags.filter (fun t => t.render = line) := by
  -- The tags of one line are sorted as they stand, so sorting keeps them as a sublist.
  have hsorted : (tags.filter fun t => t.render = line).Pairwise (precedes · · = true) := by
    refine List.pairwise_of_forall_mem_list ?_
    intro a ha b hb
    simp only [List.mem_filter, decide_eq_true_eq] at ha hb
    rw [precedes, Text.inOrder_iff_le, ha.2, hb.2]
  have hsub : (tags.filter fun t => t.render = line).Sublist (sort tags) :=
    List.sublist_mergeSort precedes_trans precedes_total hsorted List.filter_sublist
  have hfilter := hsub.filter fun t => t.render = line
  rw [List.filter_filter] at hfilter
  simp only [Bool.and_self] at hfilter
  exact (hfilter.eq_of_length ((sort_perm tags).filter _).length_eq.symm).symm

end Tag
end ScriptTags
