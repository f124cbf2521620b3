import Mathlib.Data.List.Basic
import Mathlib.Order.Bounds.Basic
import ScriptTags.Proofs.Mention
import ScriptTags.Proofs.Syntax.Unwrap
import ScriptTags.Proofs.Syntax.Walk

/-!
# The first error of a tree

Whether a tree has an error is told by a flag that goes up from node to node, while the line that is
reported comes from a search that goes down from the root. Where the flags are passed on faithfully
the two agree: a tree is refused if and only if an error stands somewhere in it, and the search then
ends at the first one. In a tree whose rows follow its order no error stands on an earlier line.
-/

namespace ScriptTags
namespace Syntax.Node

variable {root n m : Node}

theorem mem_preorderAll {ns : List Node} :
    m ∈ preorderAll ns ↔ ∃ n ∈ ns, m ∈ n.preorder := by
  induction ns with
  | nil => simp [preorderAll]
  | cons n rest ih => rw [preorderAll, List.mem_append, ih, List.exists_mem_cons_iff]

theorem mem_preorder : m ∈ n.preorder ↔ m = n ∨ ∃ c ∈ n.children, m ∈ c.preorder := by
  obtain ⟨head, children⟩ := n
  rw [preorder, List.mem_cons, mem_preorderAll]
  rfl

theorem isError_iff : n.isError = true ↔ n.kind = "ERROR" ∨ n.missing = true := by
  simp [isError]

/-- Every node of the tree says that it has an error if it is one itself or a child says so, and
only then. -/
def PassesErrorsOn (root : Node) : Prop :=
  ∀ n ∈ root.preorder, n.hasError = true ↔
    n.kind = "ERROR" ∨ n.missing = true ∨ ∃ c ∈ n.children, c.hasError = true

theorem PassesErrorsOn.child (h : root.PassesErrorsOn) {c : Node} (hc : c ∈ root.children) :
    c.PassesErrorsOn := by
  intro n hn
  apply h
  exact mem_preorder.mpr (.inr ⟨c, hc, hn⟩)

theorem PassesErrorsOn.hasError_iff (h : root.PassesErrorsOn) :
    root.hasError = true ↔ ∃ n ∈ root.preorder, n.isError = true := by
  induction root using Node.ind with
  | node head children ih =>
    have hself := h (.mk head children) (mem_preorder.mpr (.inl rfl))
    rw [hself, ← or_assoc, ← isError_iff]
    constructor
    · rintro (herror | ⟨c, hc, herror⟩)
      · exact ⟨_, mem_preorder.mpr (.inl rfl), herror⟩
      · obtain ⟨n, hn, herror⟩ := (ih c hc (h.child hc)).mp herror
        exact ⟨n, mem_preorder.mpr (.inr ⟨c, hc, hn⟩), herror⟩
    · rintro ⟨n, hn, herror⟩
      rcases mem_preorder.mp hn with rfl | ⟨c, hc, hn⟩
      · exact .inl herror
      · exact .inr ⟨c, hc, (ih c hc (h.child hc)).mpr ⟨n, hn, herror⟩⟩

theorem anyError_iff {ns : List Node} : anyError ns = true ↔ ∃ n ∈ ns, n.hasError = true := by
  induction ns with
  | nil => simp [anyError]
  | cons n rest ih => rw [anyError, Bool.or_eq_true, ih, List.exists_mem_cons_iff]

/-- Errors are passed on wherever no node overrides them. -/
theorem passesErrorsOn_of_flag (h : ∀ n ∈ root.preorder, n.head.flag = none) :
    root.PassesErrorsOn := by
  rintro ⟨head, children⟩ hn
  have hflag : head.flag = none := h _ hn
  rw [hasError, hflag]
  simp only [Option.getD_none, Bool.or_eq_true, beq_iff_eq, anyError_iff, or_assoc]
  rfl

/-- The node is an error, and none comes before it in the tree. -/
def IsFirstError (root n : Node) : Prop :=
  n.isError = true ∧ ∃ before after, root.preorder = before ++ n :: after ∧
    ∀ m ∈ before, m.isError = false

theorem find?_isError_iff :
    root.preorder.find? isError = some n ↔ root.IsFirstError n := by
  rw [List.find?_eq_some_iff_append, IsFirstError]
  simp only [Bool.not_eq_true']

/-- Where rows follow the order of the tree, the first error has the least line of all. -/
theorem IsFirstError.isLeast_line (h : root.IsFirstError n)
    (hrows : (root.preorder.map row).Pairwise (· ≤ ·)) :
    IsLeast {line | ∃ m ∈ root.preorder, m.isError = true ∧ m.line = line} n.line := by
  obtain ⟨herror, before, after, hpreorder, hbefore⟩ := h
  rw [hpreorder] at hrows ⊢
  constructor
  · exact ⟨n, by simp, herror, rfl⟩
  · rintro line ⟨m, hm, hmerror, rfl⟩
    rcases List.mem_append.mp hm with hm | hm
    · rw [hbefore m hm] at hmerror
      contradiction
    · rcases List.mem_cons.mp hm with rfl | hm
      · exact le_rfl
      · rw [List.map_append, List.map_cons, List.pairwise_append, List.pairwise_cons] at hrows
        have hrow : n.row ≤ m.row := hrows.2.1.1 m.row (List.mem_map_of_mem hm)
        exact Nat.succ_le_succ hrow

end Syntax.Node

open Syntax

theorem extractTree_of_isFirstError {root n : Node} (h : root.PassesErrorsOn)
    (hfirst : root.IsFirstError n) (file : String) :
    extractTree root file = .error (.reported (.unparsable file (some n.line))) := by
  have hfind := Node.find?_isError_iff.mpr hfirst
  have herror : root.hasError = true :=
    h.hasError_iff.mpr ⟨n, List.mem_of_find?_eq_some hfind, hfirst.1⟩
  rw [extractTree_of_hasError herror, Extract.firstErrorLine?_eq, hfind]
  rfl

/-- A tree is refused if and only if an error stands in it, and gives its tags otherwise. The line
of the refusal is there, and is that of the first error. -/
theorem extractTree_unparsable {root : Node} (h : root.PassesErrorsOn) (file : String) :
    ((∃ line, extractTree root file = .error (.reported (.unparsable file line))) ↔
      ∃ n ∈ root.preorder, n.kind = "ERROR" ∨ n.missing = true) ∧
    ((¬ ∃ n ∈ root.preorder, n.kind = "ERROR" ∨ n.missing = true) →
      ∃ tags, extractTree root file = .ok ⟨file, tags⟩) ∧
    ∀ trouble, extractTree root file = .error trouble →
      ∃ n, root.IsFirstError n ∧ trouble = .reported (.unparsable file (some (n.row + 1 : ℕ))) ∧
        ((root.preorder.map Node.row).Pairwise (· ≤ ·) →
          IsLeast {line | ∃ m ∈ root.preorder, m.isError = true ∧ m.line = line} (n.row + 1)) := by
  simp only [← Node.isError_iff]
  have hsound : (¬ ∃ n ∈ root.preorder, n.isError = true) →
      ∃ tags, extractTree root file = .ok ⟨file, tags⟩ := by
    intro hnone
    rw [← h.hasError_iff, Bool.not_eq_true] at hnone
    exact ⟨_, extractTree_of_sound hnone file⟩
  have hrefused : (∃ n ∈ root.preorder, n.isError = true) →
      ∃ n, root.IsFirstError n ∧
        extractTree root file = .error (.reported (.unparsable file (some n.line))) := by
    intro hsome
    obtain ⟨n, hfind⟩ := Option.isSome_iff_exists.mp (List.find?_isSome.mpr hsome)
    have hfirst := Node.find?_isError_iff.mp hfind
    exact ⟨n, hfirst, extractTree_of_isFirstError h hfirst file⟩
  refine ⟨⟨?_, ?_⟩, hsound, ?_⟩
  · rintro ⟨line, hline⟩
    by_contra hnone
    obtain ⟨tags, htags⟩ := hsound hnone
    rw [htags] at hline
    contradiction
  · intro hsome
    obtain ⟨n, -, hrun⟩ := hrefused hsome
    exact ⟨_, hrun⟩
  · intro trouble htrouble
    by_cases hsome : ∃ n ∈ root.preorder, n.isError = true
    · obtain ⟨n, hfirst, hrun⟩ := hrefused hsome
      rw [hrun, Except.error.injEq] at htrouble
      exact ⟨n, hfirst, htrouble.symm, hfirst.isLeast_line⟩
    · obtain ⟨tags, htags⟩ := hsound hsome
      rw [htags] at htrouble
      contradiction

/-- A script in which a semicolon is missing on the second line and a stray token stands on the
fourth. -/
def sampleBroken : Node :=
  .mk { kind := "program" }
    [.mk { kind := "comment" } [],
     .mk { kind := "expression_statement", row := 1 }
      [.mk { kind := "identifier", text := some (Text.bytesOf "a"), row := 1 } [],
       .mk { kind := ";", row := 1, named := false, missing := true } []],
     .mk { kind := "ERROR", row := 3 } []]

theorem extractTree_unparsable_sample :
    sampleBroken.PassesErrorsOn ∧ (sampleBroken.preorder.map Node.row).Pairwise (· ≤ ·) ∧
      extractTree sampleBroken "a.js" = .error (.reported (.unparsable "a.js" (some 2))) ∧
      IsLeast {line | ∃ m ∈ sampleBroken.preorder, m.isError = true ∧ m.line = line} 2 := by
  have hflags : sampleBroken.PassesErrorsOn :=
    Node.passesErrorsOn_of_flag (by decide +kernel)
  have hrows : (sampleBroken.preorder.map Node.row).Pairwise (· ≤ ·) := by decide +kernel
  have hrun : extractTree sampleBroken "a.js" =
      .error (.reported (.unparsable "a.js" (some 2))) := by decide +kernel
  obtain ⟨-, -, hline⟩ := extractTree_unparsable hflags "a.js"
  obtain ⟨n, -, htrouble, hleast⟩ := hline _ hrun
  have hrow : 2 = n.row + 1 := by
    simp only [Trouble.reported.injEq, Error.unparsable.injEq, Option.some.injEq] at htrouble
    omega
  exact ⟨hflags, hrows, hrun, hrow ▸ hleast hrows⟩

end ScriptTags
