import Mathlib.Computability.StateTransition
import ScriptTags.Proofs.Syntax.Position
import ScriptTags.Proofs.Syntax.Unwrap

/-!
# Ends of chains

Looking through the groups around an expression, and down a chain of member accesses, are loops that
replace a node by one below it until there is nothing to look through or nothing is left. What they
come to cannot be looked through any more, so looking twice, or through groups before or after the
chain, changes nothing. Nothing is left if and only if the links lead to an empty group or to a
member access without an object.

The laws hold of all trees, also of those in which every node has a row of its own and equal nodes
are therefore the same node.
-/

namespace ScriptTags.Syntax.Node

open StateTransition

/-- What a group holds: its first named child that is no comment. -/
def content? (n : Node) : Option Node := n.namedChildren.find? (·.kind != "comment")

theorem content?_eq (n : Node) : n.content? = n.children.find? isContent := by
  rw [content?, namedChildren, List.find?_filter]
  congr 1
  funext c
  rw [isContent, Bool.decide_and, Bool.decide_eq_true, Bool.decide_eq_true]

/-- One round of the loop through groups. -/
def ungroupStep : Option Node → Option (Option Node)
  | some n => if n.isGroup then some n.content? else none
  | none => none

/-- One round of the loop down a chain. The object of a member access is taken without the groups
around it. -/
def chainStep : Option Node → Option (Option Node)
  | some n => if n.isMember then some ((n.child? "object").bind ungroup) else none
  | none => none

theorem eval_of_stop {σ : Type} {f : σ → Option σ} {s : σ} (h : f s = none) :
    eval f s = Part.some s :=
  Part.eq_some_iff.mpr (mem_eval.mpr ⟨.refl, h⟩)

theorem eval_ungroupStep (n : Option Node) : eval ungroupStep n = Part.some (n.bind ungroup) := by
  cases n with
  | none => exact eval_of_stop rfl
  | some n =>
    rw [Option.bind_some]
    induction n using ind with
    | node head children ih =>
      cases hgroup : (Node.mk head children).isGroup with
      | false =>
        rw [ungroup_of_not_isGroup hgroup]
        exact eval_of_stop (by simp [ungroupStep, hgroup])
      | true =>
        have hstep : ungroupStep (some (.mk head children)) =
            some (content? (.mk head children)) := by simp [ungroupStep, hgroup]
        rw [reaches_eval (.single hstep), ungroup_of_isGroup hgroup, content?_eq]
        cases hc : (Node.mk head children).children.find? isContent with
        | none => exact eval_of_stop rfl
        | some c => exact ih c (List.mem_of_find?_eq_some hc)

theorem eval_chainStep (n : Option Node) :
    eval chainStep (n.bind ungroup) = Part.some (n.bind chainStart) := by
  cases n with
  | none => exact eval_of_stop rfl
  | some n =>
    rw [Option.bind_some, Option.bind_some]
    induction n using ind with
    | node head children ih =>
      cases hgroup : (Node.mk head children).isGroup with
      | true =>
        rw [ungroup_of_isGroup hgroup, chainStart_of_isGroup hgroup]
        cases hc : (Node.mk head children).children.find? isContent with
        | none => exact eval_of_stop rfl
        | some c => exact ih c (List.mem_of_find?_eq_some hc)
      | false =>
        rw [ungroup_of_not_isGroup hgroup]
        cases hmember : (Node.mk head children).isMember with
        | false =>
          rw [chainStart_of_plain hgroup hmember]
          exact eval_of_stop (by simp [chainStep, hmember])
        | true =>
          have hstep : chainStep (some (.mk head children)) =
              some ((child? (.mk head children) "object").bind ungroup) := by
            simp [chainStep, hmember]
          rw [reaches_eval (.single hstep), chainStart_of_isMember hmember]
          cases hc : child? (.mk head children) "object" with
          | none => exact eval_of_stop rfl
          | some c => exact ih c (List.mem_of_find?_eq_some hc)

section Below

variable {n m c : Node}

theorem exists_at?_of_mem (hc : c ∈ n.children) (h : ∃ p, c.at? p = some m) :
    ∃ p, n.at? p = some m := by
  obtain ⟨i, hi⟩ := List.mem_iff_getElem?.mp hc
  obtain ⟨p, hp⟩ := h
  exact ⟨i :: p, by rw [at?, hi]; exact hp⟩

theorem exists_at?_of_ungroup (h : n.ungroup = some m) : ∃ p, n.at? p = some m := by
  rw [← at?_ungroupPath, Option.bind_eq_some_iff] at h
  obtain ⟨p, -, hp⟩ := h
  exact ⟨p, hp⟩

/-- A chain starts at a node below it, which is neither a group nor a member access. -/
theorem chainStart_eq_some (h : n.chainStart = some m) :
    (∃ p, n.at? p = some m) ∧ m.isGroup = false ∧ m.isMember = false := by
  induction n using ind with
  | node head children ih =>
    have hbelow : ∀ c ∈ children, c.chainStart = some m →
        (∃ p, (Node.mk head children).at? p = some m) ∧ m.isGroup = false ∧
          m.isMember = false := by
      intro c hc hm
      obtain ⟨hp, hplain⟩ := ih c hc hm
      exact ⟨exists_at?_of_mem hc hp, hplain⟩
    rw [chainStart_eq] at h
    split_ifs at h with hgroup hmember
    · obtain ⟨c, hc, hm⟩ := Option.bind_eq_some_iff.mp h
      exact hbelow c (List.mem_of_find?_eq_some hc) hm
    · obtain ⟨c, hc, hm⟩ := Option.bind_eq_some_iff.mp h
      exact hbelow c (List.mem_of_find?_eq_some hc) hm
    · obtain rfl := Option.some.inj h
      exact ⟨⟨[], rfl⟩, Bool.eq_false_iff.mpr hgroup, Bool.eq_false_iff.mpr hmember⟩

theorem ungroup_ungroup (n : Node) : n.ungroup.bind ungroup = n.ungroup := by
  cases hm : n.ungroup with
  | none => rfl
  | some m => exact ungroup_of_not_isGroup (isGroup_of_ungroup hm)

theorem chainStart_chainStart (n : Node) : n.chainStart.bind chainStart = n.chainStart := by
  cases hm : n.chainStart with
  | none => rfl
  | some m =>
    obtain ⟨-, hgroup, hmember⟩ := chainStart_eq_some hm
    exact chainStart_of_plain hgroup hmember

theorem ungroup_chainStart (n : Node) : n.chainStart.bind ungroup = n.chainStart := by
  cases hm : n.chainStart with
  | none => rfl
  | some m => exact ungroup_of_not_isGroup (chainStart_eq_some hm).2.1

end Below

/-- One link down a chain: from a group to what it holds, or from a member access to its object. -/
inductive Link : Node → Node → Prop
  | group {n c : Node} (hn : n.isGroup = true) (hc : n.content? = some c) : Link n c
  | member {n c : Node} (hn : n.isMember = true) (hc : n.child? "object" = some c) : Link n c

/-- A node from which a link is missing: an empty group, or a member access without an object. -/
def IsDeadEnd (n : Node) : Prop :=
  (n.isGroup = true ∧ n.content? = none) ∨ (n.isMember = true ∧ n.child? "object" = none)

section Links

variable {n m : Node}

theorem Link.chainStart_eq (h : Link n m) : n.chainStart = m.chainStart := by
  cases h with
  | group hn hc => rw [chainStart_of_isGroup hn, ← content?_eq, hc, Option.bind_some]
  | member hn hc => rw [chainStart_of_isMember hn, hc, Option.bind_some]

theorem IsDeadEnd.chainStart_eq (h : n.IsDeadEnd) : n.chainStart = none := by
  rcases h with ⟨hn, hc⟩ | ⟨hn, hc⟩
  · rw [chainStart_of_isGroup hn, ← content?_eq, hc, Option.bind_none]
  · rw [chainStart_of_isMember hn, hc, Option.bind_none]

/-- A chain has no start if and only if its links lead to a dead end. -/
theorem chainStart_eq_none_iff :
    n.chainStart = none ↔ ∃ m, Relation.ReflTransGen Link n m ∧ m.IsDeadEnd := by
  constructor
  · intro h
    induction n using ind with
    | node head children ih =>
      have hbelow : ∀ c ∈ children, Link (.mk head children) c → c.chainStart = none →
          ∃ m, Relation.ReflTransGen Link (.mk head children) m ∧ m.IsDeadEnd := by
        intro c hc hlink hnone
        obtain ⟨m, hm, hend⟩ := ih c hc hnone
        exact ⟨m, hm.head hlink, hend⟩
      rw [Node.chainStart_eq] at h
      split_ifs at h with hgroup hmember
      · rw [← content?_eq] at h
        cases hc : content? (.mk head children) with
        | none => exact ⟨_, .refl, .inl ⟨hgroup, hc⟩⟩
        | some c =>
          rw [hc, Option.bind_some] at h
          have hmem := List.mem_of_find?_eq_some ((content?_eq _).symm.trans hc)
          exact hbelow c hmem (.group hgroup hc) h
      · cases hc : child? (.mk head children) "object" with
        | none => exact ⟨_, .refl, .inr ⟨hmember, hc⟩⟩
        | some c =>
          rw [hc, Option.bind_some] at h
          exact hbelow c (List.mem_of_find?_eq_some hc) (.member hmember hc) h
  · rintro ⟨m, hm, hend⟩
    induction hm using Relation.ReflTransGen.head_induction_on with
    | refl => exact hend.chainStart_eq
    | head hlink _ ih => rw [hlink.chainStart_eq, ih]

end Links

/-- Looking through groups leads to where looking down the chain does if and only if it leads
nowhere or to no member access. -/
theorem chainStart_eq_ungroup_iff (n : Option Node) :
    n.bind chainStart = n.bind ungroup ↔
      n.bind ungroup = none ∨ ∃ m, n.bind ungroup = some m ∧ m.isMember = false := by
  cases n with
  | none => simp
  | some n =>
    rw [Option.bind_some, Option.bind_some, ← chainStart_ungroup]
    cases hm : n.ungroup with
    | none => simp
    | some m =>
      rw [Option.bind_some]
      constructor
      · intro h
        exact .inr ⟨m, rfl, (chainStart_eq_some h).2.2⟩
      · rintro (h | ⟨other, hother, hmember⟩)
        · simp at h
        · obtain rfl := Option.some.inj hother
          exact chainStart_of_plain (isGroup_of_ungroup hm) hmember

/-- The laws of looking through groups, `U`, and down a chain of groups and member accesses, `M`. -/
theorem unwrapping_laws (n : Option Node) :
    let U := fun n : Option Node => n.bind ungroup
    let M := fun n : Option Node => n.bind chainStart
    (eval ungroupStep n = Part.some (U n) ∧ eval chainStep (U n) = Part.some (M n)) ∧
    (∀ m, U n = some m ∨ M n = some m → ∃ o p, n = some o ∧ o.at? p = some m) ∧
    (∀ m, U n = some m → m.kind ≠ "parenthesized_expression") ∧
    (∀ m, M n = some m →
      m.kind ∉ ["parenthesized_expression", "member_expression", "subscript_expression"]) ∧
    (U (U n) = U n ∧ M (M n) = M n ∧ M (U n) = M n ∧ U (M n) = M n) ∧
    (M n = U n ↔ U n = none ∨ ∃ m, U n = some m ∧ m.isMember = false) ∧
    (M n = none ↔ n = none ∨ ∃ o m, n = some o ∧ Relation.ReflTransGen Link o m ∧ m.IsDeadEnd) := by
  intro U M
  refine ⟨⟨eval_ungroupStep n, eval_chainStep n⟩, ?_, ?_, ?_, ⟨?_, ?_, ?_, ?_⟩,
    chainStart_eq_ungroup_iff n, ?_⟩
  · rintro m (h | h)
    · obtain ⟨o, rfl, hm⟩ := Option.bind_eq_some_iff.mp h
      obtain ⟨p, hp⟩ := exists_at?_of_ungroup hm
      exact ⟨o, p, rfl, hp⟩
    · obtain ⟨o, rfl, hm⟩ := Option.bind_eq_some_iff.mp h
      obtain ⟨⟨p, hp⟩, -⟩ := chainStart_eq_some hm
      exact ⟨o, p, rfl, hp⟩
  · intro m h
    obtain ⟨o, -, hm⟩ := Option.bind_eq_some_iff.mp h
    simpa [isGroup] using isGroup_of_ungroup hm
  · intro m h
    obtain ⟨o, -, hm⟩ := Option.bind_eq_some_iff.mp h
    obtain ⟨-, hgroup, hmember⟩ := chainStart_eq_some hm
    simpa [isGroup, isMember] using And.intro hgroup hmember
  · simp only [U, Option.bind_assoc, ungroup_ungroup]
  · simp only [M, Option.bind_assoc, chainStart_chainStart]
  · simp only [U, M, Option.bind_assoc, chainStart_ungroup]
  · simp only [U, M, Option.bind_assoc, ungroup_chainStart]
  · cases n with
    | none => simp [M]
    | some o => simp [M, chainStart_eq_none_iff]

/-- The access `(/* */ require(…)).b`. -/
def sampleChain : Node :=
  sampleMember none
    (sampleGroup (some "object") [sampleBracket "(", sampleComment true, sampleRequire none])

/-- The call is where the chain starts, and the access is no group, so that the two ways of looking
through it differ. -/
theorem unwrapping_laws_sample :
    sampleChain.isMember = true ∧ sampleChain.ungroup = some sampleChain ∧
      eval chainStep (some sampleChain) = Part.some (some (sampleRequire none)) ∧
      (some sampleChain).bind chainStart ≠ (some sampleChain).bind ungroup := by
  have hmember : sampleChain.isMember = true := by decide +kernel
  have hungroup : sampleChain.ungroup = some sampleChain := by rfl
  have hstart : sampleChain.chainStart = some (sampleRequire none) := by rfl
  obtain ⟨⟨-, hloop⟩, -, -, -, -, hagree, -⟩ := unwrapping_laws (some sampleChain)
  refine ⟨hmember, hungroup, ?_, ?_⟩
  · simpa [hungroup, hstart] using hloop
  · rw [Ne, hagree]
    simp [hungroup, hmember]

end ScriptTags.Syntax.Node
