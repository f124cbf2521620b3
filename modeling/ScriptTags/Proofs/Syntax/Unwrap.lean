import ScriptTags.Syntax.Shape

/-!
# Looking through groups and member accesses

A group is passed to its first content, and a member access to the object that it starts from.
Removing the groups around an expression first does not change where its chain starts.
-/

namespace ScriptTags.Syntax.Node

@[elab_as_elim]
theorem ind {motive : Node → Prop}
    (node : ∀ head children, (∀ c ∈ children, motive c) → motive (.mk head children)) :
    ∀ n, motive n
  | .mk head children => node head children fun c hc =>
    have hlt : sizeOf c < sizeOf (Node.mk head children) :=
      Nat.lt_of_lt_of_le (List.sizeOf_lt_of_mem hc) (by simp)
    ind node c
termination_by n => sizeOf n
decreasing_by exact hlt

theorem ungroupFirst_eq (ns : List Node) :
    ungroupFirst ns = (ns.find? isContent).bind ungroup := by
  induction ns with
  | nil => rfl
  | cons n rest ih =>
    rw [ungroupFirst, List.find?_cons, ih]
    cases n.isContent <;> rfl

theorem chainStartInGroup_eq (ns : List Node) :
    chainStartInGroup ns = (ns.find? isContent).bind chainStart := by
  induction ns with
  | nil => rfl
  | cons n rest ih =>
    rw [chainStartInGroup, List.find?_cons, ih]
    cases n.isContent <;> rfl

theorem chainStartOfObject_eq (ns : List Node) :
    chainStartOfObject ns = (ns.find? (·.field == some "object")).bind chainStart := by
  induction ns with
  | nil => rfl
  | cons n rest ih =>
    rw [chainStartOfObject, List.find?_cons, ih]
    cases n.field == some "object" <;> rfl

variable {n m : Node}

/-- One step through the groups around an expression. -/
theorem ungroup_eq (n : Node) :
    n.ungroup = if n.isGroup then (n.children.find? isContent).bind ungroup else some n := by
  obtain ⟨head, children⟩ := n
  rw [ungroup, ungroupFirst_eq]
  rfl

theorem chainStart_eq (n : Node) :
    n.chainStart =
      if n.isGroup then (n.children.find? isContent).bind chainStart
      else if n.isMember then (n.child? "object").bind chainStart
      else some n := by
  obtain ⟨head, children⟩ := n
  rw [chainStart, chainStartInGroup_eq, chainStartOfObject_eq]
  rfl

theorem ungroup_of_isGroup (h : n.isGroup = true) :
    n.ungroup = (n.children.find? isContent).bind ungroup := by
  rw [ungroup_eq, if_pos h]

theorem ungroup_of_not_isGroup (h : n.isGroup = false) : n.ungroup = some n := by
  rw [ungroup_eq, h]
  rfl

theorem isGroup_of_isMember (h : n.isMember = true) : n.isGroup = false := by
  rw [isMember, Bool.or_eq_true, beq_iff_eq, beq_iff_eq] at h
  rcases h with h | h
  · simp [isGroup, h]
  · simp [isGroup, h]

theorem chainStart_of_isGroup (h : n.isGroup = true) :
    n.chainStart = (n.children.find? isContent).bind chainStart := by
  rw [chainStart_eq, if_pos h]

theorem chainStart_of_isMember (h : n.isMember = true) :
    n.chainStart = (n.child? "object").bind chainStart := by
  rw [chainStart_eq, isGroup_of_isMember h, h]
  rfl

theorem chainStart_of_plain (hgroup : n.isGroup = false) (hmember : n.isMember = false) :
    n.chainStart = some n := by
  rw [chainStart_eq, hgroup, hmember]
  rfl

theorem isGroup_of_ungroup (h : n.ungroup = some m) : m.isGroup = false := by
  induction n using ind with
  | node head children ih =>
    cases hgroup : (Node.mk head children).isGroup with
    | false =>
      rw [ungroup_of_not_isGroup hgroup, Option.some.injEq] at h
      rw [← h, hgroup]
    | true =>
      rw [ungroup_of_isGroup hgroup, Option.bind_eq_some_iff] at h
      obtain ⟨c, hc, h⟩ := h
      exact ih c (List.mem_of_find?_eq_some hc) h

theorem chainStart_ungroup (n : Node) : n.ungroup.bind chainStart = n.chainStart := by
  induction n using ind with
  | node head children ih =>
    cases hgroup : (Node.mk head children).isGroup with
    | false => rw [ungroup_of_not_isGroup hgroup, Option.bind_some]
    | true =>
      rw [ungroup_of_isGroup hgroup, chainStart_of_isGroup hgroup, Option.bind_assoc]
      cases hc : (Node.mk head children).children.find? isContent with
      | none => rfl
      | some c => exact ih c (List.mem_of_find?_eq_some hc)

end ScriptTags.Syntax.Node
