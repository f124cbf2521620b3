import ScriptTags.Syntax.Node

/-!
# Cursors

A cursor stands at a node of a tree and remembers the way back to the root: at each step the parent
and the siblings that come after. It moves to the first child, to the next sibling or to the
parent, or stays where no such node exists. Walking on to the first child, else to the next sibling
of the nearest node on the way back that has one, visits a tree in preorder.
-/

namespace ScriptTags.Syntax

/-- One step on the way back from a cursor to the root. -/
structure Frame where
  parent : Node
  after : List Node

structure Cursor where
  focus : Node
  frames : List Frame

namespace Cursor

def ofRoot (root : Node) : Cursor := ⟨root, []⟩

def parentKind? (c : Cursor) : Option String := c.frames.head?.map (·.parent.kind)

def firstChild? (c : Cursor) : Option Cursor :=
  match c.focus.children with
  | [] => none
  | n :: rest => some ⟨n, ⟨c.focus, rest⟩ :: c.frames⟩

def nextSibling? (c : Cursor) : Option Cursor :=
  match c.frames with
  | ⟨parent, n :: rest⟩ :: frames => some ⟨n, ⟨parent, rest⟩ :: frames⟩
  | _ => none

def parent? (c : Cursor) : Option Cursor :=
  match c.frames with
  | [] => none
  | frame :: frames => some ⟨frame.parent, frames⟩

theorem parent?_frames_length {c d : Cursor} (h : c.parent? = some d) :
    d.frames.length < c.frames.length := by
  obtain ⟨focus, frames⟩ := c
  cases frames with
  | nil => simp [parent?] at h
  | cons frame frames =>
    simp only [parent?, Option.some.injEq] at h
    subst h
    simp

/-- The next sibling of the focus, or else of the nearest ancestor that has one. -/
def climb? (c : Cursor) : Option Cursor :=
  match c.nextSibling? with
  | some d => some d
  | none =>
    match _h : c.parent? with
    | some d => d.climb?
    | none => none
termination_by c.frames.length
decreasing_by exact parent?_frames_length _h

def next? (c : Cursor) : Option Cursor :=
  match c.firstChild? with
  | some d => some d
  | none => c.climb?

/-- The number of nodes that come after the subtrees on the way back. -/
def pending : List Frame → Nat
  | [] => 0
  | frame :: frames => Node.sizeAll frame.after + pending frames

def remaining (c : Cursor) : Nat := c.focus.size + pending c.frames

theorem nextSibling?_remaining {c d : Cursor} (h : c.nextSibling? = some d) :
    d.remaining = pending c.frames := by
  obtain ⟨focus, frames⟩ := c
  match frames with
  | [] => simp [nextSibling?] at h
  | ⟨parent, []⟩ :: frames => simp [nextSibling?] at h
  | ⟨parent, n :: rest⟩ :: frames =>
    simp only [nextSibling?, Option.some.injEq] at h
    subst h
    simp [remaining, pending, Node.sizeAll]
    omega

theorem climb?_remaining {c d : Cursor} (h : c.climb? = some d) :
    d.remaining ≤ pending c.frames := by
  fun_induction climb? c with
  | case1 c e he =>
    simp only [Option.some.injEq] at h
    subst h
    exact Nat.le_of_eq (nextSibling?_remaining he)
  | case2 c he e hp ih =>
    refine Nat.le_trans (ih h) ?_
    obtain ⟨focus, frames⟩ := c
    cases frames with
    | nil => simp [parent?] at hp
    | cons frame frames =>
      simp only [parent?, Option.some.injEq] at hp
      subst hp
      simp [pending]
  | case3 => simp at h

theorem next?_remaining {c d : Cursor} (h : c.next? = some d) : d.remaining < c.remaining := by
  unfold next? at h
  split at h
  · rename_i e he
    simp only [Option.some.injEq] at h
    subst h
    obtain ⟨⟨head, children⟩, frames⟩ := c
    cases children with
    | nil => simp [firstChild?] at he
    | cons n rest =>
      simp only [firstChild?, Node.children_mk, Option.some.injEq] at he
      subst he
      simp [remaining, pending, Node.size, Node.sizeAll]
      omega
  · have := climb?_remaining h
    have := c.focus.size_pos
    unfold remaining at *
    omega

/-- The stations of a walk from the cursor to the end of the tree. -/
def walk (c : Cursor) : List Cursor :=
  c :: match _h : c.next? with
    | some d => d.walk
    | none => []
termination_by c.remaining
decreasing_by exact next?_remaining _h

end Cursor

end ScriptTags.Syntax
