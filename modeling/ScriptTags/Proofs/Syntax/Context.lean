import ScriptTags.Proofs.Syntax.Walk

/-!
# Trees with a hole

A context is a tree in which some children of one node are left open. The hole may be filled with
any number of trees, which become children of that node, between those it has already.
-/

namespace ScriptTags
namespace Syntax

inductive Context where
  /-- The hole is among the children of this node. -/
  | hole (head : Head) (before after : List Node)
  /-- The hole is below one of the children of this node. -/
  | layer (head : Head) (before : List Node) (inner : Context) (after : List Node)

namespace Context

/-- The kind of the parent of the hole. -/
def holeKind : Context → String
  | hole head _ _ => head.kind
  | layer _ _ inner _ => inner.holeKind

/-- The tree with trees in the hole. -/
def fill (ts : List Node) : Context → Node
  | hole head before after => .mk head (before ++ ts ++ after)
  | layer head before inner after => .mk head (before ++ inner.fill ts :: after)

end Context

theorem Node.anyError_append (ns ms : List Node) :
    anyError (ns ++ ms) = (anyError ns || anyError ms) := by
  induction ns with
  | nil => rfl
  | cons n rest ih => rw [List.cons_append, anyError, anyError, ih, Bool.or_assoc]

theorem Context.hasError_fill (C : Context) {ts : List Node} (h : Node.anyError ts = false) :
    (C.fill ts).hasError = (C.fill []).hasError := by
  induction C with
  | hole head before after =>
    simp [fill, Node.hasError, Node.anyError_append, h]
  | layer head before inner after ih =>
    simp [fill, Node.hasError, Node.anyError_append, Node.anyError, ih]

end Syntax
end ScriptTags
