import ScriptTags.Syntax.Shape

/-!
# Classification

For every node of a tree: the name it spells, the shapes it has, and the nodes reached from it by
looking through groups and member accesses, given by their places in preorder.
-/

namespace ScriptTags.Syntax

structure Shapes where
  identifier : Option String
  isImportCall : Bool
  isObject : Bool
  isMember : Bool
  isFunction : Bool
  deriving DecidableEq, Repr

/-- The shapes of a node; an absent node has none. -/
def Shapes.of : Option Node → Shapes
  | some n => ⟨n.identifier?, n.isImportCall, n.isObject, n.isMember, n.isFunction⟩
  | none => ⟨none, false, false, false, false⟩

structure Classification where
  kind : String
  line : Nat
  shapes : Shapes
  ungrouped : Option Nat
  chainStart : Option Nat
  deriving DecidableEq, Repr

/-- The classification of every node of a tree, in preorder. -/
def Classification.ofTree (root : Node) : List Classification :=
  List.zipWith
    (fun n numbered =>
      ⟨n.kind, n.line, Shapes.of (some n), numbered.ungroup.map (·.row),
        numbered.chainStart.map (·.row)⟩)
    root.preorder root.numbered.preorder

/-- A variable binding: its name and the shapes of its value, as written, without grouping
parentheses, and at the start of its chain of member accesses. -/
structure Binding where
  name : Option String
  line : Nat
  hasValue : Bool
  value : Shapes
  ungrouped : Shapes
  chainStart : Shapes
  deriving DecidableEq, Repr

def Binding.ofDeclarator (n : Node) : Binding :=
  let value := n.child? "value"
  ⟨(n.child? "name").bind Node.identifier?, n.line, value.isSome, Shapes.of value,
    Shapes.of (value.bind Node.ungroup), Shapes.of (value.bind Node.chainStart)⟩

def Binding.ofTree (root : Node) : List Binding :=
  (root.preorder.filter (·.kind == "variable_declarator")).map ofDeclarator

end ScriptTags.Syntax
