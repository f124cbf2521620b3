import ScriptTags.Text.Utf8

/-!
# Syntax trees

A script is read into a tree of nodes. A node has a kind, named after the construct of the grammar
that it stands for, the row on which it starts, and children in source order. Children may carry
the name of the field under which their parent finds them; punctuation and keywords are unnamed
nodes. A node of kind `ERROR`, or one that was missing in the source, marks a syntax error, and
every node above it has an error too unless it says otherwise.
-/

namespace ScriptTags.Syntax

open Text (Bytes)

/-- What a node says of itself. -/
structure Head where
  kind : String
  text : Option Bytes := some []
  row : Nat := 0
  named : Bool := true
  missing : Bool := false
  field : Option String := none
  /-- Overrides the presence of an error below. -/
  flag : Option Bool := none
  deriving DecidableEq, Repr, Inhabited

inductive Node where
  | mk (head : Head) (children : List Node)
  deriving Repr, Inhabited

namespace Node

def head : Node → Head
  | .mk head _ => head

def children : Node → List Node
  | .mk _ children => children

def kind (n : Node) : String := n.head.kind
def row (n : Node) : Nat := n.head.row
def named (n : Node) : Bool := n.head.named
def missing (n : Node) : Bool := n.head.missing
def field (n : Node) : Option String := n.head.field

@[simp] theorem head_mk (h : Head) (cs : List Node) : (mk h cs).head = h := rfl
@[simp] theorem children_mk (h : Head) (cs : List Node) : (mk h cs).children = cs := rfl

/-- The one-based line on which a node starts. -/
def line (n : Node) : Nat := n.row + 1

/-- The first child that stands under a field. -/
def child? (n : Node) (field : String) : Option Node :=
  n.children.find? (·.field == some field)

def namedChildren (n : Node) : List Node := n.children.filter (·.named)

/-- A node at which the source is wrong. -/
def isError (n : Node) : Bool := n.kind == "ERROR" || n.missing

mutual

def size : Node → Nat
  | .mk _ children => 1 + sizeAll children

def sizeAll : List Node → Nat
  | [] => 0
  | n :: rest => n.size + sizeAll rest

end

mutual

def hasError : Node → Bool
  | .mk head children =>
    head.flag.getD (head.kind == "ERROR" || head.missing || anyError children)

def anyError : List Node → Bool
  | [] => false
  | n :: rest => n.hasError || anyError rest

end

mutual

/-- Every node of a tree, parents before their children. -/
def preorder : Node → List Node
  | .mk head children => .mk head children :: preorderAll children

def preorderAll : List Node → List Node
  | [] => []
  | n :: rest => n.preorder ++ preorderAll rest

end

theorem size_pos (n : Node) : 0 < n.size := by
  cases n
  simp only [size]
  omega

mutual

/-- Numbers the rows of a tree in preorder, from `i` on; the next number is returned as well. -/
def numberFrom (i : Nat) : Node → Node × Nat
  | .mk head children =>
    let (children, next) := numberAll (i + 1) children
    (.mk { head with row := i } children, next)

def numberAll (i : Nat) : List Node → List Node × Nat
  | [] => ([], i)
  | n :: rest =>
    let (n, next) := n.numberFrom i
    let (rest, last) := numberAll next rest
    (n :: rest, last)

end

/-- The same tree in which the row of each node is its place in preorder. -/
def numbered (n : Node) : Node := (n.numberFrom 0).1

end Node

end ScriptTags.Syntax
