import Mathlib.Data.List.Forall2
import ScriptTags.Proofs.Layout.Mentions

/-!
# Moving and renaming a script

A script may stand further down in a file, and the file may have another name. The line number
enters a tag twice, by itself and in the address, and it enters the report of an error; all of them
move together.
-/

namespace ScriptTags
namespace Syntax.Node

mutual

/-- The same tree, `k` rows further down. -/
def moved (k : ℕ) : Node → Node
  | .mk head children => .mk { head with row := head.row + k } (movedAll k children)

def movedAll (k : ℕ) : List Node → List Node
  | [] => []
  | n :: rest => n.moved k :: movedAll k rest

end

variable (k : ℕ)

theorem movedAll_eq_map (ns : List Node) : movedAll k ns = ns.map (moved k) := by
  induction ns with
  | nil => rfl
  | cons n rest ih => rw [movedAll, ih, List.map_cons]

theorem head_moved (n : Node) : (n.moved k).head = { n.head with row := n.head.row + k } := by
  cases n
  rfl

theorem children_moved (n : Node) : (n.moved k).children = n.children.map (moved k) := by
  cases n
  exact movedAll_eq_map k _

@[simp] theorem kind_moved (n : Node) : (n.moved k).kind = n.kind := by
  unfold kind
  rw [head_moved]

@[simp] theorem field_moved (n : Node) : (n.moved k).field = n.field := by
  unfold field
  rw [head_moved]

@[simp] theorem identifier?_moved (n : Node) : (n.moved k).identifier? = n.identifier? := by
  unfold identifier?
  rw [kind_moved, head_moved]

@[simp] theorem isError_moved (n : Node) : (n.moved k).isError = n.isError := by
  unfold isError missing
  rw [kind_moved, head_moved]

theorem line_moved (n : Node) : (n.moved k).line = n.line + k := by
  unfold line row
  rw [head_moved]
  exact Nat.add_right_comm n.head.row k 1

theorem find?_field_map_moved (ns : List Node) (field : String) :
    (ns.map (moved k)).find? (·.field == some field) =
      (ns.find? (·.field == some field)).map (moved k) := by
  rw [List.find?_map]
  simp only [Function.comp_def, field_moved]

theorem child?_moved (n : Node) (field : String) :
    (n.moved k).child? field = (n.child? field).map (moved k) := by
  rw [child?, children_moved, find?_field_map_moved]
  rfl

mutual

theorem hasError_moved : (n : Node) → (n.moved k).hasError = n.hasError
  | .mk head children => by rw [moved, hasError, hasError, anyError_movedAll]

theorem anyError_movedAll : (ns : List Node) → anyError (movedAll k ns) = anyError ns
  | [] => rfl
  | n :: rest => by rw [movedAll, anyError, anyError, hasError_moved, anyError_movedAll]

end

mutual

theorem preorder_moved : (n : Node) → (n.moved k).preorder = n.preorder.map (moved k)
  | .mk head children => by
    rw [moved, preorder, preorder, List.map_cons, preorderAll_movedAll, moved]

theorem preorderAll_movedAll : (ns : List Node) →
    preorderAll (movedAll k ns) = (preorderAll ns).map (moved k)
  | [] => rfl
  | n :: rest => by
    rw [movedAll, preorderAll, preorderAll, List.map_append, preorder_moved, preorderAll_movedAll]

end

end Syntax.Node

namespace Extract

open Syntax

variable (k : ℕ)

theorem prototypeOwner?_moved (place : Node) :
    prototypeOwner? (place.moved k) = prototypeOwner? place := by
  unfold prototypeOwner?
  rw [Node.kind_moved, Node.child?_moved, Node.child?_moved, Option.bind_map, Option.bind_map]
  simp only [Function.comp_def, Node.identifier?_moved]

theorem leftOwner?_map_moved (ns : List Node) :
    leftOwner? (ns.map (Node.moved k)) = leftOwner? ns := by
  unfold leftOwner?
  rw [Node.find?_field_map_moved, Option.bind_map]
  simp only [Function.comp_def, prototypeOwner?_moved]

theorem like_moved (n : Node) : Like k n (n.moved k) := by
  induction n using Node.ind with
  | node head children ih =>
    refine ⟨rfl, fun _ => ?_, ?_⟩
    · rw [Node.children_moved]
      exact leftOwner?_map_moved k children
    · rw [Node.children_moved]
      exact Relaid.map fun c hc => ⟨ih c hc, Node.field_moved k c⟩

theorem firstErrorLine?_moved (root : Node) :
    firstErrorLine? (root.moved k) = (firstErrorLine? root).map (· + k) := by
  rw [firstErrorLine?_eq, firstErrorLine?_eq, Node.preorder_moved, List.find?_map, Option.map_map,
    Option.map_map]
  simp only [Function.comp_def, Node.isError_moved, Node.line_moved]

end Extract

open Extract Syntax

/-- The second tag is the first one for a file of another name in which its script stands `k` rows
further down: it searches for the same word, on the line to which it has moved. -/
structure Tag.MovedTo (k : ℕ) (file file' : String) (t t' : Tag) : Prop where
  name : t'.name = t.name
  kind : t'.kind = t.kind
  files : t.file = file ∧ t'.file = file'
  lineno : t'.lineno = t.lineno + k
  address : ∃ word, t.address = ScriptTags.address t.lineno word ∧
    t'.address = ScriptTags.address (t.lineno + k) word

theorem Mention.movedTo (k : ℕ) (file file' : String) (m : Mention) :
    Tag.MovedTo k file file' (m.tag file) ((m.moved k).tag file') where
  name := rfl
  kind := rfl
  files := ⟨rfl, rfl⟩
  lineno := Nat.add_right_comm m.row k 1
  address := by
    refine ⟨m.word, rfl, ?_⟩
    have hline : ((m.row + k : ℕ) : Int) + 1 = ((m.row + 1 : ℕ) : Int) + k := by omega
    exact congrArg (ScriptTags.address · m.word) hline

/-- Moving a script down and renaming its file moves and renames its tags, one by one and in their
order, and moves the line of its first error. -/
theorem extractTree_moved (k : ℕ) (root : Node) (file file' : String) :
    (∃ tags tags', extractTree root file = .ok ⟨file, tags⟩ ∧
      extractTree (root.moved k) file' = .ok ⟨file', tags'⟩ ∧
      List.Forall₂ (Tag.MovedTo k file file') tags tags') ∨
    ∃ line : Option Int, extractTree root file = .error (.reported (.unparsable file line)) ∧
      extractTree (root.moved k) file' =
        .error (.reported (.unparsable file' (line.map (· + (k : Int))))) := by
  cases h : root.hasError with
  | false =>
    left
    have hmoved : (root.moved k).hasError = false := by rw [Node.hasError_moved, h]
    refine ⟨_, _, extractTree_of_sound h file, extractTree_of_sound hmoved file', ?_⟩
    rw [(like_moved k root).mentions_eq, List.map_map, List.forall₂_map_left_iff,
      List.forall₂_map_right_iff, List.forall₂_same]
    intro m _
    exact m.movedTo k file file'
  | true =>
    right
    have hmoved : (root.moved k).hasError = true := by rw [Node.hasError_moved, h]
    refine ⟨_, extractTree_of_hasError h file, ?_⟩
    rw [extractTree_of_hasError hmoved file', firstErrorLine?_moved, Option.map_map,
      Option.map_map]
    rfl

end ScriptTags
