import ScriptTags.Extract

/-!
# The walk of a cursor

A cursor walks by local moves only and keeps no list of what it has seen. Its stations are
nevertheless the nodes of the tree in preorder, each under its own parent. The part of the tree
that a walk has still to list is the subtree at the cursor, followed by the later siblings of the
nodes on the way back.
-/

namespace ScriptTags
namespace Syntax

namespace Node

mutual

/-- The nodes of a tree in preorder, each with the kind of its parent. -/
def visits (parentKind : Option String) : Node → List (Option String × Node)
  | .mk head children => (parentKind, .mk head children) :: visitsAll head.kind children

def visitsAll (parentKind : String) : List Node → List (Option String × Node)
  | [] => []
  | n :: rest => n.visits (some parentKind) ++ visitsAll parentKind rest

end

mutual

theorem map_snd_visits (parentKind : Option String) : (n : Node) →
    (n.visits parentKind).map Prod.snd = n.preorder
  | .mk head children => by
    rw [visits, preorder, List.map_cons, map_snd_visitsAll]

theorem map_snd_visitsAll (parentKind : String) : (ns : List Node) →
    (visitsAll parentKind ns).map Prod.snd = preorderAll ns
  | [] => rfl
  | n :: rest => by
    rw [visitsAll, preorderAll, List.map_append, map_snd_visits, map_snd_visitsAll]

end

end Node

namespace Cursor

/-- The station of a cursor: its node and the kind of the parent. -/
def station (c : Cursor) : Option String × Node := (c.parentKind?, c.focus)

/-- What a walk visits after the subtrees on the way back. -/
def pendingVisits : List Frame → List (Option String × Node)
  | [] => []
  | frame :: frames => Node.visitsAll frame.parent.kind frame.after ++ pendingVisits frames

/-- What a walk from the cursor visits. -/
def remainingVisits (c : Cursor) : List (Option String × Node) :=
  c.focus.visits c.parentKind? ++ pendingVisits c.frames

theorem climb?_remainingVisits (c : Cursor) :
    c.climb?.elim [] remainingVisits = pendingVisits c.frames := by
  fun_induction climb? c with
  | case1 c d h =>
    obtain ⟨focus, _ | ⟨⟨parent, _ | ⟨n, rest⟩⟩, frames⟩⟩ := c
    · simp [nextSibling?] at h
    · simp [nextSibling?] at h
    · simp only [nextSibling?, Option.some.injEq] at h
      subst h
      simp [remainingVisits, pendingVisits, Node.visitsAll, parentKind?]
  | case2 c hsibling d hparent ih =>
    rw [ih]
    obtain ⟨focus, _ | ⟨⟨parent, _ | ⟨n, rest⟩⟩, frames⟩⟩ := c
    · simp [parent?] at hparent
    · simp only [parent?, Option.some.injEq] at hparent
      subst hparent
      simp [pendingVisits, Node.visitsAll]
    · simp [nextSibling?] at hsibling
  | case3 c _ hparent =>
    obtain ⟨focus, frames⟩ := c
    cases frames with
    | nil => rfl
    | cons frame frames => simp [parent?] at hparent

/-- One step of a walk: the station of the cursor comes off the list of what remains. -/
theorem next?_remainingVisits (c : Cursor) :
    c.remainingVisits = c.station :: c.next?.elim [] remainingVisits := by
  obtain ⟨⟨head, children⟩, frames⟩ := c
  cases children with
  | nil =>
    have hclimb := climb?_remainingVisits ⟨.mk head [], frames⟩
    simp only [next?, firstChild?, Node.children_mk]
    rw [hclimb]
    simp [remainingVisits, Node.visits, Node.visitsAll, station]
  | cons n rest =>
    simp [next?, firstChild?, remainingVisits, Node.visits, Node.visitsAll, station,
      pendingVisits, parentKind?, Node.kind]

theorem walk_station (c : Cursor) : c.walk.map station = c.remainingVisits := by
  fun_induction walk c with
  | case1 c ih =>
    rw [next?_remainingVisits c, List.map_cons]
    congr 1
    split
    · rename_i d hd
      rw [hd]
      exact ih d hd
    · rename_i hnone
      rw [hnone]
      rfl

theorem walk_ofRoot (root : Node) : (ofRoot root).walk.map station = root.visits none := by
  rw [walk_station]
  simp [remainingVisits, ofRoot, pendingVisits, parentKind?]

end Cursor

/-! ### Nodes that small trees are made of -/

def sampleName (field name : String) : Node :=
  .mk { kind := "identifier", text := some (Text.bytesOf name), field := some field } []

def sampleRequire (field : Option String) : Node :=
  .mk { kind := "call_expression", field := field } [sampleName "function" "require"]

def sampleMember (field : Option String) (object : Node) : Node :=
  .mk { kind := "member_expression", field := field } [object, sampleName "property" "b"]

def sampleGroup (field : Option String) (inside : List Node) : Node :=
  .mk { kind := "parenthesized_expression", field := field } inside

def sampleBracket (kind : String) : Node := .mk { kind := kind, named := false } []

def sampleComment (named : Bool) : Node := .mk { kind := "comment", row := 7, named := named } []

end Syntax

open Syntax

theorem Extract.mentions_eq (root : Node) :
    mentions root = (root.visits none).flatMap fun v => visit v.1 v.2 := by
  rw [← Cursor.walk_ofRoot, List.flatMap_map]
  rfl

theorem Extract.firstErrorLine?_eq (root : Node) :
    firstErrorLine? root = (root.preorder.find? Node.isError).map Node.line := by
  rw [← Node.map_snd_visits none, ← Cursor.walk_ofRoot, List.map_map, List.find?_map,
    Option.map_map]
  rfl

end ScriptTags
