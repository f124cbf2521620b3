import Mathlib.Computability.StateTransition
import ScriptTags.Proofs.Mention
import ScriptTags.Proofs.Syntax.Position

/-!
# The tour of a tree

Seen move by move, a walk enters a node and lists it, goes down to its first child if there is one,
and otherwise returns: to the next sibling, or one step up to look for one there. The tour ends when
it returns to the root. It never leaves the tree, and it lists every position of the tree once, in
preorder. The mentions of a tree are therefore those of its nodes in this order.
-/

namespace ScriptTags
namespace Syntax

namespace Node

theorem preorderAll_eq_flatMap (ns : List Node) : preorderAll ns = ns.flatMap preorder := by
  induction ns with
  | nil => rfl
  | cons n rest ih => rw [preorderAll, List.flatMap_cons, ih]

theorem preorder_eq (n : Node) : n.preorder = n :: n.children.flatMap preorder := by
  obtain ⟨head, children⟩ := n
  rw [preorder, preorderAll_eq_flatMap]
  rfl

theorem map_node_sites (root : Node) : (root.sites [] none).map Site.node = root.preorder := by
  rw [← map_snd_visits none, ← sites_stations [] none, List.map_map]
  rfl

end Node

/-- The number of the child that a frame leads to. -/
def Frame.index (frame : Frame) : ℕ := frame.parent.children.length - frame.after.length - 1

namespace Cursor

/-- Where the innermost of some frames leads to from the root. -/
def positionOf (frames : List Frame) : Position := (frames.map Frame.index).reverse

def position (c : Cursor) : Position := positionOf c.frames

def site (c : Cursor) : Site := ⟨c.position, c.parentKind?, c.focus⟩

/-- A cursor stands in a tree if its frames lead down from the root, each to a child of its
parent. -/
inductive StandsIn (root : Node) : Cursor → Prop
  | root : StandsIn root (ofRoot root)
  | child {parent n : Node} {before after : List Node} {frames : List Frame}
      (hparent : StandsIn root ⟨parent, frames⟩) (hn : parent.children = before ++ n :: after) :
      StandsIn root ⟨n, ⟨parent, after⟩ :: frames⟩

section Place

variable {parent n : Node} {before after : List Node} {frames : List Frame}

theorem index_mk (h : parent.children = before ++ n :: after) :
    (Frame.mk parent after).index = before.length := by
  simp only [Frame.index, h, List.length_append, List.length_cons]
  omega

theorem positionOf_cons (h : parent.children = before ++ n :: after) :
    positionOf (⟨parent, after⟩ :: frames) = positionOf frames ++ [before.length] := by
  rw [positionOf, List.map_cons, List.reverse_cons, index_mk h]
  rfl

end Place

namespace StandsIn

variable {root : Node} {c d : Cursor}

theorem at?_position (h : StandsIn root c) : root.at? c.position = some c.focus ∧
    c.parentKind? = root.parentKindAt none c.position := by
  induction h with
  | root => exact ⟨rfl, rfl⟩
  | @child parent n before after frames hparent hn ih =>
    have hchild : parent.children[before.length]? = some n := by simp [hn]
    have hposition : (Cursor.mk n (⟨parent, after⟩ :: frames)).position =
        positionOf frames ++ [before.length] := positionOf_cons hn
    rw [hposition]
    exact ⟨(Node.at?_child ih.1 _).trans hchild, (Node.parentKindAt_child ih.1 none hchild).symm⟩

theorem firstChild? (h : StandsIn root c) (hd : c.firstChild? = some d) : StandsIn root d := by
  obtain ⟨focus, frames⟩ := c
  unfold Cursor.firstChild? at hd
  split at hd
  · simp at hd
  · rename_i n rest hchildren
    rw [← Option.some.inj hd]
    have hn : focus.children = [] ++ n :: rest := hchildren
    exact .child h hn

theorem nextSibling? (h : StandsIn root c) (hd : c.nextSibling? = some d) : StandsIn root d := by
  cases h with
  | root => simp [ofRoot, Cursor.nextSibling?] at hd
  | @child parent n before after frames hparent hn =>
    cases after with
    | nil => simp [Cursor.nextSibling?] at hd
    | cons next rest =>
      rw [Cursor.nextSibling?, Option.some.injEq] at hd
      rw [← hd]
      have hnext : parent.children = before ++ [n] ++ next :: rest := by simp [hn]
      exact .child hparent hnext

theorem parent? (h : StandsIn root c) (hd : c.parent? = some d) : StandsIn root d := by
  cases h with
  | root => simp [ofRoot, Cursor.parent?] at hd
  | child hparent hn =>
    rw [Cursor.parent?, Option.some.injEq] at hd
    exact hd ▸ hparent

theorem climb? (h : StandsIn root c) (hd : c.climb? = some d) : StandsIn root d := by
  fun_induction Cursor.climb? c with
  | case1 c e he => exact h.nextSibling? (he.trans hd)
  | case2 c _ e he ih => exact ih (h.parent? he) hd
  | case3 => simp at hd

theorem next? (h : StandsIn root c) (hd : c.next? = some d) : StandsIn root d := by
  unfold Cursor.next? at hd
  split at hd
  · rename_i e he
    exact h.firstChild? (he.trans hd)
  · exact h.climb? hd

end StandsIn

/-! ### The positions that a walk lists -/

/-- The sites that a walk comes to after the subtrees on the way back. -/
def pendingSites : List Frame → List Site
  | [] => []
  | frame :: frames =>
    Node.sitesAll (positionOf frames) frame.parent.kind (frame.index + 1) frame.after ++
      pendingSites frames

/-- The sites that a walk from the cursor comes to. -/
def remainingSites (c : Cursor) : List Site :=
  c.focus.sites c.position c.parentKind? ++ pendingSites c.frames

variable {root : Node} {c : Cursor}

theorem climb?_remainingSites (h : StandsIn root c) :
    c.climb?.elim [] remainingSites = pendingSites c.frames := by
  fun_induction Cursor.climb? c with
  | case1 c d hd =>
    cases h with
    | root => simp [ofRoot, nextSibling?] at hd
    | @child parent n before after frames hparent hn =>
      cases after with
      | nil => simp [nextSibling?] at hd
      | cons next rest =>
        have hnext : parent.children = (before ++ [n]) ++ next :: rest := by simp [hn]
        rw [nextSibling?, Option.some.injEq] at hd
        rw [← hd, Option.elim_some, remainingSites, position, pendingSites, pendingSites,
          positionOf_cons hnext, index_mk hn, index_mk hnext, Node.sitesAll]
        simp [parentKind?]
  | case2 c hsibling d hd ih =>
    rw [ih (h.parent? hd)]
    cases h with
    | root => simp [ofRoot, parent?] at hd
    | @child parent n before after frames hparent hn =>
      rw [parent?, Option.some.injEq] at hd
      cases after with
      | nil => rw [← hd, pendingSites, Node.sitesAll, List.nil_append]
      | cons next rest => simp [nextSibling?] at hsibling
  | case3 c _ hparent =>
    cases h with
    | root => rfl
    | child => simp [parent?] at hparent

/-- One step of a walk: the site of the cursor comes off the list of what remains. -/
theorem next?_remainingSites (h : StandsIn root c) :
    c.remainingSites = c.site :: c.next?.elim [] remainingSites := by
  obtain ⟨⟨head, children⟩, frames⟩ := c
  cases children with
  | nil =>
    rw [next?, firstChild?, Node.children_mk, climb?_remainingSites h, remainingSites, Node.sites,
      Node.sitesAll]
    rfl
  | cons n rest =>
    have hn : (Node.mk head (n :: rest)).children = [] ++ n :: rest := rfl
    rw [next?, firstChild?, Node.children_mk, Option.elim_some, remainingSites, remainingSites,
      Node.sites, Node.sitesAll, position, position, pendingSites, positionOf_cons hn, index_mk hn]
    simp [site, position, parentKind?, Node.kind]

theorem walk_eq (c : Cursor) : c.walk = c :: c.next?.elim [] walk := by
  rw [walk]
  congr 1
  split
  · rename_i hd
    rw [hd]
    rfl
  · rename_i hnone
    rw [hnone]
    rfl

/-- A walk lists exactly what remains, position by position. -/
theorem walk_site (h : StandsIn root c) : c.walk.map site = c.remainingSites := by
  induction c using walk.induct with
  | case1 c ih =>
    rw [walk_eq, next?_remainingSites h, List.map_cons]
    cases hnext : c.next? with
    | none => rfl
    | some d => rw [Option.elim_some, Option.elim_some, ih d hnext (h.next? hnext)]

theorem walk_site_ofRoot (root : Node) :
    (ofRoot root).walk.map site = root.sites [] none := by
  rw [walk_site .root]
  simp [remainingSites, ofRoot, position, positionOf, pendingSites, parentKind?]

end Cursor

/-! ### Tours -/

/-- A tour in progress: where its cursor stands, whether it is on the way back from what it has
listed, and the stations that it has listed. -/
structure Tour where
  cursor : Cursor
  returning : Bool
  stations : List Cursor

namespace Tour

open StateTransition

def start (root : Node) : Tour := ⟨.ofRoot root, false, []⟩

/-- One move of the cursor, if the tour is not at its end. -/
def step (t : Tour) : Option Tour :=
  if t.returning then
    match t.cursor.nextSibling? with
    | some d => some ⟨d, false, t.stations⟩
    | none => t.cursor.parent?.map (⟨·, true, t.stations⟩)
  else
    match t.cursor.firstChild? with
    | some d => some ⟨d, false, t.stations ++ [t.cursor]⟩
    | none => some ⟨t.cursor, true, t.stations ++ [t.cursor]⟩

/-- A tour on its way back goes on where climbing leads, and else ends with what it has listed. -/
theorem eval_returning (c : Cursor) (stations : List Cursor) :
    (∀ d, c.climb? = some d → eval step ⟨c, true, stations⟩ = eval step ⟨d, false, stations⟩) ∧
      (c.climb? = none → ∃ last ∈ eval step ⟨c, true, stations⟩, last.stations = stations) := by
  fun_induction Cursor.climb? c with
  | case1 c e he =>
    have hstep : step ⟨c, true, stations⟩ = some ⟨e, false, stations⟩ := by simp [step, he]
    refine ⟨fun d hd => ?_, by simp⟩
    rw [← Option.some.inj hd]
    exact reaches_eval (.single hstep)
  | case2 c hsibling e he ih =>
    have hstep : step ⟨c, true, stations⟩ = some ⟨e, true, stations⟩ := by
      simp [step, hsibling, he]
    rw [reaches_eval (.single hstep)]
    exact ih
  | case3 c hsibling hparent =>
    have hstep : step ⟨c, true, stations⟩ = none := by simp [step, hsibling, hparent]
    exact ⟨by simp, fun _ => ⟨_, mem_eval.mpr ⟨.refl, hstep⟩, rfl⟩⟩

/-- A tour that enters a node ends, and lists on the way what a walk from there lists. -/
theorem eval_entering (c : Cursor) (stations : List Cursor) :
    ∃ last ∈ eval step ⟨c, false, stations⟩, last.stations = stations ++ c.walk := by
  induction c using Cursor.walk.induct generalizing stations with
  | case1 c ih =>
    rw [Cursor.walk_eq, List.append_cons]
    cases hchild : c.firstChild? with
    | some d =>
      have hnext : c.next? = some d := by rw [Cursor.next?, hchild]
      have hstep : step ⟨c, false, stations⟩ = some ⟨d, false, stations ++ [c]⟩ := by
        simp [step, hchild]
      rw [reaches_eval (.single hstep), hnext]
      exact ih d hnext (stations ++ [c])
    | none =>
      have hnext : c.next? = c.climb? := by rw [Cursor.next?, hchild]
      have hstep : step ⟨c, false, stations⟩ = some ⟨c, true, stations ++ [c]⟩ := by
        simp [step, hchild]
      obtain ⟨hclimb, hend⟩ := eval_returning c (stations ++ [c])
      rw [reaches_eval (.single hstep), hnext]
      cases hd : c.climb? with
      | some d =>
        rw [hclimb d hd]
        exact ih d (hnext.trans hd) (stations ++ [c])
      | none => simpa using hend hd

theorem standsIn_step {root : Node} {t u : Tour} (h : t.cursor.StandsIn root)
    (hu : t.step = some u) : u.cursor.StandsIn root := by
  unfold Tour.step at hu
  split_ifs at hu
  · split at hu
    · rename_i d hd
      rw [← Option.some.inj hu]
      exact h.nextSibling? hd
    · obtain ⟨d, hd, rfl⟩ := Option.map_eq_some_iff.mp hu
      exact h.parent? hd
  · split at hu
    · rename_i d hd
      rw [← Option.some.inj hu]
      exact h.firstChild? hd
    · rw [← Option.some.inj hu]
      exact h

/-- No move leads out of the tree. -/
theorem standsIn_of_reaches {root : Node} {t : Tour} (h : Reaches step (start root) t) :
    t.cursor.StandsIn root := by
  induction h with
  | refl => exact .root
  | tail _ hstep ih => exact standsIn_step ih hstep

end Tour

/-- The stations list a tree: they stand at its positions, at each of them once, and their nodes
come in preorder. -/
structure Lists (root : Node) (stations : List Cursor) : Prop where
  stands : ∀ c ∈ stations, root.at? c.position = some c.focus ∧
    c.parentKind? = root.parentKindAt none c.position
  once : (stations.map Cursor.position).Nodup
  complete : ∀ p n, root.at? p = some n → p ∈ stations.map Cursor.position
  ordered : stations.map Cursor.focus = root.preorder

theorem map_position_walk (root : Node) :
    (Cursor.ofRoot root).walk.map Cursor.position = (root.sites [] none).map Site.position := by
  rw [← Cursor.walk_site_ofRoot, List.map_map]
  rfl

theorem lists_walk (root : Node) : Lists root (Cursor.ofRoot root).walk where
  stands c hc := by
    have hsite : c.site ∈ root.sites [] none :=
      Cursor.walk_site_ofRoot root ▸ List.mem_map_of_mem hc
    exact Node.mem_sites_root.mp hsite
  once := map_position_walk root ▸ Node.sites_nodup [] none root
  complete p n hn := by
    have hsite : ⟨p, root.parentKindAt none p, n⟩ ∈ root.sites [] none :=
      Node.mem_sites_root.mpr ⟨hn, rfl⟩
    exact map_position_walk root ▸ List.mem_map_of_mem hsite
  ordered := by
    rw [← Node.map_node_sites, ← Cursor.walk_site_ofRoot, List.map_map]
    rfl

end Syntax

open Syntax

/-- The tags of a tree without errors are those of its stations, one station after the other. -/
theorem extractTree_of_lists {root : Node} (h : root.hasError = false) (file : String) :
    extractTree root file = .ok ⟨file, (Cursor.ofRoot root).walk.flatMap fun c =>
      (Extract.visit (root.parentKindAt none c.position) c.focus).map (·.tag file)⟩ := by
  rw [extractTree_of_sound h, Extract.mentions, List.map_flatMap]
  congr 2
  apply List.flatMap_congr
  intro c hc
  rw [((lists_walk root).stands c hc).2]

/-- A tour of a tree ends. It stands in the tree at every move and lists the nodes in preorder, each
position once; the tags of the tree are those of the listed nodes, one node after the other. -/
theorem extractTree_preorder (root : Node) :
    ∃ last ∈ StateTransition.eval Tour.step (.start root),
      last.stations = (Cursor.ofRoot root).walk ∧ Lists root last.stations ∧
      (∀ n : Node, n.preorder = n :: n.children.flatMap Node.preorder) ∧
      (∀ t, StateTransition.Reaches Tour.step (.start root) t →
        root.at? t.cursor.position = some t.cursor.focus) ∧
      ∀ file, root.hasError = false →
        extractTree root file = .ok ⟨file, last.stations.flatMap fun c =>
          (Extract.visit (root.parentKindAt none c.position) c.focus).map (·.tag file)⟩ := by
  obtain ⟨last, hlast, hstations⟩ := Tour.eval_entering (.ofRoot root) []
  rw [List.nil_append] at hstations
  refine ⟨last, hlast, hstations, hstations ▸ lists_walk root, Node.preorder_eq, ?_, ?_⟩
  · intro t ht
    exact (Tour.standsIn_of_reaches ht).at?_position.1
  · intro file hsound
    rw [hstations]
    exact extractTree_of_lists hsound file

/-- A script whose last node is the last child of a last child, with tokens that have no name. -/
def sampleNested : Node :=
  .mk { kind := "program" }
    [.mk { kind := "comment" } [],
     .mk { kind := "function_declaration", row := 1 }
      [.mk { kind := "function", row := 1, named := false } [],
       .mk { kind := "identifier", row := 1, text := some (Text.bytesOf "f"),
             field := some "name" } [],
       .mk { kind := "formal_parameters", row := 1, field := some "parameters" }
        [.mk { kind := "(", row := 1, named := false } [],
         .mk { kind := ")", row := 2, named := false } []]]]

theorem extractTree_preorder_sample :
    sampleNested.hasError = false ∧
    ∃ last ∈ StateTransition.eval Tour.step (.start sampleNested),
      last.stations.map (·.focus.kind) = ["program", "comment", "function_declaration", "function",
        "identifier", "formal_parameters", "(", ")"] ∧
      extractTree sampleNested "a.js" = .ok ⟨"a.js", last.stations.flatMap fun c =>
        (Extract.visit (sampleNested.parentKindAt none c.position) c.focus).map
          (·.tag "a.js")⟩ := by
  have hsound : sampleNested.hasError = false := by decide +kernel
  obtain ⟨last, hlast, -, hlists, -, -, htags⟩ := extractTree_preorder sampleNested
  have hkinds : last.stations.map (·.focus.kind) = sampleNested.preorder.map Node.kind := by
    rw [← hlists.ordered, List.map_map]
    rfl
  exact ⟨hsound, last, hlast, hkinds.trans (by decide +kernel), htags "a.js" hsound⟩

end ScriptTags
