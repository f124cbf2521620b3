import Mathlib.Data.List.Basic
import Mathlib.Data.List.Nodup
import ScriptTags.Proofs.Syntax.Walk

/-!
# Positions in a tree

Equal nodes may stand at several places of a tree, so a node is told apart from others by its
position: the numbers of the children to go down to. The walk over a tree visits every position
once. Grouping parentheses are looked through on the way down from a node, and the nearest node
above that is no group is the only one that can reach a position in this way.
-/

namespace ScriptTags
namespace Syntax

/-- The numbers of the children on the way down from a node. -/
abbrev Position := List ℕ

/-- A node at its position, with the kind of its parent. -/
structure Site where
  position : Position
  parentKind : Option String
  node : Node

namespace Node

/-- The node at a position below this one. -/
def at? (n : Node) : Position → Option Node
  | [] => some n
  | i :: rest => n.children[i]?.bind fun c => c.at? rest

/-- The kind of the parent of the node at a position; the parent of this node is given. -/
def parentKindAt (parentKind : Option String) (n : Node) : Position → Option String
  | [] => parentKind
  | i :: rest => n.children[i]?.bind fun c => c.parentKindAt (some n.kind) rest

mutual

/-- The sites of a tree in preorder. -/
def sites (position : Position) (parentKind : Option String) : Node → List Site
  | .mk head children =>
    ⟨position, parentKind, .mk head children⟩ :: sitesAll position head.kind 0 children

/-- The sites of several trees below one parent, from the `i`-th child on. -/
def sitesAll (position : Position) (parentKind : String) (i : ℕ) : List Node → List Site
  | [] => []
  | n :: rest =>
    n.sites (position ++ [i]) (some parentKind) ++ sitesAll position parentKind (i + 1) rest

end

theorem at?_append (n : Node) (p q : Position) :
    n.at? (p ++ q) = (n.at? p).bind fun m => m.at? q := by
  induction p generalizing n with
  | nil => rfl
  | cons i p ih =>
    rw [List.cons_append, at?, at?, Option.bind_assoc]
    simp only [ih]

theorem at?_child {n m : Node} {p : Position} (h : n.at? p = some m) (i : ℕ) :
    n.at? (p ++ [i]) = m.children[i]? := by
  rw [at?_append, h]
  simp [at?]

theorem parentKindAt_child {n m : Node} {p : Position} (h : n.at? p = some m)
    (parentKind : Option String) {i : ℕ} {c : Node} (hc : m.children[i]? = some c) :
    n.parentKindAt parentKind (p ++ [i]) = some m.kind := by
  induction p generalizing n parentKind with
  | nil =>
    rw [at?, Option.some.injEq] at h
    subst h
    simp [parentKindAt, hc]
  | cons j p ih =>
    rw [at?, Option.bind_eq_some_iff] at h
    obtain ⟨k, hk, h⟩ := h
    rw [List.cons_append, parentKindAt, hk]
    exact ih h (some n.kind)

mutual

theorem sites_stations (position : Position) (parentKind : Option String) : (n : Node) →
    (n.sites position parentKind).map (fun s => (s.parentKind, s.node)) = n.visits parentKind
  | .mk head children => by
    rw [sites, visits, List.map_cons, sitesAll_stations]

theorem sitesAll_stations (position : Position) (parentKind : String) (i : ℕ) :
    (ns : List Node) → (sitesAll position parentKind i ns).map (fun s => (s.parentKind, s.node)) =
      visitsAll parentKind ns
  | [] => rfl
  | n :: rest => by
    rw [sitesAll, visitsAll, List.map_append, sites_stations, sitesAll_stations]

end

mutual

theorem mem_sites {position : Position} {parentKind : Option String} {s : Site} : (n : Node) →
    (s ∈ n.sites position parentKind ↔ ∃ q, s.position = position ++ q ∧
      n.at? q = some s.node ∧ s.parentKind = n.parentKindAt parentKind q)
  | .mk head children => by
    rw [sites, List.mem_cons, mem_sitesAll]
    constructor
    · rintro (rfl | ⟨j, q, c, hc, hposition, hat, hparent⟩)
      · exact ⟨[], by simp, rfl, rfl⟩
      · refine ⟨j :: q, by simpa using hposition, ?_, ?_⟩
        · simp [at?, hc, hat]
        · simp [parentKindAt, hc, hparent, kind]
    · rintro ⟨q, hposition, hat, hparent⟩
      cases q with
      | nil =>
        left
        obtain ⟨p, k, m⟩ := s
        simp_all [at?, parentKindAt]
      | cons j q =>
        right
        rw [at?, Option.bind_eq_some_iff] at hat
        obtain ⟨c, hc, hat⟩ := hat
        refine ⟨j, q, c, hc, by simpa using hposition, hat, ?_⟩
        simpa [parentKindAt, kind, show children[j]? = some c from hc] using hparent

theorem mem_sitesAll {position : Position} {parentKind : String} {i : ℕ} {s : Site} :
    (ns : List Node) → (s ∈ sitesAll position parentKind i ns ↔
      ∃ j q c, ns[j]? = some c ∧ s.position = position ++ (i + j) :: q ∧
        c.at? q = some s.node ∧ s.parentKind = c.parentKindAt (some parentKind) q)
  | [] => by simp [sitesAll]
  | n :: rest => by
    rw [sitesAll, List.mem_append, mem_sites, mem_sitesAll]
    constructor
    · rintro (⟨q, hposition, hat, hparent⟩ | ⟨j, q, c, hc, hposition, hat, hparent⟩)
      · exact ⟨0, q, n, rfl, by simpa using hposition, hat, hparent⟩
      · exact ⟨j + 1, q, c, by simpa using hc, by rw [hposition]; congr 2; omega, hat, hparent⟩
    · rintro ⟨j, q, c, hc, hposition, hat, hparent⟩
      cases j with
      | zero =>
        left
        rw [List.getElem?_cons_zero, Option.some.injEq] at hc
        subst hc
        exact ⟨q, by simpa using hposition, hat, hparent⟩
      | succ j =>
        right
        refine ⟨j, q, c, by simpa using hc, ?_, hat, hparent⟩
        rw [hposition]
        congr 2
        omega

end

mutual

theorem sites_nodup (position : Position) (parentKind : Option String) : (n : Node) →
    ((n.sites position parentKind).map Site.position).Nodup
  | .mk head children => by
    rw [sites, List.map_cons, List.nodup_cons]
    refine ⟨?_, sitesAll_nodup position head.kind 0 children⟩
    rw [List.mem_map]
    rintro ⟨s, hs, hposition⟩
    obtain ⟨j, q, c, -, heq, -⟩ := (mem_sitesAll children).mp hs
    simp [heq] at hposition

theorem sitesAll_nodup (position : Position) (parentKind : String) (i : ℕ) :
    (ns : List Node) → ((sitesAll position parentKind i ns).map Site.position).Nodup
  | [] => by simp [sitesAll]
  | n :: rest => by
    rw [sitesAll, List.map_append]
    refine (sites_nodup _ _ n).append (sitesAll_nodup _ _ _ rest) ?_
    -- The first tree lies below the `i`-th child and the others below later ones.
    rw [List.disjoint_left]
    intro p hp hrest
    obtain ⟨s, hs, rfl⟩ := List.mem_map.mp hp
    obtain ⟨t, ht, heq⟩ := List.mem_map.mp hrest
    obtain ⟨q, hq, -⟩ := (mem_sites n).mp hs
    obtain ⟨j, q', c, -, hq', -⟩ := (mem_sitesAll rest).mp ht
    rw [hq, hq', List.append_assoc, List.append_cancel_left_eq] at heq
    simp only [List.cons_append, List.nil_append, List.cons.injEq] at heq
    omega

end

theorem mem_sites_root {root : Node} {s : Site} :
    s ∈ root.sites [] none ↔
      root.at? s.position = some s.node ∧ s.parentKind = root.parentKindAt none s.position := by
  rw [mem_sites]
  constructor
  · rintro ⟨q, hq, hat, hparent⟩
    rw [List.nil_append] at hq
    exact ⟨hq ▸ hat, hq ▸ hparent⟩
  · rintro ⟨hat, hparent⟩
    exact ⟨s.position, rfl, hat, hparent⟩

theorem parentKindAt_eq_some {root : Node} {p : Position} {n : Node} (hn : root.at? p = some n)
    {kind : String} : root.parentKindAt none p = some kind ↔
      ∃ q i m, p = q ++ [i] ∧ root.at? q = some m ∧ m.kind = kind := by
  constructor
  · intro h
    rcases List.eq_nil_or_concat p with rfl | ⟨q, i, rfl⟩
    · simp [parentKindAt] at h
    · rw [List.concat_eq_append] at *
      rw [at?_append, Option.bind_eq_some_iff] at hn
      obtain ⟨m, hm, hchild⟩ := hn
      have hc : m.children[i]? = some n := by simpa [at?] using hchild
      rw [parentKindAt_child hm none hc, Option.some.injEq] at h
      exact ⟨q, i, m, rfl, hm, h⟩
  · rintro ⟨q, i, m, rfl, hm, rfl⟩
    rw [at?_child hm] at hn
    exact parentKindAt_child hm none hn

/-! ### The way through grouping parentheses -/

mutual

/-- The way down from a node to the expression inside its grouping parentheses. -/
def ungroupPath : Node → Option Position
  | .mk head children =>
    if head.kind == "parenthesized_expression" then ungroupFirstPath 0 children else some []

/-- The way into the first child that a group may hold, from the `i`-th on. -/
def ungroupFirstPath (i : ℕ) : List Node → Option Position
  | [] => none
  | n :: rest =>
    if n.isContent then n.ungroupPath.map (i :: ·) else ungroupFirstPath (i + 1) rest

end

mutual

theorem at?_ungroupPath : (n : Node) → (n.ungroupPath.bind fun r => n.at? r) = n.ungroup
  | .mk head children => by
    rw [ungroupPath, ungroup]
    split
    · exact at?_ungroupFirstPath head [] children
    · rfl

theorem at?_ungroupFirstPath (head : Head) (before : List Node) : (ns : List Node) →
    ((ungroupFirstPath before.length ns).bind fun r =>
      (Node.mk head (before ++ ns)).at? r) = ungroupFirst ns
  | [] => rfl
  | n :: rest => by
    rw [ungroupFirstPath, ungroupFirst]
    split
    · rw [Option.bind_map, ← at?_ungroupPath n]
      congr 1
      funext r
      simp [at?]
    · have h := at?_ungroupFirstPath head (before ++ [n]) rest
      simpa using h

end

theorem ungroupFirstPath_eq_some {i : ℕ} {ns : List Node} {r : Position}
    (h : ungroupFirstPath i ns = some r) :
    ∃ j c r', ns[j]? = some c ∧ c.ungroupPath = some r' ∧ r = (i + j) :: r' := by
  induction ns generalizing i with
  | nil => simp [ungroupFirstPath] at h
  | cons n rest ih =>
    rw [ungroupFirstPath] at h
    split at h
    · obtain ⟨r', hr', rfl⟩ := Option.map_eq_some_iff.mp h
      exact ⟨0, n, r', rfl, hr', rfl⟩
    · obtain ⟨j, c, r', hc, hr', rfl⟩ := ih h
      exact ⟨j + 1, c, r', by simpa using hc, hr', by congr 1; omega⟩

/-- A way either ends at once, at a node that is no group, or goes on from a child of a group. -/
theorem ungroupPath_cases {n : Node} {r : Position} (h : n.ungroupPath = some r) :
    (n.isGroup = false ∧ r = []) ∨
      n.isGroup = true ∧ ∃ i c r', n.children[i]? = some c ∧ c.ungroupPath = some r' ∧
        r = i :: r' := by
  obtain ⟨head, children⟩ := n
  rw [ungroupPath] at h
  split at h
  · rename_i hkind
    obtain ⟨j, c, r', hc, hr', rfl⟩ := ungroupFirstPath_eq_some h
    exact .inr ⟨hkind, j, c, r', hc, hr', by simp⟩
  · rename_i hkind
    exact .inl ⟨Bool.eq_false_iff.mpr hkind, (Option.some.inj h).symm⟩

theorem isGroup_of_ungroupPath {n : Node} {q q' : Position} {i : ℕ}
    (h : n.ungroupPath = some (q ++ i :: q')) : ∃ g, n.at? q = some g ∧ g.isGroup = true := by
  induction q generalizing n with
  | nil =>
    obtain ⟨-, hnil⟩ | ⟨hgroup, -⟩ := ungroupPath_cases h
    · simp at hnil
    · exact ⟨n, rfl, hgroup⟩
  | cons j q ih =>
    obtain ⟨-, hnil⟩ | ⟨-, k, c, r', hc, hr', heq⟩ := ungroupPath_cases h
    · simp at hnil
    · simp only [List.cons_append, List.cons.injEq] at heq
      obtain ⟨rfl, rfl⟩ := heq
      obtain ⟨g, hg, hgroup⟩ := ih hr'
      exact ⟨g, by simp [at?, hc, hg], hgroup⟩

theorem ungroupPath_of_not_isGroup {n : Node} (h : n.isGroup = false) :
    n.ungroupPath = some [] := by
  obtain ⟨head, children⟩ := n
  rw [ungroupPath]
  exact if_neg (Bool.eq_false_iff.mp h)

end Node

/-- The node at `p` is no group, and the node at `q` is reached from one of its children by passing
groups only. -/
def Holds (root : Node) (p q : Position) : Prop :=
  ∃ n i c r, root.at? p = some n ∧ n.isGroup = false ∧ n.children[i]? = some c ∧
    c.ungroupPath = some r ∧ q = p ++ i :: r

/-- The node at `q` is the expression inside the grouping parentheses of a field of the node at
`p`. -/
def Leads (root : Node) (p : Position) (field : String) (q : Position) : Prop :=
  ∃ n i c r, root.at? p = some n ∧ n.children.findIdx? (·.field == some field) = some i ∧
    n.children[i]? = some c ∧ c.ungroupPath = some r ∧ q = p ++ i :: r

variable {root : Node} {p p' q q' : Position} {field : String}

theorem Holds.eq_of_append {x : Position} (h : Holds root p q) (h' : Holds root (p ++ x) q) :
    x = [] := by
  obtain ⟨n, i, c, r, hn, -, hc, hr, rfl⟩ := h
  obtain ⟨n', i', c', r', hn', hplain, -, -, heq⟩ := h'
  rw [List.append_assoc, List.append_cancel_left_eq] at heq
  cases x with
  | nil => rfl
  | cons j x =>
    simp only [List.cons_append, List.cons.injEq] at heq
    obtain ⟨rfl, rfl⟩ := heq
    obtain ⟨g, hg, hgroup⟩ := Node.isGroup_of_ungroupPath hr
    rw [Node.at?_append, hn, Option.bind_some, Node.at?, hc, Option.bind_some, hg,
      Option.some.injEq] at hn'
    rw [hn', hplain] at hgroup
    simp at hgroup

/-- Only the nearest node above that is no group holds a position. -/
theorem Holds.unique (h : Holds root p q) (h' : Holds root p' q) : p = p' := by
  have heq : ∃ x y, p ++ x = q ∧ p' ++ y = q := by
    obtain ⟨-, i, -, r, -, -, -, -, rfl⟩ := h
    obtain ⟨-, i', -, r', -, -, -, -, heq⟩ := h'
    exact ⟨i :: r, i' :: r', rfl, heq.symm⟩
  obtain ⟨x, y, hx, hy⟩ := heq
  rcases List.append_eq_append_iff.mp (hx.trans hy.symm) with ⟨z, rfl, -⟩ | ⟨z, rfl, -⟩
  · rw [h.eq_of_append h', List.append_nil]
  · rw [h'.eq_of_append h, List.append_nil]

theorem Leads.holds (h : Leads root p field q) {n : Node} (hn : root.at? p = some n)
    (hplain : n.isGroup = false) : Holds root p q := by
  obtain ⟨m, i, c, r, hm, -, hc, hr, hq⟩ := h
  obtain rfl : n = m := Option.some.inj (hn.symm.trans hm)
  exact ⟨n, i, c, r, hn, hplain, hc, hr, hq⟩

theorem holds_child {n c : Node} {i : ℕ} (hn : root.at? p = some n) (hplain : n.isGroup = false)
    (hc : root.at? (p ++ [i]) = some c) (hc' : c.isGroup = false) : Holds root p (p ++ [i]) := by
  rw [Node.at?_child hn] at hc
  exact ⟨n, i, c, [], hn, hplain, hc, Node.ungroupPath_of_not_isGroup hc', rfl⟩

theorem Leads.unique (h : Leads root p field q) (h' : Leads root p field q') : q = q' := by
  obtain ⟨n, i, c, r, hn, hi, hc, hr, rfl⟩ := h
  obtain ⟨n', i', c', r', hn', hi', hc', hr', rfl⟩ := h'
  obtain rfl : n = n' := Option.some.inj (hn.symm.trans hn')
  obtain rfl : i = i' := Option.some.inj (hi.symm.trans hi')
  obtain rfl : c = c' := Option.some.inj (hc.symm.trans hc')
  obtain rfl : r = r' := Option.some.inj (hr.symm.trans hr')
  rfl

theorem Node.child?_eq_getElem? (n : Node) (field : String) :
    n.child? field =
      (n.children.findIdx? (·.field == some field)).bind fun i => n.children[i]? := by
  rw [child?]
  induction n.children with
  | nil => rfl
  | cons c rest ih =>
    rw [List.find?_cons, List.findIdx?_cons]
    split
    · rename_i hfield
      simp [hfield]
    · rename_i hfield
      rw [ih, hfield]
      cases rest.findIdx? (·.field == some field) <;> simp

theorem ungroup_child? {n m : Node} (hn : root.at? p = some n) :
    (n.child? field).bind Node.ungroup = some m ↔
      ∃ q, Leads root p field q ∧ root.at? q = some m := by
  simp only [Node.child?_eq_getElem?, Option.bind_eq_some_iff, ← Node.at?_ungroupPath]
  have hbelow : ∀ {i : ℕ} {c : Node} {r : Position}, n.children[i]? = some c →
      root.at? (p ++ i :: r) = c.at? r := by
    intro i c r hc
    simp [Node.at?_append, hn, Node.at?, hc]
  constructor
  · rintro ⟨c, ⟨i, hi, hc⟩, r, hr, hm⟩
    exact ⟨p ++ i :: r, ⟨n, i, c, r, hn, hi, hc, hr, rfl⟩, (hbelow hc).trans hm⟩
  · rintro ⟨q, ⟨n', i, c, r, hn', hi, hc, hr, rfl⟩, hm⟩
    obtain rfl : n = n' := Option.some.inj (hn.symm.trans hn')
    exact ⟨c, ⟨i, hi, hc⟩, r, hr, (hbelow hc).symm.trans hm⟩

end Syntax
end ScriptTags
