import ScriptTags.Proofs.Layout.Relaid
import ScriptTags.Proofs.Locality

/-!
# Mentions in a new layout

Every handler of the extractor reads a node through its kind, its fields and its groups, and these
lead to the same nodes in a tree that is laid out anew. So the mentions of the two trees differ in
their rows only.
-/

namespace ScriptTags

/-- The same mention, further down. -/
def Mention.moved (k : ℕ) (m : Mention) : Mention := { m with row := m.row + k }

namespace Extract

open Syntax

variable {k : ℕ} {parentKind : String} {n m : Node} {ns ms : List Node}

/-! ### What the handlers mention -/

theorem Relaid.any_accessor (h : Relaid k parentKind ns ms)
    (hparent : parentKind = "method_definition") :
    (ms.any fun c => !c.named && (c.kind == "get" || c.kind == "set")) =
      ns.any fun c => !c.named && (c.kind == "get" || c.kind == "set") := by
  induction h with
  | nil => rfl
  | insert ht _ ih =>
    rw [List.any_cons, ih hparent, ht.kind (by simp [hparent])]
    simp
  | node _ _ _ _ ih =>
    rw [List.any_cons, List.any_cons, ih hparent]
    rfl
  | group hvalue =>
    rw [hparent] at hvalue
    simp [valueFields] at hvalue

theorem Like.methodKey?_rel (h : Like k n m) :
    Option.Rel (Like k) (methodKey? n) (methodKey? m) := by
  unfold methodKey?
  rw [h.kind]
  by_cases hpair : (n.kind == "pair") = true
  · have hkind : n.kind = "pair" := beq_iff_eq.mp hpair
    have hplain : n.isGroup = false := by simp [Node.isGroup, hkind]
    have hfunction : ((m.child? "value").bind Node.ungroup).any Node.isFunction =
        ((n.child? "value").bind Node.ungroup).any Node.isFunction :=
      rel_any_eq (h.ungroup_child?_rel hplain "value") fun _ _ hlike => hlike.isFunction
    rw [if_pos hpair, if_pos hpair, hfunction]
    split_ifs
    · exact h.child?_rel hplain (by rw [hkind]; decide)
    · exact .none
  · rw [if_neg hpair, if_neg hpair]
    by_cases hmethod : (n.kind == "method_definition") = true
    · have hkind : n.kind = "method_definition" := beq_iff_eq.mp hmethod
      have hplain : n.isGroup = false := by simp [Node.isGroup, hkind]
      have haccessor : isAccessor m = isAccessor n := h.children.any_accessor hkind
      rw [if_pos hmethod, if_pos hmethod, haccessor]
      split_ifs
      · exact .none
      · exact h.child?_rel hplain (by rw [hkind]; decide)
    · rw [if_neg hmethod, if_neg hmethod]
      exact .none

theorem Like.method?_eq (h : Like k n m) (owner : String) :
    method? owner m = (method? owner n).map (Mention.moved k) := by
  unfold method?
  simp only [Option.bind_eq_bind, Option.map_bind]
  refine rel_bind_eq h.methodKey?_rel fun key key' hkey => ?_
  rw [Function.comp_apply, hkey.identifier?, hkey.row]
  cases key.identifier? <;> rfl

theorem Relaid.methods_eq (h : Relaid k parentKind ns ms) (hparent : parentKind = "object")
    (owner : String) :
    (ms.filter (·.named)).filterMap (method? owner) =
      ((ns.filter (·.named)).filterMap (method? owner)).map (Mention.moved k) := by
  induction h with
  | nil => rfl
  | @insert _ t ns ms ht _ ih =>
    -- A comment is no property.
    have hnone : method? owner t = none := by
      have hkind : t.kind = "comment" := ht.kind (by simp [hparent])
      simp [method?, methodKey?, hkind]
    rw [← ih hparent, List.filter_cons]
    split_ifs
    · rw [List.filterMap_cons_none hnone]
    · rfl
  | @node _ head cs cs' _ _ howner hcs _ _ ih =>
    have hlike := like_node howner hcs
    rw [List.filter_cons, List.filter_cons, hlike.named]
    split_ifs
    · rw [List.filterMap_cons, List.filterMap_cons, hlike.method?_eq, ih hparent]
      cases method? owner (.mk head cs) <;> rfl
    · exact ih hparent
  | group hvalue =>
    rw [hparent] at hvalue
    simp [valueFields] at hvalue

theorem Like.methods_eq (h : Like k n m) (hobject : n.isObject = true) (owner : String) :
    methods owner m = (methods owner n).map (Mention.moved k) :=
  h.children.methods_eq (by simpa [Node.isObject] using hobject) owner

theorem Like.assignedObject?_cases (h : Like k n m) (hplain : n.isGroup = false) :
    (assignedObject? n = none ∧ assignedObject? m = none) ∨
      ∃ object object', assignedObject? n = some object ∧ assignedObject? m = some object' ∧
        object.isObject = true ∧ Like k object object' := by
  unfold assignedObject?
  rcases rel_cases (h.ungroup_child?_rel hplain "right") with
    ⟨hn, hm⟩ | ⟨value, value', hn, hm, hlike⟩
  · rw [hn, hm]
    exact .inl ⟨rfl, rfl⟩
  · rw [hn, hm, Option.filter_some, Option.filter_some, hlike.isObject]
    split_ifs with hobject
    · exact .inr ⟨value, value', rfl, rfl, hobject, hlike⟩
    · exact .inl ⟨rfl, rfl⟩

theorem Like.binding_eq (h : Like k n m) (hkind : n.kind = "variable_declarator") :
    binding m = (binding n).map (Mention.moved k) := by
  have hplain : n.isGroup = false := by simp [Node.isGroup, hkind]
  have hname : (n.kind, "name") ∉ valueFields := by
    rw [hkind]
    decide
  unfold binding
  rw [h.identifier?_child? hplain hname, h.row]
  rcases rel_cases (h.ungroup_child?_rel hplain "value") with
    ⟨hn, hm⟩ | ⟨value, value', hn, hm, hlike⟩
  · rw [hn, hm]
    rfl
  · rw [hn, hm]
    cases (n.child? "name").bind Node.identifier? with
    | none => rfl
    | some name =>
      have hstart : value'.chainStart.any Node.isImportCall =
          value.chainStart.any Node.isImportCall :=
        rel_any_eq hlike.chainStart fun _ _ hstart => hstart.isImportCall
      dsimp only
      rw [hlike.isImportCall, hlike.isMember, hlike.kind, hstart]
      split_ifs with hcall hmember hchain hassignment
      · rfl
      · rfl
      · rfl
      · have hvalue : value.isGroup = false := by simp [Node.isGroup, beq_iff_eq.mp hassignment]
        rcases hlike.assignedObject?_cases hvalue with
          ⟨hn, hm⟩ | ⟨object, object', hn, hm, hobject, hlike⟩
        · rw [hn, hm]
          rfl
        · rw [hn, hm]
          exact hlike.methods_eq hobject name
      · rfl

theorem Like.declaration_eq (h : Like k n m) (hplain : n.isGroup = false)
    (hname : (n.kind, "name") ∉ valueFields) :
    declaration m = (declaration n).map (Mention.moved k) := by
  unfold declaration
  rw [h.identifier?_child? hplain hname, h.row]
  cases (n.child? "name").bind Node.identifier? <;> rfl

theorem Like.prototypeAssignment_eq (h : Like k n m) (hkind : n.kind = "assignment_expression")
    (parentKind : Option String) :
    prototypeAssignment parentKind m =
      (prototypeAssignment parentKind n).map (Mention.moved k) := by
  have howner : (m.child? "left").bind prototypeOwner? = (n.child? "left").bind prototypeOwner? :=
    h.owner hkind
  have hplain : n.isGroup = false := by simp [Node.isGroup, hkind]
  unfold prototypeAssignment
  rw [howner]
  split_ifs
  · cases (n.child? "left").bind prototypeOwner? with
    | none => rfl
    | some owner =>
      rcases h.assignedObject?_cases hplain with
        ⟨hn, hm⟩ | ⟨object, object', hn, hm, hobject, hlike⟩
      · rw [hn, hm]
        rfl
      · rw [hn, hm]
        exact hlike.methods_eq hobject owner
  · rfl

/-- A node that is laid out anew mentions what it mentioned before. -/
theorem Like.visit_eq (h : Like k n m) (parentKind : Option String) :
    visit parentKind m = (visit parentKind n).map (Mention.moved k) := by
  unfold visit
  rw [h.kind]
  split_ifs with hdeclarator hdeclaration hassignment
  · exact h.binding_eq (beq_iff_eq.mp hdeclarator)
  · rw [Bool.or_eq_true, beq_iff_eq, beq_iff_eq] at hdeclaration
    rcases hdeclaration with hkind | hkind
    · exact h.declaration_eq (by simp [Node.isGroup, hkind]) (by rw [hkind]; decide)
    · exact h.declaration_eq (by simp [Node.isGroup, hkind]) (by rw [hkind]; decide)
  · exact h.prototypeAssignment_eq (beq_iff_eq.mp hassignment) parentKind
  · rfl

/-! ### The walk -/

theorem mentionsBelow_mk (parentKind : String) (head : Head) (cs : List Node) :
    mentionsBelow parentKind (.mk head cs) =
      visit (some parentKind) (.mk head cs) ++ cs.flatMap (mentionsBelow head.kind) := by
  rw [mentionsBelow, Node.visits, List.flatMap_cons, flatMap_visitsAll]

theorem mentionsBelow_leaf {t : Node} (h : t.children = []) (parentKind : String) :
    mentionsBelow parentKind t = [] := by
  obtain ⟨head, children⟩ := t
  obtain rfl : children = [] := h
  rw [mentionsBelow_mk, List.flatMap_nil, List.append_nil]
  simp [visit, binding, declaration, prototypeAssignment, Node.child?]

/-- Outside of statements a node mentions the same below every parent and under every field. -/
theorem mentionsBelow_bare {parentKind parentKind' : String}
    (h : parentKind ≠ "expression_statement") (h' : parentKind' ≠ "expression_statement")
    (n : Node) : mentionsBelow parentKind' (bare n) = mentionsBelow parentKind n := by
  obtain ⟨head, cs⟩ := n
  have hvisit : visit (some parentKind') (bare (.mk head cs)) =
      visit (some parentKind) (.mk head cs) := by
    simp only [visit, prototypeAssignment, beq_iff_eq, Option.some.injEq, h, h']
    rfl
  rw [bare, mentionsBelow_mk, mentionsBelow_mk, ← hvisit]
  rfl

theorem Relaid.mentions_eq (h : Relaid k parentKind ns ms) :
    ms.flatMap (mentionsBelow parentKind) =
      (ns.flatMap (mentionsBelow parentKind)).map (Mention.moved k) := by
  induction h with
  | nil => rfl
  | insert ht _ ih => rw [List.flatMap_cons, mentionsBelow_leaf ht.leaf, List.nil_append, ih]
  | node howner hcs _ ihcs ih =>
    have hlike := like_node howner hcs
    rw [List.flatMap_cons, List.flatMap_cons, List.map_append, ih, mentionsBelow_mk,
      mentionsBelow_mk, List.map_append, hlike.visit_eq, ihcs]
  | @group parentKind field n head cs ns ms hvalue _ _ hhead _ _ ihinner ih =>
    have hparent : parentKind ≠ "expression_statement" := by
      rintro rfl
      simp [valueFields] at hvalue
    -- The group itself mentions nothing, and the node inside it what it mentioned before.
    have hgroup : visit (some parentKind) (.mk head cs) = [] := by
      simp [visit, Node.kind, hhead.kind]
    rw [List.flatMap_cons, List.flatMap_cons, List.map_append, ih, mentionsBelow_mk, hgroup,
      List.nil_append, ihinner, List.flatMap_singleton,
      mentionsBelow_bare hparent (by rw [hhead.kind]; decide)]

theorem Like.mentions_eq (h : Like k n m) : mentions m = (mentions n).map (Mention.moved k) := by
  have hmentions : ∀ root : Node, mentions root =
      visit none root ++ root.children.flatMap (mentionsBelow root.kind) := by
    rintro ⟨head, children⟩
    rw [Extract.mentions_eq, Node.visits, List.flatMap_cons, flatMap_visitsAll]
    rfl
  rw [hmentions, hmentions, List.map_append, h.visit_eq, h.kind, h.children.mentions_eq]

theorem map_moved_zero (ms : List Mention) : ms.map (Mention.moved 0) = ms :=
  List.map_id ms

end Extract
end ScriptTags
