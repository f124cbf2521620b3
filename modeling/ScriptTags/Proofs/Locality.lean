import ScriptTags.Proofs.Mention
import ScriptTags.Proofs.Syntax.Context

/-!
# Extraction is local

To find what a node mentions, the extractor looks down from it, through parentheses and chains of
member accesses, but it reads the children of nodes of a few kinds only. What stands below any
other node can be replaced without changing what is mentioned elsewhere.
-/

namespace ScriptTags
namespace Syntax

/-- The kinds of nodes whose children are read from above. -/
def inspectedKinds : List String :=
  ["variable_declarator", "function_declaration", "generator_function_declaration",
   "assignment_expression", "parenthesized_expression", "member_expression",
   "subscript_expression", "call_expression", "object", "pair", "method_definition"]

namespace Node

mutual

/-- What can be seen of a tree from above: nothing below a node that is not inspected. -/
def prune : Node → Node
  | .mk head children =>
    .mk head (if inspectedKinds.contains head.kind then pruneAll children else [])

def pruneAll : List Node → List Node
  | [] => []
  | n :: rest => n.prune :: pruneAll rest

end

theorem pruneAll_eq_map (ns : List Node) : pruneAll ns = ns.map prune := by
  induction ns with
  | nil => rfl
  | cons n rest ih => rw [pruneAll, ih, List.map_cons]

@[simp] theorem head_prune (n : Node) : n.prune.head = n.head := by
  cases n
  rfl

@[simp] theorem kind_prune (n : Node) : n.prune.kind = n.kind := by rw [kind, head_prune, kind]
@[simp] theorem row_prune (n : Node) : n.prune.row = n.row := by rw [row, head_prune, row]
@[simp] theorem named_prune (n : Node) : n.prune.named = n.named := by rw [named, head_prune, named]
@[simp] theorem field_prune (n : Node) : n.prune.field = n.field := by rw [field, head_prune, field]

@[simp] theorem identifier?_prune (n : Node) : n.prune.identifier? = n.identifier? := by
  rw [identifier?, identifier?, kind_prune, head_prune]

theorem children_prune {n : Node} (h : n.kind ∈ inspectedKinds) :
    n.prune.children = n.children.map prune := by
  obtain ⟨head, children⟩ := n
  rw [prune, children_mk, children_mk, pruneAll_eq_map]
  exact if_pos (List.elem_eq_true_of_mem h)

theorem child?_prune {n : Node} (h : n.kind ∈ inspectedKinds) (name : String) :
    n.prune.child? name = (n.child? name).map prune := by
  rw [child?, children_prune h, List.find?_map]
  simp only [child?, Function.comp_def, field_prune]

theorem namedChildren_prune {n : Node} (h : n.kind ∈ inspectedKinds) :
    n.prune.namedChildren = n.namedChildren.map prune := by
  rw [namedChildren, children_prune h, List.filter_map]
  simp [namedChildren, Function.comp_def]

mutual

theorem ungroup_prune : (n : Node) → n.prune.ungroup = n.ungroup.map prune
  | .mk head children => by
    by_cases hgroup : head.kind = "parenthesized_expression"
    · have hinspected : inspectedKinds.contains head.kind = true := by
        rw [hgroup]
        decide
      simp only [prune, ungroup, hgroup, beq_self_eq_true, if_true, hgroup ▸ hinspected]
      exact ungroupFirst_pruneAll children
    · simp [prune, ungroup, hgroup]

theorem ungroupFirst_pruneAll : (ns : List Node) →
    ungroupFirst (pruneAll ns) = (ungroupFirst ns).map prune
  | [] => rfl
  | n :: rest => by
    have hcontent : n.prune.isContent = n.isContent := by simp [isContent]
    rw [pruneAll, ungroupFirst, ungroupFirst, hcontent]
    split_ifs
    · exact ungroup_prune n
    · exact ungroupFirst_pruneAll rest

end

mutual

theorem chainStart_prune : (n : Node) → n.prune.chainStart = n.chainStart.map prune
  | .mk head children => by
    by_cases hgroup : head.kind = "parenthesized_expression"
    · have hinspected : inspectedKinds.contains head.kind = true := by
        rw [hgroup]
        decide
      simp only [prune, chainStart, hgroup, beq_self_eq_true, if_true, hgroup ▸ hinspected]
      exact chainStartInGroup_pruneAll children
    · by_cases hmember : head.kind = "member_expression" ∨ head.kind = "subscript_expression"
      · have hinspected : inspectedKinds.contains head.kind = true := by
          rcases hmember with h | h
          all_goals rw [h]; decide
        simp only [prune, chainStart, hinspected, if_true]
        simp only [beq_iff_eq, hgroup, if_false, Bool.or_eq_true, hmember, if_true]
        exact chainStartOfObject_pruneAll children
      · simp [prune, chainStart, hgroup, hmember]

theorem chainStartInGroup_pruneAll : (ns : List Node) →
    chainStartInGroup (pruneAll ns) = (chainStartInGroup ns).map prune
  | [] => rfl
  | n :: rest => by
    have hcontent : n.prune.isContent = n.isContent := by simp [isContent]
    rw [pruneAll, chainStartInGroup, chainStartInGroup, hcontent]
    split_ifs
    · exact chainStart_prune n
    · exact chainStartInGroup_pruneAll rest

theorem chainStartOfObject_pruneAll : (ns : List Node) →
    chainStartOfObject (pruneAll ns) = (chainStartOfObject ns).map prune
  | [] => rfl
  | n :: rest => by
    rw [pruneAll, chainStartOfObject, chainStartOfObject, field_prune]
    split_ifs
    · exact chainStart_prune n
    · exact chainStartOfObject_pruneAll rest

end

@[simp] theorem isImportCall_prune (n : Node) : n.prune.isImportCall = n.isImportCall := by
  by_cases h : n.kind = "call_expression"
  · have hinspected : n.kind ∈ inspectedKinds := by rw [h]; decide
    simp [isImportCall, h, child?_prune hinspected, Option.any_map]
  · have hfalse : (n.kind == "call_expression") = false := beq_false_of_ne h
    simp [isImportCall, hfalse]

@[simp] theorem isMember_prune (n : Node) : n.prune.isMember = n.isMember := by simp [isMember]
@[simp] theorem isObject_prune (n : Node) : n.prune.isObject = n.isObject := by simp [isObject]
@[simp] theorem isFunction_prune (n : Node) : n.prune.isFunction = n.isFunction := by
  simp [isFunction]

end Node
end Syntax

open Syntax

namespace Extract

theorem ungroup_child?_prune {n : Node} (h : n.kind ∈ inspectedKinds) (name : String) :
    (n.prune.child? name).bind Node.ungroup =
      ((n.child? name).bind Node.ungroup).map Node.prune := by
  rw [Node.child?_prune h]
  cases n.child? name with
  | none => rfl
  | some c => exact c.ungroup_prune

theorem identifier?_child?_prune {n : Node} (h : n.kind ∈ inspectedKinds) (name : String) :
    (n.prune.child? name).bind Node.identifier? = (n.child? name).bind Node.identifier? := by
  rw [Node.child?_prune h]
  cases n.child? name with
  | none => rfl
  | some c => exact c.identifier?_prune

theorem isAccessor_prune {method : Node} (h : method.kind ∈ inspectedKinds) :
    isAccessor method.prune = isAccessor method := by
  simp [isAccessor, Node.children_prune h, Function.comp_def]

theorem methodKey?_prune (property : Node) :
    methodKey? property.prune = (methodKey? property).map Node.prune := by
  by_cases hpair : property.kind = "pair"
  · have hinspected : property.kind ∈ inspectedKinds := by rw [hpair]; decide
    have hvalue : ((property.prune.child? "value").bind Node.ungroup).any Node.isFunction =
        ((property.child? "value").bind Node.ungroup).any Node.isFunction := by
      rw [ungroup_child?_prune hinspected, Option.any_map]
      congr
      funext value
      exact value.isFunction_prune
    rw [methodKey?, methodKey?, Node.kind_prune, hvalue, Node.child?_prune hinspected]
    simp only [hpair, beq_self_eq_true, if_true]
    split_ifs <;> rfl
  · by_cases hmethod : property.kind = "method_definition"
    · have hinspected : property.kind ∈ inspectedKinds := by rw [hmethod]; decide
      rw [methodKey?, methodKey?, Node.kind_prune, isAccessor_prune hinspected,
        Node.child?_prune hinspected "name"]
      rw [beq_false_of_ne hpair, hmethod, beq_self_eq_true]
      cases isAccessor property <;> simp
    · simp [methodKey?, hpair, hmethod]

theorem method?_prune (owner : String) (property : Node) :
    method? owner property.prune = method? owner property := by
  rw [method?, methodKey?_prune, method?]
  cases methodKey? property with
  | none => rfl
  | some key => simp

theorem methods_prune (owner : String) {object : Node} (h : object.isObject = true) :
    methods owner object.prune = methods owner object := by
  have hinspected : object.kind ∈ inspectedKinds := by
    rw [beq_iff_eq.mp h]
    decide
  rw [methods, Node.namedChildren_prune hinspected, List.filterMap_map]
  simp only [Function.comp_def, method?_prune]
  rfl

theorem assignedObject?_prune {assignment : Node}
    (h : assignment.kind = "assignment_expression") :
    assignedObject? assignment.prune = (assignedObject? assignment).map Node.prune := by
  have hinspected : assignment.kind ∈ inspectedKinds := by
    rw [h]
    decide
  rw [assignedObject?, ungroup_child?_prune hinspected, assignedObject?]
  cases (assignment.child? "right").bind Node.ungroup with
  | none => rfl
  | some value => cases hobject : value.isObject <;> simp [Option.filter, hobject]

theorem isObject_of_assignedObject? {assignment object : Node}
    (h : assignedObject? assignment = some object) : object.isObject = true :=
  (Option.filter_eq_some_iff.mp h).2

theorem binding_prune {n : Node} (h : n.kind = "variable_declarator") :
    binding n.prune = binding n := by
  have hinspected : n.kind ∈ inspectedKinds := by rw [h]; decide
  rw [binding, ungroup_child?_prune hinspected, identifier?_child?_prune hinspected, Node.row_prune,
    binding]
  cases (n.child? "value").bind Node.ungroup with
  | none => rfl
  | some value =>
    cases (n.child? "name").bind Node.identifier? with
    | none => rfl
    | some name =>
      have hchain : value.prune.chainStart.any Node.isImportCall =
          value.chainStart.any Node.isImportCall := by
        rw [Node.chainStart_prune, Option.any_map]
        simp
      simp only [Option.map_some, Node.isImportCall_prune, Node.isMember_prune, hchain,
        Node.kind_prune]
      by_cases hassignment : value.kind = "assignment_expression"
      · rw [assignedObject?_prune hassignment]
        cases hobject : assignedObject? value with
        | none => rfl
        | some object =>
          simp only [Option.map_some, methods_prune name (isObject_of_assignedObject? hobject)]
      · simp only [beq_iff_eq, hassignment, if_false]

theorem declaration_prune {n : Node} (h : n.kind ∈ inspectedKinds) :
    declaration n.prune = declaration n := by
  rw [declaration, identifier?_child?_prune h, Node.row_prune, declaration]

theorem prototypeOwner?_prune (place : Node) :
    prototypeOwner? place.prune = prototypeOwner? place := by
  by_cases hmember : place.kind = "member_expression"
  · have hinspected : place.kind ∈ inspectedKinds := by rw [hmember]; decide
    rw [prototypeOwner?, identifier?_child?_prune hinspected, identifier?_child?_prune hinspected,
      Node.kind_prune, prototypeOwner?]
  · simp [prototypeOwner?, hmember]

theorem prototypeAssignment_prune (parentKind : Option String) {n : Node}
    (h : n.kind = "assignment_expression") :
    prototypeAssignment parentKind n.prune = prototypeAssignment parentKind n := by
  have hinspected : n.kind ∈ inspectedKinds := by rw [h]; decide
  have howner : (n.prune.child? "left").bind prototypeOwner? =
      (n.child? "left").bind prototypeOwner? := by
    rw [Node.child?_prune hinspected]
    cases n.child? "left" with
    | none => rfl
    | some place => exact prototypeOwner?_prune place
  rw [prototypeAssignment, howner, assignedObject?_prune h, prototypeAssignment]
  split_ifs
  · cases (n.child? "left").bind prototypeOwner? with
    | none => rfl
    | some owner =>
      cases hobject : assignedObject? n with
      | none => rfl
      | some object => exact methods_prune owner (isObject_of_assignedObject? hobject)
  · rfl

/-- What a node mentions can be read off what is seen of it from above. -/
theorem visit_prune (parentKind : Option String) (n : Node) :
    visit parentKind n.prune = visit parentKind n := by
  rw [visit, visit, Node.kind_prune]
  split_ifs with hdeclarator hdeclaration hassignment
  · exact binding_prune (beq_iff_eq.mp hdeclarator)
  · refine declaration_prune ?_
    rw [Bool.or_eq_true, beq_iff_eq, beq_iff_eq] at hdeclaration
    rcases hdeclaration with hkind | hkind
    · rw [hkind]; decide
    · rw [hkind]; decide
  · exact prototypeAssignment_prune parentKind (beq_iff_eq.mp hassignment)
  · rfl

/-- What is put into a hole below a node that is not inspected cannot be seen from above. -/
theorem prune_fill {C : Context} (h : C.holeKind ∉ inspectedKinds) (ts : List Node) :
    (C.fill ts).prune = (C.fill []).prune := by
  induction C with
  | hole head before after =>
    have hhead : head.kind ∉ inspectedKinds := h
    simp [Context.fill, Node.prune, hhead]
  | layer head before inner after ih =>
    simp [Context.fill, Node.prune, Node.pruneAll_eq_map, ih h]

def mentionsBelow (parentKind : String) (n : Node) : List Mention :=
  (n.visits (some parentKind)).flatMap fun v => visit v.1 v.2

theorem flatMap_visitsAll (parentKind : String) (ns : List Node) :
    (Node.visitsAll parentKind ns).flatMap (fun v => visit v.1 v.2) =
      ns.flatMap (mentionsBelow parentKind) := by
  induction ns with
  | nil => rfl
  | cons n rest ih => rw [Node.visitsAll, List.flatMap_append, ih, List.flatMap_cons]; rfl

/-- The mentions of a filled context: those made before the hole is reached, those of the trees in
the hole, and those made afterwards. -/
theorem mentions_fill {C : Context} (h : C.holeKind ∉ inspectedKinds) (parentKind : Option String) :
    ∃ before after, ∀ ts,
      (((C.fill ts).visits parentKind).flatMap fun v => visit v.1 v.2) =
        before ++ ts.flatMap (mentionsBelow C.holeKind) ++ after := by
  induction C generalizing parentKind with
  | hole head left right =>
    refine ⟨visit parentKind ((Context.hole head left right).fill []) ++
      left.flatMap (mentionsBelow head.kind), right.flatMap (mentionsBelow head.kind), ?_⟩
    intro ts
    -- The node itself mentions the same whatever is in the hole.
    rw [← visit_prune, ← prune_fill h ts, visit_prune]
    simp [Context.fill, Node.visits, flatMap_visitsAll, Context.holeKind]
  | layer head left inner right ih =>
    obtain ⟨before, after, hinner⟩ := ih h (some head.kind)
    refine ⟨visit parentKind ((Context.layer head left inner right).fill []) ++
      left.flatMap (mentionsBelow head.kind) ++ before,
      after ++ right.flatMap (mentionsBelow head.kind), ?_⟩
    intro ts
    rw [← visit_prune, ← prune_fill h ts, visit_prune]
    have hbelow := hinner ts
    simp only [Context.fill, Node.visits, List.flatMap_cons, flatMap_visitsAll, List.flatMap_append,
      mentionsBelow, Context.holeKind] at hbelow ⊢
    rw [hbelow]
    simp

def tagsBelow (file parentKind : String) (n : Node) : List Tag :=
  (mentionsBelow parentKind n).map (·.tag file)

theorem map_tag_flatMap_mentionsBelow (file parentKind : String) (ns : List Node) :
    (ns.flatMap (mentionsBelow parentKind)).map (·.tag file) =
      ns.flatMap (tagsBelow file parentKind) := by
  rw [List.map_flatMap]
  rfl

end Extract

/-- What is put below a node that is not inspected adds its own tags, at one place among those of
the rest of the tree, and changes none of them. -/
theorem extractTree_local (file : String) (C : Context) (hkind : C.holeKind ∉ inspectedKinds)
    (hC : (C.fill []).hasError = false) :
    ∃ before after : List Tag,
      (∀ t : Node, t.hasError = false →
        extractTree (C.fill [t]) file =
          .ok ⟨file, before ++ Extract.tagsBelow file C.holeKind t ++ after⟩) ∧
      ∀ ts : List Node, Node.anyError ts = false →
        extractTree (C.fill ts) file =
          .ok ⟨file, before ++ ts.flatMap (Extract.tagsBelow file C.holeKind) ++ after⟩ := by
  obtain ⟨before, after, hmentions⟩ := Extract.mentions_fill hkind none
  have hmany : ∀ ts : List Node, Node.anyError ts = false →
      extractTree (C.fill ts) file =
        .ok ⟨file, before.map (·.tag file) ++ ts.flatMap (Extract.tagsBelow file C.holeKind) ++
          after.map (·.tag file)⟩ := by
    intro ts hts
    rw [extractTree_of_sound ((C.hasError_fill hts).trans hC), Extract.mentions_eq, hmentions ts,
      List.map_append, List.map_append, Extract.map_tag_flatMap_mentionsBelow]
  refine ⟨before.map (·.tag file), after.map (·.tag file), fun t ht => ?_, hmany⟩
  rw [hmany [t] (by rw [Node.anyError, ht]; rfl), List.flatMap_singleton]

namespace Extract

/-- The script `var a = require(…)`, followed on the next line by a function. -/
def sampleContext : Context :=
  .layer { kind := "program" } []
    (.layer { kind := "variable_declarator" } [sampleName "name" "a"]
      (.layer { kind := "call_expression", field := some "value" } [sampleName "function" "require"]
        (.hole { kind := "arguments", field := some "arguments" } [] [])
        [])
      [])
    [.mk { kind := "function_declaration", row := 1 } [sampleName "name" "f"]]

def sampleArgument : Node :=
  .mk { kind := "arrow_function" } [.mk { kind := "function_declaration" } [sampleName "name" "B"]]

end Extract

open Extract in
theorem extractTree_local_sample :
    sampleContext.holeKind ∉ inspectedKinds ∧ (sampleContext.fill []).hasError = false ∧
      sampleArgument.hasError = false ∧
      tagsBelow "a.js" "arguments" sampleArgument =
        [⟨"B", "a.js", "0/\\<B\\>/;\"", .constructor, 1⟩] ∧
      ∃ before after : List Tag,
        extractTree (sampleContext.fill [sampleArgument]) "a.js" =
          .ok ⟨"a.js", before ++ tagsBelow "a.js" "arguments" sampleArgument ++ after⟩ ∧
        extractTree (sampleContext.fill []) "a.js" = .ok ⟨"a.js", before ++ after⟩ := by
  have hkind : sampleContext.holeKind ∉ inspectedKinds := by decide
  have hcontext : (sampleContext.fill []).hasError = false := by decide
  have hargument : sampleArgument.hasError = false := by decide
  obtain ⟨before, after, hone, hmany⟩ := extractTree_local "a.js" sampleContext hkind hcontext
  refine ⟨hkind, hcontext, hargument, by decide +kernel, before, after, hone _ hargument, ?_⟩
  simpa using hmany [] rfl

end ScriptTags
