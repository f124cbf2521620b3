import ScriptTags.Proofs.Methods
import ScriptTags.Proofs.Syntax.Unwrap

/-!
# Imported bindings

A variable is an import when its value is a call of `require`, or a member of one, or a member of
that, with parentheses around any of them. The extractor removes the outer parentheses first, asks
for a call, and follows the chain of member accesses only when it finds none. The tags that it
gives to imports stand for the declarators whose values are such chains, one to one.
-/

namespace ScriptTags
namespace Extract

open Syntax

/-- A call of `require`, possibly followed by member accesses, with parentheses at any step. -/
inductive ImportChain : Node → Prop
  | call {n callee : Node} (hkind : n.kind = "call_expression")
      (hfunction : n.child? "function" = some callee) (hcallee : callee.kind = "identifier")
      (hname : callee.identifier? = some "require") : ImportChain n
  | group {n c : Node} (hkind : n.kind = "parenthesized_expression")
      (hfirst : n.children.find? (fun c => c.named && c.kind != "comment") = some c)
      (hc : ImportChain c) : ImportChain n
  | member {n c : Node} (hkind : n.kind = "member_expression" ∨ n.kind = "subscript_expression")
      (hobject : n.child? "object" = some c) (hc : ImportChain c) : ImportChain n

theorem isImportCall_iff {n : Node} :
    n.isImportCall = true ↔ n.kind = "call_expression" ∧ ∃ callee,
      n.child? "function" = some callee ∧ callee.kind = "identifier" ∧
        callee.identifier? = some "require" := by
  simp [Node.isImportCall, Option.any_eq_true]

theorem chainStart_of_isImportCall {n : Node} (h : n.isImportCall = true) :
    n.chainStart = some n := by
  have hkind := (isImportCall_iff.mp h).1
  apply Node.chainStart_of_plain
  · simp [Node.isGroup, hkind]
  · simp [Node.isMember, hkind]

theorem importChain_of_chainStart {n m : Node} (h : n.chainStart = some m)
    (hcall : m.isImportCall = true) : ImportChain n := by
  induction n using Node.ind with
  | node head children ih =>
    cases hgroup : (Node.mk head children).isGroup with
    | true =>
      rw [Node.chainStart_of_isGroup hgroup, Option.bind_eq_some_iff] at h
      obtain ⟨c, hfirst, hc⟩ := h
      exact .group (beq_iff_eq.mp hgroup) hfirst (ih c (List.mem_of_find?_eq_some hfirst) hc)
    | false =>
      cases hmember : (Node.mk head children).isMember with
      | true =>
        rw [Node.chainStart_of_isMember hmember, Option.bind_eq_some_iff] at h
        obtain ⟨c, hobject, hc⟩ := h
        refine .member ?_ hobject (ih c (List.mem_of_find?_eq_some hobject) hc)
        simpa [Node.isMember] using hmember
      | false =>
        rw [Node.chainStart_of_plain hgroup hmember, Option.some.injEq] at h
        subst h
        obtain ⟨hkind, callee, hfunction, hcallee, hname⟩ := isImportCall_iff.mp hcall
        exact .call hkind hfunction hcallee hname

/-- The chains are the nodes from which the search ends at a call of `require`. -/
theorem importChain_iff {n : Node} :
    ImportChain n ↔ n.chainStart.any Node.isImportCall = true := by
  rw [Option.any_eq_true]
  constructor
  · intro h
    induction h with
    | call hkind hfunction hcallee hname =>
      have hcall := isImportCall_iff.mpr ⟨hkind, _, hfunction, hcallee, hname⟩
      exact ⟨_, chainStart_of_isImportCall hcall, hcall⟩
    | group hkind hfirst _ ih =>
      rw [Node.chainStart_of_isGroup (beq_iff_eq.mpr hkind)]
      exact (show _ = some _ from hfirst) ▸ ih
    | member hkind hobject _ ih =>
      rw [Node.chainStart_of_isMember (by simpa [Node.isMember] using hkind), hobject]
      exact ih
  · rintro ⟨m, hm, hcall⟩
    exact importChain_of_chainStart hm hcall

/-- The declarator binds a name to an imported value. -/
structure BindsImport (n : Node) (name : String) : Prop where
  name : Spells n "name" name
  value : ∃ value, n.child? "value" = some value ∧ ImportChain value

/-- The two tests of a binding, direct call and chain of member accesses, are one test on the value
without its outer parentheses. -/
theorem isImport_iff {value inner : Node} (h : value.ungroup = some inner) :
    (inner.isImportCall = true ∨
      inner.isMember = true ∧ inner.chainStart.any Node.isImportCall = true) ↔
      ImportChain value := by
  have hstart : value.chainStart = inner.chainStart := by
    rw [← Node.chainStart_ungroup value, h, Option.bind_some]
  rw [importChain_iff, hstart]
  constructor
  · rintro (hcall | ⟨-, hchain⟩)
    · rw [chainStart_of_isImportCall hcall, Option.any_some, hcall]
    · exact hchain
  · intro hchain
    cases hmember : inner.isMember with
    | true => exact .inr ⟨rfl, hchain⟩
    | false =>
      rw [Node.chainStart_of_plain (Node.isGroup_of_ungroup h) hmember, Option.any_some] at hchain
      exact .inl hchain

theorem ImportChain.exists_ungroup {value : Node} (h : ImportChain value) :
    ∃ inner, value.ungroup = some inner := by
  cases hinner : value.ungroup with
  | some inner => exact ⟨inner, rfl⟩
  | none =>
    rw [importChain_iff, ← Node.chainStart_ungroup, hinner] at h
    simp at h

theorem binding_of_bindsImport {n : Node} {name : String} (h : BindsImport n name) :
    binding n = [⟨name, name, .importBinding, n.row⟩] := by
  obtain ⟨⟨id, hid, hname⟩, value, hvalue, hchain⟩ := h
  obtain ⟨inner, hinner⟩ := hchain.exists_ungroup
  unfold binding
  rw [hvalue, Option.bind_some, hinner, hid, Option.bind_some, hname]
  rcases (isImport_iff hinner).mpr hchain with hcall | ⟨hmember, hstart⟩
  · simp [hcall]
  · simp [hmember, hstart]

theorem kind_of_mem_methods {owner : String} {object : Node} {m : Mention}
    (h : m ∈ methods owner object) : m.kind = .method := by
  rw [← filter_methods] at h
  simpa using (List.mem_filter.mp h).2

theorem bindsImport_of_mem_binding {n : Node} {m : Mention} (h : m ∈ binding n)
    (hkind : m.kind = .importBinding) : BindsImport n m.name := by
  unfold binding at h
  split at h
  · rename_i inner name hvalue hname
    obtain ⟨value, hvalue, hinner⟩ := Option.bind_eq_some_iff.mp hvalue
    have hbinds (hchain : ImportChain value) : BindsImport n name :=
      ⟨Option.bind_eq_some_iff.mp hname, value, hvalue, hchain⟩
    split_ifs at h with hcall hmember hstart hassignment
    · rw [List.mem_singleton.mp h]
      exact hbinds ((isImport_iff hinner).mp (.inl hcall))
    · rw [List.mem_singleton.mp h]
      exact hbinds ((isImport_iff hinner).mp (.inr ⟨hmember, hstart⟩))
    · simp at h
    · split at h
      · rw [kind_of_mem_methods h] at hkind
        simp at hkind
      · simp at h
    · simp at h
  · simp at h

theorem kind_of_mem_visit {parentKind : Option String} {n : Node} {m : Mention}
    (h : m ∈ visit parentKind n) (hkind : m.kind = .importBinding) :
    n.kind = "variable_declarator" ∧ m ∈ binding n := by
  unfold visit at h
  split_ifs at h with hdeclarator
  · exact ⟨beq_iff_eq.mp hdeclarator, h⟩
  · unfold declaration at h
    split at h
    · rw [List.mem_singleton.mp h] at hkind
      dsimp only at hkind
      split_ifs at hkind
    · simp at h
  · unfold prototypeAssignment at h
    split_ifs at h
    · split at h
      · rw [kind_of_mem_methods h] at hkind
        simp at hkind
      · simp at h
    · simp at h
  · simp at h

/-- The declarator at a position binds a name to an imported value. -/
def ImportAt (root : Node) (p : Position) (n : Node) (name : String) : Prop :=
  root.at? p = some n ∧ n.kind = "variable_declarator" ∧ BindsImport n name

/-- One station of the walk mentions an import if it is a declarator of one, and then only that. -/
theorem visit_enumerates_imports {root n : Node} {p : Position} (hn : root.at? p = some n) :
    Enumerates (fun q m => q = p ∧ ∃ name, ImportAt root p n name ∧
        m = ⟨name, name, .importBinding, n.row⟩)
      ((visit (root.parentKindAt none p) n).filter (·.kind = .importBinding)) := by
  by_cases himport : n.kind = "variable_declarator" ∧ ∃ name, BindsImport n name
  · obtain ⟨hkind, name, hbinds⟩ := himport
    have hvisit : visit (root.parentKindAt none p) n =
        [⟨name, name, .importBinding, n.row⟩] := by
      rw [visit, hkind]
      exact binding_of_bindsImport hbinds
    rw [hvisit]
    exact .singleton ⟨rfl, name, ⟨hn, hkind, hbinds⟩, rfl⟩ fun _ _ hother => hother.1
  · have hnone : (visit (root.parentKindAt none p) n).filter (·.kind = .importBinding) = [] := by
      rw [List.filter_eq_nil_iff]
      intro m hm hkind
      have himportKind : m.kind = .importBinding := by simpa using hkind
      obtain ⟨hdeclarator, hm⟩ := kind_of_mem_visit hm himportKind
      exact himport ⟨hdeclarator, m.name, bindsImport_of_mem_binding hm himportKind⟩
    rw [hnone]
    apply Enumerates.nil
    rintro q m ⟨-, name, ⟨-, hkind, hbinds⟩, -⟩
    exact himport ⟨hkind, name, hbinds⟩

/-- The whole walk: the mentions of imports stand for the declarators of imports. -/
theorem mentions_enumerates_imports (root : Node) :
    Enumerates (fun p m => ∃ n name, ImportAt root p n name ∧
        m = ⟨name, name, .importBinding, n.row⟩)
      ((mentions root).filter (·.kind = .importBinding)) := by
  refine (mentions_enumerates_of_visit (R := fun d n q m => q = d ∧ ∃ name,
    ImportAt root d n name ∧ m = ⟨name, name, .importBinding, n.row⟩)
    (fun d n hn => visit_enumerates_imports hn)
    fun _ _ _ _ _ _ _ hm hm' => hm.1.symm.trans hm'.1).congr ?_
  intro p m
  constructor
  · rintro ⟨d, n, -, rfl, name, himport, rfl⟩
    exact ⟨n, name, himport, rfl⟩
  · rintro ⟨n, name, himport, rfl⟩
    exact ⟨p, n, himport.1, rfl, name, himport, rfl⟩

end Extract

open Extract Syntax

def importTag (file : String) (n : Node) (name : String) : Tag where
  name := name
  file := file
  address := address n.line name
  kind := .importBinding
  lineno := n.line

/-- The import tags of a tree without errors stand one to one for the declarators whose values are
such chains. A declarator of an import gives its own tag and no other, and any other declarator
gives no import tag. -/
theorem extractTree_imports {root : Node} (h : root.hasError = false) (file : String) :
    (∃ tags, extractTree root file = .ok ⟨file, tags⟩ ∧
      Enumerates (fun p tag => ∃ n name, ImportAt root p n name ∧ tag = importTag file n name)
        (tags.filter (·.kind = .importBinding))) ∧
    ∀ p n, root.at? p = some n → n.kind = "variable_declarator" →
      ∃ emitted, Mention.toTags file (visit (root.parentKindAt none p) n) = .ok emitted ∧
        ((∃ tag ∈ emitted, tag.kind = .importBinding) ↔ ∃ name, BindsImport n name) ∧
        ∀ name, BindsImport n name → emitted = [importTag file n name] := by
  constructor
  · refine ⟨(mentions root).map (·.tag file), extractTree_of_sound h file, ?_⟩
    have hfilter : ((mentions root).map (·.tag file)).filter (·.kind = .importBinding) =
        ((mentions root).filter (·.kind = .importBinding)).map (·.tag file) := by
      rw [List.filter_map]
      rfl
    rw [hfilter]
    refine ((mentions_enumerates_imports root).mapEntries _).congr fun p tag => ?_
    constructor
    · rintro ⟨-, ⟨n, name, himport, rfl⟩, rfl⟩
      exact ⟨n, name, himport, rfl⟩
    · rintro ⟨n, name, himport, rfl⟩
      exact ⟨_, ⟨n, name, himport, rfl⟩, rfl⟩
  · intro p n _ hkind
    have hvisit : visit (root.parentKindAt none p) n = binding n := by
      rw [visit, hkind]
      rfl
    rw [hvisit]
    refine ⟨(binding n).map (·.tag file),
      Mention.toTags_of_named file fun m hm => binding_named hm, ?_, ?_⟩
    · constructor
      · rintro ⟨tag, htag, hkind⟩
        obtain ⟨m, hm, rfl⟩ := List.mem_map.mp htag
        exact ⟨m.name, bindsImport_of_mem_binding hm hkind⟩
      · rintro ⟨name, hbinds⟩
        rw [binding_of_bindsImport hbinds]
        exact ⟨_, List.mem_singleton_self _, rfl⟩
    · intro name hbinds
      rw [binding_of_bindsImport hbinds]
      rfl

/-- The declarator `a = (/* */ require(…)[0]).b` on the third line. -/
def sampleImport : Node :=
  .mk { kind := "variable_declarator", row := 2 } [sampleName "name" "a",
    sampleMember (some "value") (sampleGroup (some "object") [sampleBracket "(", sampleComment true,
      .mk { kind := "subscript_expression" } [sampleRequire (some "object")]])]

theorem extractTree_imports_sample :
    (Node.mk { kind := "program" } [sampleImport]).hasError = false ∧
      BindsImport sampleImport "a" ∧
      Mention.toTags "a.js" (visit (some "program") sampleImport) =
        .ok [⟨"a", "a.js", "2/\\<a\\>/;\"", .importBinding, 3⟩] := by
  have hcall : ImportChain (sampleRequire (some "object")) :=
    .call rfl rfl rfl (by decide +kernel)
  have hbinds : BindsImport sampleImport "a" :=
    ⟨⟨_, rfl, by decide +kernel⟩, _, rfl,
      .member (.inl rfl) rfl (.group rfl rfl (.member (.inr rfl) rfl hcall))⟩
  have hsound : (Node.mk { kind := "program" } [sampleImport]).hasError = false := by decide
  obtain ⟨emitted, hemitted, -, htag⟩ :=
    (extractTree_imports hsound "a.js").2 [0] sampleImport rfl rfl
  refine ⟨hsound, hbinds, hemitted.trans ?_⟩
  rw [htag "a" hbinds]
  decide +kernel

end ScriptTags
