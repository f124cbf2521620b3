import ScriptTags.Proofs.Imports

/-!
# The anchors of tags

Whatever a tree looks like, each tag found in it stands at a node of the tree: an import at its
declarator, a constructor or function at its declaration, a method at its key. The tag has the line
of this anchor, and its address searches there for the word that the anchor spells. No tag is
refused, since a word is never empty, and the declarations that spell a name have one tag each.
-/

namespace ScriptTags
namespace Extract

open Syntax

def IsDeclaration (n : Node) : Prop :=
  n.kind = "function_declaration" ∨ n.kind = "generator_function_declaration"

/-- A tag of a kind stands at a node of the tree: the name of the tag, and the word that the node
spells. -/
inductive Anchors (root : Node) : Kind → Node → String → String → Prop
  | importBinding {n : Node} {word : String} (hkind : n.kind = "variable_declarator")
      (hword : Spells n "name" word) : Anchors root .importBinding n word word
  | constructor {n : Node} {word : String} (hkind : IsDeclaration n)
      (hword : Spells n "name" word) (hupper : Text.startsUpper word = true) :
      Anchors root .constructor n word word
  | function {n : Node} {word : String} (hkind : IsDeclaration n)
      (hword : Spells n "name" word) (hlower : Text.startsUpper word = false) :
      Anchors root .function n word word
  | method {key : Node} {p : Position} {owner word : String}
      (hmethod : Method root p owner key word) :
      Anchors root .method key (owner ++ "." ++ word) word

/-! ### The tags of declarations -/

/-- The kind of a declared name, by the case of its first character. -/
def declaredKind (name : String) : Kind :=
  if Text.startsUpper name then .constructor else .function

def isDeclared (kind : Kind) : Bool := kind = .constructor ∨ kind = .function

/-- The declaration at a position spells a name. -/
def DeclaredAt (root : Node) (p : Position) (n : Node) (name : String) : Prop :=
  root.at? p = some n ∧ IsDeclaration n ∧ Spells n "name" name

theorem isDeclared_declaredKind (name : String) : isDeclared (declaredKind name) = true := by
  unfold declaredKind
  split_ifs <;> rfl

theorem visit_of_isDeclaration {n : Node} (h : IsDeclaration n) (parentKind : Option String) :
    visit parentKind n = declaration n := by
  rcases h with hkind | hkind <;> simp [visit, hkind]

theorem declaration_of_spells {n : Node} {name : String} (h : Spells n "name" name) :
    declaration n = [⟨name, name, declaredKind name, n.row⟩] := by
  rw [declaration, Option.bind_eq_some_iff.mpr h]
  rfl

theorem declaration_of_not_spells {n : Node} (h : ∀ name, ¬ Spells n "name" name) :
    declaration n = [] := by
  have hnone : (n.child? "name").bind Node.identifier? = none := by
    rw [Option.eq_none_iff_forall_ne_some]
    intro name hname
    exact h name (Option.bind_eq_some_iff.mp hname)
  rw [declaration, hnone]

theorem not_isDeclared_of_mem_binding {n : Node} {m : Mention} (h : m ∈ binding n) :
    isDeclared m.kind = false := by
  unfold binding at h
  split at h
  · split_ifs at h
    · rw [List.mem_singleton.mp h]
      rfl
    · rw [List.mem_singleton.mp h]
      rfl
    · simp at h
    · split at h
      · rw [kind_of_mem_methods h]
        rfl
      · simp at h
    · simp at h
  · simp at h

/-- Only a declaration mentions a name as a constructor or a function. -/
theorem isDeclaration_of_mem_visit {parentKind : Option String} {n : Node} {m : Mention}
    (h : m ∈ visit parentKind n) (hkind : isDeclared m.kind = true) :
    IsDeclaration n ∧ m ∈ declaration n := by
  unfold visit at h
  split_ifs at h with hdeclarator hdeclaration
  · rw [not_isDeclared_of_mem_binding h] at hkind
    contradiction
  · exact ⟨by simpa [IsDeclaration] using hdeclaration, h⟩
  · unfold prototypeAssignment at h
    split_ifs at h
    · split at h
      · rw [kind_of_mem_methods h] at hkind
        contradiction
      · simp at h
    · simp at h
  · simp at h

/-- One station of the walk mentions a declaration if it is one that spells a name, and then only
that. -/
theorem visit_enumerates_declarations {root n : Node} {p : Position} (hn : root.at? p = some n) :
    Enumerates (fun q m => q = p ∧ ∃ name, DeclaredAt root p n name ∧
        m = ⟨name, name, declaredKind name, n.row⟩)
      ((visit (root.parentKindAt none p) n).filter (isDeclared ·.kind)) := by
  by_cases hdeclared : IsDeclaration n ∧ ∃ name, Spells n "name" name
  · obtain ⟨hkind, name, hname⟩ := hdeclared
    rw [visit_of_isDeclaration hkind, declaration_of_spells hname, List.filter_singleton,
      isDeclared_declaredKind]
    exact .singleton ⟨rfl, name, ⟨hn, hkind, hname⟩, rfl⟩ fun _ _ hother => hother.1
  · have hnone : (visit (root.parentKindAt none p) n).filter (isDeclared ·.kind) = [] := by
      rw [List.filter_eq_nil_iff]
      intro m hm hkept
      obtain ⟨hkind, hm⟩ := isDeclaration_of_mem_visit hm hkept
      have hnot : ∀ name, ¬ Spells n "name" name :=
        fun name hname => hdeclared ⟨hkind, name, hname⟩
      rw [declaration_of_not_spells hnot] at hm
      simp at hm
    rw [hnone]
    apply Enumerates.nil
    rintro q m ⟨-, name, ⟨-, hkind, hname⟩, -⟩
    exact hdeclared ⟨hkind, name, hname⟩

/-- The whole walk: its mentions of constructors and functions stand for the declarations that
spell a name. -/
theorem mentions_enumerates_declarations (root : Node) :
    Enumerates (fun p m => ∃ n name, DeclaredAt root p n name ∧
        m = ⟨name, name, declaredKind name, n.row⟩)
      ((mentions root).filter (isDeclared ·.kind)) := by
  refine (mentions_enumerates_of_visit (R := fun d n q m => q = d ∧ ∃ name,
    DeclaredAt root d n name ∧ m = ⟨name, name, declaredKind name, n.row⟩)
    (fun d n hn => visit_enumerates_declarations hn)
    fun _ _ _ _ _ _ _ hm hm' => hm.1.symm.trans hm'.1).congr ?_
  intro p m
  constructor
  · rintro ⟨d, n, -, rfl, name, hdeclared, rfl⟩
    exact ⟨n, name, hdeclared, rfl⟩
  · rintro ⟨n, name, hdeclared, rfl⟩
    exact ⟨p, n, hdeclared.1, rfl, name, hdeclared, rfl⟩

/-! ### Every mention has an anchor -/

theorem exists_at?_child? {root n c : Node} {p : Position} {field : String}
    (hn : root.at? p = some n) (hc : n.child? field = some c) : ∃ q, root.at? q = some c := by
  rw [Node.child?_eq_getElem?, Option.bind_eq_some_iff] at hc
  obtain ⟨i, -, hi⟩ := hc
  exact ⟨p ++ [i], (Node.at?_child hn i).trans hi⟩

theorem Method.exists_key {root key : Node} {p : Position} {owner word : String}
    (h : Method root p owner key word) : ∃ q, root.at? q = some key := by
  obtain ⟨-, -, -, property, -, -, hproperty, -, hkey, -⟩ := method_iff_gives.mp h
  rcases hkey with ⟨-, -, -, hkey⟩ | ⟨-, -, hname⟩
  · exact exists_at?_child? hproperty hkey
  · exact exists_at?_child? hproperty hname

theorem anchors_declaredKind {root n : Node} {name : String} (hkind : IsDeclaration n)
    (hname : Spells n "name" name) : Anchors root (declaredKind name) n name name := by
  unfold declaredKind
  split_ifs with hupper
  · exact .constructor hkind hname hupper
  · exact .function hkind hname (Bool.eq_false_iff.mpr hupper)

/-- A mention stands at the row of a node that anchors it. -/
theorem exists_anchor {root : Node} {m : Mention} (h : m ∈ mentions root) :
    ∃ p n, root.at? p = some n ∧ m.row = n.row ∧ Anchors root m.kind n m.name m.word := by
  cases hkind : m.kind with
  | importBinding =>
    have hm : m ∈ (mentions root).filter (·.kind = .importBinding) :=
      List.mem_filter.mpr ⟨h, by simpa using hkind⟩
    obtain ⟨p, n, name, ⟨hn, hdeclarator, hbinds⟩, rfl⟩ :=
      (mentions_enumerates_imports root).exists_place hm
    exact ⟨p, n, hn, rfl, .importBinding hdeclarator hbinds.name⟩
  | constructor | function =>
    have hm : m ∈ (mentions root).filter (isDeclared ·.kind) :=
      List.mem_filter.mpr ⟨h, by rw [hkind]; rfl⟩
    obtain ⟨p, n, name, ⟨hn, hdeclaration, hname⟩, rfl⟩ :=
      (mentions_enumerates_declarations root).exists_place hm
    rw [← hkind]
    exact ⟨p, n, hn, rfl, anchors_declaredKind hdeclaration hname⟩
  | method =>
    have hm : m ∈ (mentions root).filter (·.kind = .method) :=
      List.mem_filter.mpr ⟨h, by simpa using hkind⟩
    obtain ⟨p, hmentioned⟩ := (mentions_enumerates root).exists_place hm
    obtain ⟨owner, key, word, hmethod, rfl⟩ := exists_mentionedAt.mp hmentioned
    obtain ⟨q, hq⟩ := hmethod.exists_key
    exact ⟨q, key, hq, rfl, .method hmethod⟩

end Extract

open Extract Syntax

def declarationTag (file : String) (n : Node) (name : String) : Tag where
  name := name
  file := file
  address := address n.line name
  kind := declaredKind name
  lineno := n.line

/-- The tag names the file, and a node of the tree is its anchor: the tag has the line of this node,
and its address searches there for the word that the node spells. -/
structure Anchored (root : Node) (file : String) (t : Tag) : Prop where
  file : t.file = file
  anchor : ∃ p n word, root.at? p = some n ∧ word ≠ "" ∧ Anchors root t.kind n t.name word ∧
    t.lineno = n.row + 1 ∧ t.address = address t.lineno word

theorem anchored_tag {root : Node} {m : Mention} (h : m ∈ mentions root) (file : String) :
    Anchored root file (m.tag file) where
  file := rfl
  anchor := by
    obtain ⟨p, n, hn, hrow, hanchors⟩ := exists_anchor h
    have hline : m.row + 1 = n.row + 1 := congrArg (· + 1) hrow
    exact ⟨p, n, m.word, hn, (mentions_named h).word, hanchors, hline, rfl⟩

/-- A tree without errors always gives tags, and each of them has an anchor. The declarations that
spell a name stand one to one for the tags of constructors and functions: each gives its own tag
and no other, and a declaration that spells none gives no tag. -/
theorem extractTree_anchored {root : Node} (h : root.hasError = false) (file : String) :
    (∃ tags, extractTree root file = .ok ⟨file, tags⟩ ∧ (∀ t ∈ tags, Anchored root file t) ∧
      Enumerates (fun p t => ∃ n name, DeclaredAt root p n name ∧ t = declarationTag file n name)
        (tags.filter (isDeclared ·.kind))) ∧
    ∀ p n, root.at? p = some n → IsDeclaration n →
      ∃ emitted, Mention.toTags file (visit (root.parentKindAt none p) n) = .ok emitted ∧
        (∀ name, Spells n "name" name → emitted = [declarationTag file n name]) ∧
        ((∀ name, ¬ Spells n "name" name) → emitted = []) := by
  constructor
  · refine ⟨(mentions root).map (·.tag file), extractTree_of_sound h file, ?_, ?_⟩
    · intro t ht
      obtain ⟨m, hm, rfl⟩ := List.mem_map.mp ht
      exact anchored_tag hm file
    · have hfilter : ((mentions root).map (·.tag file)).filter (isDeclared ·.kind) =
          ((mentions root).filter (isDeclared ·.kind)).map (·.tag file) := by
        rw [List.filter_map]
        rfl
      rw [hfilter]
      refine ((mentions_enumerates_declarations root).mapEntries _).congr fun p t => ?_
      constructor
      · rintro ⟨-, ⟨n, name, hdeclared, rfl⟩, rfl⟩
        exact ⟨n, name, hdeclared, rfl⟩
      · rintro ⟨n, name, hdeclared, rfl⟩
        exact ⟨_, ⟨n, name, hdeclared, rfl⟩, rfl⟩
  · intro p n _ hkind
    rw [visit_of_isDeclaration hkind]
    refine ⟨(declaration n).map (·.tag file),
      Mention.toTags_of_named file fun m hm => declaration_named hm, ?_, ?_⟩
    · intro name hname
      rw [declaration_of_spells hname]
      rfl
    · intro hnone
      rw [declaration_of_not_spells hnone]
      rfl

/-- Three declarations, of which only the first spells a name: its one byte is no text, while the
others have an empty text and none at all. -/
def sampleDeclarations : Node :=
  .mk { kind := "program" }
    [.mk { kind := "function_declaration", row := 4 }
      [.mk { kind := "identifier", text := some [0xFF], field := some "name" } []],
     .mk { kind := "function_declaration", row := 5 }
      [.mk { kind := "identifier", text := some [], field := some "name" } []],
     .mk { kind := "generator_function_declaration", row := 6 }
      [.mk { kind := "identifier", text := none, field := some "name" } []]]

def sampleDeclarationTag : Tag :=
  ⟨"\uFFFD", "a.js", "4/\\<\uFFFD\\>/;\"", .constructor, 5⟩

theorem extractTree_anchored_sample :
    sampleDeclarations.hasError = false ∧
      extractTree sampleDeclarations "a.js" = .ok ⟨"a.js", [sampleDeclarationTag]⟩ ∧
      Anchored sampleDeclarations "a.js" sampleDeclarationTag := by
  have hsound : sampleDeclarations.hasError = false := by decide
  have hrun : extractTree sampleDeclarations "a.js" = .ok ⟨"a.js", [sampleDeclarationTag]⟩ := by
    decide +kernel
  obtain ⟨⟨tags, htags, hanchored, -⟩, -⟩ := extractTree_anchored hsound "a.js"
  rw [hrun, Except.ok.injEq, FileTags.mk.injEq] at htags
  refine ⟨hsound, hrun, hanchored _ ?_⟩
  rw [← htags.2]
  exact List.mem_singleton_self _

end ScriptTags
