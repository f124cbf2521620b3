import Mathlib.Logic.Relation
import ScriptTags.Proofs.Layout.Mentions

/-!
# Edits that do not show

Two edits of a script leave its tags as they are: a comment may be put in anywhere, and a value may
be put into parentheses. Each edit changes a tree in one place and lays it out anew, so any number
of edits one after another changes nothing either. One place is not free: the left side of an
assignment is read as it stands, and parentheses around the owner of a prototype would hide it.
-/

namespace ScriptTags
namespace Syntax.Context

/-- The parent of the hole is what an assignment finds on its left side. -/
def IsPlace : Context → Prop
  | hole _ _ _ => False
  | layer head before (hole parent _ _) _ =>
    head.kind = "assignment_expression" ∧ parent.field = some "left" ∧
      ∀ c ∈ before, c.field ≠ some "left"
  | layer _ _ (layer head before inner after) _ => (layer head before inner after).IsPlace

theorem isPlace_layer {C : Context} (h : C.IsPlace) (head : Head) (before after : List Node) :
    (layer head before C after).IsPlace := by
  cases C with
  | hole => exact h.elim
  | layer => exact h

theorem head_fill (C : Context) (ts us : List Node) : (C.fill us).head = (C.fill ts).head := by
  cases C <;> rfl

theorem field_fill (C : Context) (ts us : List Node) : (C.fill us).field = (C.fill ts).field := by
  rw [Node.field, C.head_fill ts us]
  rfl

theorem identifier?_fill (C : Context) (ts us : List Node) :
    (C.fill us).identifier? = (C.fill ts).identifier? := by
  rw [Node.identifier?, Node.kind, C.head_fill ts us]
  rfl

end Syntax.Context

namespace Extract

open Syntax

variable {C : Context} {ts us : List Node}

/-- The left side of an assignment names the same owner when a child below it is edited, unless the
edit is in the left side itself and changes what stands there under a field. -/
theorem prototypeOwner?_fill
    (h : ∀ head before after, C = .hole head before after → head.kind = "member_expression" →
      ∀ field, us.find? (·.field == some field) = ts.find? (·.field == some field)) :
    prototypeOwner? (C.fill us) = prototypeOwner? (C.fill ts) := by
  cases C with
  | hole head before after =>
    by_cases hkind : head.kind = "member_expression"
    · have hfind (field : String) : (Node.mk head (before ++ us ++ after)).child? field =
          (Node.mk head (before ++ ts ++ after)).child? field := by
        simp only [Node.child?, Node.children_mk, List.find?_append, h head before after rfl hkind]
      simp only [Context.fill, prototypeOwner?, hfind]
      rfl
    · simp [Context.fill, prototypeOwner?, Node.kind, hkind]
  | layer head before inner after =>
    have hname (field : String) :
        ((Node.mk head (before ++ inner.fill us :: after)).child? field).bind Node.identifier? =
          ((Node.mk head (before ++ inner.fill ts :: after)).child? field).bind
            Node.identifier? := by
      simp only [Node.child?, Node.children_mk, List.find?_append, List.find?_cons,
        inner.field_fill ts us]
      cases before.find? (·.field == some field) with
      | some c => rfl
      | none =>
        cases (inner.fill ts).field == some field with
        | true => exact inner.identifier?_fill ts us
        | false => rfl
    simp only [Context.fill, prototypeOwner?, hname]
    rfl

theorem like_fill (hforest : Relaid 0 C.holeKind ts us)
    (hleft : C.holeKind = "assignment_expression" →
      us.find? (·.field == some "left") = ts.find? (·.field == some "left"))
    (hplace : C.IsPlace → C.holeKind = "member_expression" →
      ∀ field, us.find? (·.field == some field) = ts.find? (·.field == some field)) :
    Like 0 (C.fill ts) (C.fill us) := by
  induction C with
  | hole head before after =>
    refine ⟨rfl, fun hkind => ?_, ((Relaid.refl before).append hforest).append (Relaid.refl after)⟩
    simp only [Context.fill, Node.children_mk, leftOwner?, List.find?_append, hleft hkind]
  | layer head before inner after ih =>
    have hinner : Like 0 (inner.fill ts) (inner.fill us) :=
      ih hforest hleft fun h => hplace (Context.isPlace_layer h head before after)
    refine ⟨rfl, fun hkind => ?_, (Relaid.refl before).append
      (.cons hinner (inner.field_fill ts us) (Relaid.refl after))⟩
    simp only [Context.fill, Node.children_mk, leftOwner?, List.find?_append, List.find?_cons,
      inner.field_fill ts us]
    cases hbefore : before.find? (·.field == some "left") with
    | some c => rfl
    | none =>
      cases hfield : (inner.fill ts).field == some "left" with
      | false => rfl
      | true =>
        -- The edit is somewhere below the left side.
        refine prototypeOwner?_fill ?_
        rintro parent left right rfl hmember
        refine hplace ⟨hkind, beq_iff_eq.mp hfield, ?_⟩ hmember
        intro c hc
        simpa using List.find?_eq_none.mp hbefore c hc

/-- Edits one after another, each of which lays out the tree anew, bring in no error and change no
mention. -/
theorem mentions_of_edits {Edit : Node → Node → Prop} (hEdit : ∀ n m, Edit n m → Like 0 n m)
    {root root' : Node} (h : Relation.ReflTransGen Edit root root')
    (hsound : root.hasError = false) :
    root'.hasError = false ∧ mentions root' = mentions root := by
  induction h with
  | refl => exact ⟨hsound, rfl⟩
  | @tail n m _ hedit ih =>
    obtain ⟨hsound, hmentions⟩ := ih
    have hlike := hEdit n m hedit
    refine ⟨Bool.eq_false_iff.mpr fun herror => ?_, ?_⟩
    · rw [hlike.hasError_of herror] at hsound
      cases hsound
    · rw [hlike.mentions_eq, map_moved_zero, hmentions]

theorem extractTree_of_edits {Edit : Node → Node → Prop} (hEdit : ∀ n m, Edit n m → Like 0 n m)
    {root root' : Node} (h : Relation.ReflTransGen Edit root root')
    (hsound : root.hasError = false) (file : String) :
    ∃ tags, extractTree root file = .ok ⟨file, tags⟩ ∧
      extractTree root' file = .ok ⟨file, tags⟩ := by
  obtain ⟨hsound', hmentions⟩ := mentions_of_edits hEdit h hsound
  refine ⟨(mentions root).map (·.tag file), extractTree_of_sound hsound file, ?_⟩
  rw [extractTree_of_sound hsound' file, hmentions]

/-! ### Comments -/

/-- A comment as it stands among the children of a node. -/
structure IsComment (c : Node) : Prop where
  kind : c.kind = "comment"
  leaf : c.children = []
  field : c.field = none
  sound : c.hasError = false

/-- One comment is put in, at any place of any list of children. -/
inductive Commented : Node → Node → Prop
  | insert (C : Context) {c : Node} (hc : IsComment c) : Commented (C.fill []) (C.fill [c])

theorem Commented.like {n m : Node} (h : Commented n m) : Like 0 n m := by
  obtain ⟨C, hc⟩ := h
  rename_i c
  have hfind (field : String) :
      [c].find? (·.field == some field) = [].find? (·.field == some field) := by
    simp [hc.field]
  apply like_fill
  · exact .insert ⟨hc.leaf, hc.sound, .inl ⟨hc.kind, hc.field⟩⟩ .nil
  · exact fun _ => hfind "left"
  · exact fun _ _ => hfind

/-! ### Parentheses -/

/-- A token of a group that is not what the group holds: it is unnamed, or a comment. -/
structure Trimming (t : Node) : Prop where
  leaf : t.children = []
  hidden : t.named = false ∨ t.kind = "comment"
  sound : t.hasError = false

/-- A group that takes over the field of a node and holds the node, without its field, among
brackets and comments. -/
structure GroupAround (n w : Node) : Prop where
  head : GroupHead n.field w.head
  children : ∃ before after, w.children = before ++ bare n :: after ∧
    ∀ t ∈ before ++ after, Trimming t

/-- One value is put into a group, anywhere but in the left side of an assignment. -/
inductive Grouped : Node → Node → Prop
  | wrap (C : Context) {field : String} {n w : Node} (hvalue : (C.holeKind, field) ∈ valueFields)
      (hfield : n.field = some field) (hplace : field = "object" → ¬ C.IsPlace)
      (hcontent : n.isContent = true) (hgroup : GroupAround n w) :
      Grouped (C.fill [n]) (C.fill [w])

theorem Trimming.passed {t : Node} (h : Trimming t) : Passed "parenthesized_expression" t := by
  refine ⟨h.leaf, h.sound, .inr ⟨rfl, ?_⟩⟩
  rcases h.hidden with hnamed | hkind
  · simp [Node.isContent, hnamed]
  · simp [Node.isContent, hkind]

theorem GroupAround.relaid {parentKind field : String} {n w : Node} (h : GroupAround n w)
    (hvalue : (parentKind, field) ∈ valueFields) (hfield : n.field = some field)
    (hcontent : n.isContent = true) : Relaid 0 parentKind [n] [w] := by
  obtain ⟨head, children⟩ := w
  obtain ⟨hhead, before, after, hchildren, htrimmings⟩ := h
  obtain rfl : children = before ++ bare n :: after := hchildren
  refine .group hvalue hfield hcontent hhead ?_ .nil
  rw [show head.kind = _ from hhead.kind]
  refine Relaid.append (.tokens fun t ht => ?_)
    (.cons (Like.refl (bare n)) rfl (.tokens fun t ht => ?_))
  · exact (htrimmings t (List.mem_append_left after ht)).passed
  · exact (htrimmings t (List.mem_append_right before ht)).passed

theorem Grouped.like {n m : Node} (h : Grouped n m) : Like 0 n m := by
  obtain ⟨C, hvalue, hfield, hplace, hcontent, hgroup⟩ := h
  rename_i field n w
  have hw : w.field = some field := hgroup.head.field.trans hfield
  apply like_fill
  · exact hgroup.relaid hvalue hfield hcontent
  · intro hkind
    have hright : field ≠ "left" := by
      rintro rfl
      simp [valueFields] at hvalue
    simp [hfield, hw, hright]
  · intro hisPlace hkind
    rw [hkind] at hvalue
    have hobject : field = "object" := by simpa [valueFields] using hvalue
    exact absurd hisPlace (hplace hobject)

end Extract

open Extract Syntax

/-- However many comments are put in, and wherever, the tags of a tree without errors stay the
same. -/
theorem extractTree_commented {root root' : Node} (h : root.hasError = false)
    (hcomments : Relation.ReflTransGen Commented root root') (file : String) :
    ∃ tags, extractTree root file = .ok ⟨file, tags⟩ ∧
      extractTree root' file = .ok ⟨file, tags⟩ :=
  extractTree_of_edits (fun _ _ => Commented.like) hcomments h file

namespace Extract

def sampleDeclarator (rest : List Node) : Node :=
  .mk { kind := "program" } [.mk { kind := "variable_declarator" } (sampleName "name" "a" :: rest)]

theorem isComment_sample (named : Bool) : IsComment (sampleComment named) :=
  ⟨rfl, rfl, rfl, rfl⟩

/-- The script `var a = (require(…))`, with comments before and inside the parentheses. -/
def sampleScript (before inside : List Node) : Node :=
  sampleDeclarator (before ++ [sampleGroup (some "value") (inside ++ [sampleRequire none])])

end Extract

theorem extractTree_commented_sample :
    (sampleScript [] []).hasError = false ∧
      extractTree (sampleScript [] []) "a.js" =
        .ok ⟨"a.js", [⟨"a", "a.js", "0/\\<a\\>/;\"", .importBinding, 1⟩]⟩ ∧
      extractTree (sampleScript [sampleComment true] [sampleComment false]) "a.js" =
        .ok ⟨"a.js", [⟨"a", "a.js", "0/\\<a\\>/;\"", .importBinding, 1⟩]⟩ := by
  have hsound : (sampleScript [] []).hasError = false := by decide
  have hinside : Commented (sampleScript [] []) (sampleScript [] [sampleComment false]) :=
    .insert (.layer { kind := "program" } [] (.layer { kind := "variable_declarator" }
      [sampleName "name" "a"] (.hole { kind := "parenthesized_expression", field := some "value" }
        [] [sampleRequire none]) []) []) (isComment_sample false)
  have hbefore : Commented (sampleScript [] [sampleComment false])
      (sampleScript [sampleComment true] [sampleComment false]) :=
    .insert (.layer { kind := "program" } [] (.hole { kind := "variable_declarator" }
      [sampleName "name" "a"]
      [sampleGroup (some "value") [sampleComment false, sampleRequire none]]) [])
      (isComment_sample true)
  have hmentions : (mentions (sampleScript [] [])).map (·.tag "a.js") =
      [⟨"a", "a.js", "0/\\<a\\>/;\"", .importBinding, 1⟩] := by
    decide +kernel
  have hrun := extractTree_of_sound hsound "a.js"
  rw [hmentions] at hrun
  obtain ⟨tags, htags, htags'⟩ :=
    extractTree_commented hsound (.tail (.single hinside) hbefore) "a.js"
  exact ⟨hsound, hrun, htags'.trans (htags.symm.trans hrun)⟩

/-- However many values are put into parentheses, the tags of a tree without errors stay the
same. -/
theorem extractTree_grouped {root root' : Node} (h : root.hasError = false)
    (hgroups : Relation.ReflTransGen Grouped root root') (file : String) :
    ∃ tags, extractTree root file = .ok ⟨file, tags⟩ ∧
      extractTree root' file = .ok ⟨file, tags⟩ :=
  extractTree_of_edits (fun _ _ => Grouped.like) hgroups h file

namespace Extract

theorem trimming_bracket {kind : String} (h : kind ≠ "ERROR") : Trimming (sampleBracket kind) :=
  ⟨rfl, .inl rfl, by simp [sampleBracket, Node.hasError, Node.anyError, h]⟩

theorem trimming_comment (named : Bool) : Trimming (sampleComment named) :=
  ⟨rfl, .inr rfl, rfl⟩

theorem groupAround_sample {n : Node} {before after : List Node}
    (h : ∀ t ∈ before ++ after, Trimming t) :
    GroupAround n (sampleGroup n.field (before ++ bare n :: after)) :=
  ⟨⟨rfl, rfl, rfl, rfl, by simp [sampleGroup]⟩, before, after, rfl, h⟩

def sampleAccess : Node :=
  sampleDeclarator [sampleMember (some "value") (sampleRequire (some "object"))]

def sampleGroupedRequire : Node :=
  sampleGroup (some "object") [sampleBracket "(", sampleRequire none, sampleBracket ")"]

/-- The script `var a = (/* */ (require(…)).b)`. -/
def sampleGroupedAccess : Node :=
  sampleDeclarator [sampleGroup (some "value")
    [sampleComment true, sampleMember none sampleGroupedRequire]]

end Extract

theorem extractTree_grouped_sample :
    sampleAccess.hasError = false ∧
      extractTree sampleAccess "a.js" =
        .ok ⟨"a.js", [⟨"a", "a.js", "0/\\<a\\>/;\"", .importBinding, 1⟩]⟩ ∧
      extractTree sampleGroupedAccess "a.js" =
        .ok ⟨"a.js", [⟨"a", "a.js", "0/\\<a\\>/;\"", .importBinding, 1⟩]⟩ := by
  have hsound : sampleAccess.hasError = false := by decide
  have hobject : Grouped sampleAccess
      (sampleDeclarator [sampleMember (some "value") sampleGroupedRequire]) := by
    refine .wrap (.layer { kind := "program" } [] (.layer { kind := "variable_declarator" }
      [sampleName "name" "a"] (.hole { kind := "member_expression", field := some "value" }
        [] [sampleName "property" "b"]) []) []) (n := sampleRequire (some "object"))
      (w := sampleGroupedRequire) (by decide) rfl ?_ rfl ?_
    · rintro - ⟨hkind, -⟩
      simp at hkind
    · have htrimmings : ∀ t ∈ [sampleBracket "("] ++ [sampleBracket ")"], Trimming t := by
        simp [trimming_bracket]
      exact groupAround_sample htrimmings
  have hvalue : Grouped (sampleDeclarator [sampleMember (some "value") sampleGroupedRequire])
      sampleGroupedAccess := by
    refine .wrap (.layer { kind := "program" } [] (.hole { kind := "variable_declarator" }
      [sampleName "name" "a"] []) []) (n := sampleMember (some "value") sampleGroupedRequire)
      (by decide) rfl ?_ rfl ?_
    · intro hobject
      simp at hobject
    · have htrimmings : ∀ t ∈ [sampleComment true] ++ [], Trimming t := by simp [trimming_comment]
      exact groupAround_sample htrimmings
  have hmentions : (mentions sampleAccess).map (·.tag "a.js") =
      [⟨"a", "a.js", "0/\\<a\\>/;\"", .importBinding, 1⟩] := by
    decide +kernel
  have hrun := extractTree_of_sound hsound "a.js"
  rw [hmentions] at hrun
  obtain ⟨tags, htags, htags'⟩ := extractTree_grouped hsound (.tail (.single hobject) hvalue) "a.js"
  exact ⟨hsound, hrun, htags'.trans (htags.symm.trans hrun)⟩

end ScriptTags
