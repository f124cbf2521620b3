import Mathlib.Data.Nat.Notation
import Mathlib.Tactic.SplitIfs
import ScriptTags.Extract
import ScriptTags.Proofs.Syntax.Unwrap

/-!
# Trees laid out anew

The same script can be written down in many ways: further down in a file, with comments between
its parts, with parentheses around its values. A tree that is laid out anew has the nodes of the
old one, all moved down by the same number of rows, and besides them tokens that are passed over
and groups around values. Looking through groups, down chains and under fields leads to the same
nodes in both trees.
-/

namespace ScriptTags

theorem rel_cases {α β : Type} {R : α → β → Prop} {x : Option α} {y : Option β}
    (h : Option.Rel R x y) :
    (x = none ∧ y = none) ∨ ∃ a b, x = some a ∧ y = some b ∧ R a b := by
  cases h with
  | none => exact .inl ⟨rfl, rfl⟩
  | some hab => exact .inr ⟨_, _, rfl, rfl, hab⟩

theorem rel_imp {α β : Type} {R S : α → β → Prop} {x : Option α} {y : Option β}
    (h : Option.Rel R x y) (himp : ∀ a b, R a b → S a b) : Option.Rel S x y := by
  cases h with
  | none => exact .none
  | some hab => exact .some (himp _ _ hab)

theorem rel_bind {α β γ δ : Type} {R : α → β → Prop} {S : γ → δ → Prop} {x : Option α}
    {y : Option β} (h : Option.Rel R x y) {f : α → Option γ} {g : β → Option δ}
    (hfg : ∀ a b, R a b → Option.Rel S (f a) (g b)) : Option.Rel S (x.bind f) (y.bind g) := by
  cases h with
  | none => exact .none
  | some hab => exact hfg _ _ hab

theorem rel_bind_eq {α β γ : Type} {R : α → β → Prop} {x : Option α} {y : Option β}
    (h : Option.Rel R x y) {f : α → Option γ} {g : β → Option γ}
    (hfg : ∀ a b, R a b → g b = f a) : y.bind g = x.bind f := by
  cases h with
  | none => rfl
  | some hab => exact hfg _ _ hab

theorem rel_any_eq {α β : Type} {R : α → β → Prop} {x : Option α} {y : Option β}
    (h : Option.Rel R x y) {p : α → Bool} {q : β → Bool}
    (hpq : ∀ a b, R a b → q b = p a) : y.any q = x.any p := by
  cases h with
  | none => rfl
  | some hab => exact hpq _ _ hab

namespace Extract

open Syntax

/-- The fields that are read through grouping parentheses, each with the kind of its parent. -/
def valueFields : List (String × String) :=
  [("variable_declarator", "value"), ("assignment_expression", "right"), ("pair", "value"),
   ("member_expression", "object"), ("subscript_expression", "object")]

/-- The node without the field under which its parent finds it. -/
def bare : Node → Node
  | .mk head children => .mk { head with field := none } children

/-- A token that is passed over among the children of a parent of the given kind: a comment
anywhere, and in a group everything that is no content. -/
structure Passed (parentKind : String) (t : Node) : Prop where
  leaf : t.children = []
  sound : t.hasError = false
  hidden : t.kind = "comment" ∧ t.field = none ∨
    parentKind = "parenthesized_expression" ∧ t.isContent = false

/-- The head of a group that stands under a field and brings no error of its own. -/
structure GroupHead (field : Option String) (head : Head) : Prop where
  kind : head.kind = "parenthesized_expression"
  named : head.named = true
  field : head.field = field
  present : head.missing = false
  unflagged : head.flag ≠ some true

/-- The owner whose prototype an assignment with these children sets. -/
def leftOwner? (children : List Node) : Option String :=
  (children.find? (·.field == some "left")).bind prototypeOwner?

/-- The second list lays out the first one anew, `k` rows down, below a parent of the given kind:
tokens may come in between, and values may stand in groups. The place that an assignment writes to
is read as it stands, so what it says of an owner must be the same. -/
inductive Relaid (k : ℕ) : String → List Node → List Node → Prop
  | nil {parentKind : String} : Relaid k parentKind [] []
  | insert {parentKind : String} {t : Node} {ns ms : List Node} (ht : Passed parentKind t)
      (hrest : Relaid k parentKind ns ms) : Relaid k parentKind ns (t :: ms)
  | node {parentKind : String} {head : Head} {cs cs' ns ms : List Node}
      (howner : head.kind = "assignment_expression" → leftOwner? cs' = leftOwner? cs)
      (hcs : Relaid k head.kind cs cs') (hrest : Relaid k parentKind ns ms) :
      Relaid k parentKind (.mk head cs :: ns)
        (.mk { head with row := head.row + k } cs' :: ms)
  | group {parentKind field : String} {n : Node} {head : Head} {cs ns ms : List Node}
      (hvalue : (parentKind, field) ∈ valueFields) (hfield : n.field = some field)
      (hcontent : n.isContent = true) (hhead : GroupHead n.field head)
      (hinner : Relaid k head.kind [bare n] cs) (hrest : Relaid k parentKind ns ms) :
      Relaid k parentKind (n :: ns) (.mk head cs :: ms)

/-- The second node is the first one laid out anew, `k` rows down, perhaps under another field. -/
structure Like (k : ℕ) (n m : Node) : Prop where
  head : m.head = { n.head with row := n.head.row + k, field := m.head.field }
  owner : n.kind = "assignment_expression" → leftOwner? m.children = leftOwner? n.children
  children : Relaid k n.kind n.children m.children

section

variable {k : ℕ} {parentKind : String} {n m : Node} {ns ms : List Node}

/-! ### What the heads say -/

theorem Like.kind (h : Like k n m) : m.kind = n.kind := by
  unfold Node.kind
  rw [h.head]

theorem Like.row (h : Like k n m) : m.row = n.row + k := by
  unfold Node.row
  rw [h.head]

theorem Like.identifier? (h : Like k n m) : m.identifier? = n.identifier? := by
  unfold Node.identifier?
  rw [h.kind, h.head]

theorem Like.named (h : Like k n m) : m.named = n.named := by
  unfold Node.named
  rw [h.head]

theorem Like.isContent (h : Like k n m) : m.isContent = n.isContent := by
  unfold Node.isContent
  rw [h.kind, h.named]

theorem Like.isMember (h : Like k n m) : m.isMember = n.isMember := by
  unfold Node.isMember
  rw [h.kind]

theorem Like.isObject (h : Like k n m) : m.isObject = n.isObject := by
  unfold Node.isObject
  rw [h.kind]

theorem Like.isFunction (h : Like k n m) : m.isFunction = n.isFunction := by
  unfold Node.isFunction
  rw [h.kind]

theorem Like.isGroup (h : Like k n m) : m.isGroup = n.isGroup := by
  unfold Node.isGroup
  rw [h.kind]

theorem like_node {head : Head} {cs cs' : List Node}
    (howner : head.kind = "assignment_expression" → leftOwner? cs' = leftOwner? cs)
    (hcs : Relaid k head.kind cs cs') :
    Like k (.mk head cs) (.mk { head with row := head.row + k } cs') :=
  ⟨rfl, howner, hcs⟩

theorem field_moveDown (head : Head) (cs cs' : List Node) :
    (Node.mk { head with row := head.row + k } cs').field = (Node.mk head cs).field :=
  rfl

theorem Like.of_bare (h : Like k (bare n) m) : Like k n m := by
  obtain ⟨head, children⟩ := n
  exact ⟨h.head, h.owner, h.children⟩

theorem Relaid.cons (h : Like k n m) (hfield : m.field = n.field)
    (hrest : Relaid k parentKind ns ms) : Relaid k parentKind (n :: ns) (m :: ms) := by
  obtain ⟨head, cs⟩ := n
  obtain ⟨head', cs'⟩ := m
  have hhead : head' = { head with row := head.row + k, field := head'.field } := h.head
  rw [show head'.field = head.field from hfield] at hhead
  rw [hhead]
  exact .node h.owner h.children hrest

theorem Relaid.append {ns' ms' : List Node} (h : Relaid k parentKind ns ms)
    (h' : Relaid k parentKind ns' ms') : Relaid k parentKind (ns ++ ns') (ms ++ ms') := by
  induction h with
  | nil => exact h'
  | insert ht _ ih => exact .insert ht (ih h')
  | node howner hcs _ _ ih => exact .node howner hcs (ih h')
  | group hvalue hfield hcontent hhead hinner _ _ ih =>
    exact .group hvalue hfield hcontent hhead hinner (ih h')

theorem Passed.isContent {t : Node} (h : Passed parentKind t) : t.isContent = false := by
  rcases h.hidden with ⟨hkind, -⟩ | ⟨-, hcontent⟩
  · simp [Node.isContent, hkind]
  · exact hcontent

theorem Passed.field {t : Node} (h : Passed parentKind t)
    (hparent : parentKind ≠ "parenthesized_expression") : t.field = none := by
  rcases h.hidden with ⟨-, hfield⟩ | ⟨hgroup, -⟩
  · exact hfield
  · exact absurd hgroup hparent

theorem Passed.kind {t : Node} (h : Passed parentKind t)
    (hparent : parentKind ≠ "parenthesized_expression") : t.kind = "comment" := by
  rcases h.hidden with ⟨hkind, -⟩ | ⟨hgroup, -⟩
  · exact hkind
  · exact absurd hgroup hparent

theorem GroupHead.field_eq {head : Head} (h : GroupHead n.field head) (cs : List Node) :
    (Node.mk head cs).field = n.field :=
  h.field

theorem GroupHead.isContent {field : Option String} {head : Head} (h : GroupHead field head)
    (cs : List Node) : (Node.mk head cs).isContent = true := by
  simp [Node.isContent, Node.named, Node.kind, h.kind, h.named]

@[simp] theorem isContent_bare (n : Node) : (bare n).isContent = n.isContent := by
  cases n
  rfl

/-! ### Looking through groups -/

theorem rel_ungroup_of_bare {x : Option Node} (h : Option.Rel (Like k) (bare n).ungroup x) :
    Option.Rel (Like k) n.ungroup x := by
  obtain ⟨head, children⟩ := n
  rw [bare, Node.ungroup] at h
  rw [Node.ungroup]
  split_ifs at h ⊢
  · exact h
  · cases h with
    | some hlike => exact .some (Like.of_bare (n := .mk head children) hlike)

theorem rel_chainStart_of_bare {x : Option Node} (h : Option.Rel (Like k) (bare n).chainStart x) :
    Option.Rel (Like k) n.chainStart x := by
  obtain ⟨head, children⟩ := n
  rw [bare, Node.chainStart] at h
  rw [Node.chainStart]
  split_ifs at h ⊢
  · exact h
  · exact h
  · cases h with
    | some hlike => exact .some (Like.of_bare (n := .mk head children) hlike)

/-- Inside the group stands what is inside the node itself. -/
theorem GroupHead.rel_ungroup {field : Option String} {head : Head} {cs : List Node}
    (h : GroupHead field head) (hcontent : n.isContent = true)
    (hfirst : Option.Rel (Like k) (Node.ungroupFirst [bare n]) (Node.ungroupFirst cs)) :
    Option.Rel (Like k) n.ungroup (Node.mk head cs).ungroup := by
  rw [Node.ungroupFirst, isContent_bare, if_pos hcontent] at hfirst
  rw [Node.ungroup, h.kind]
  exact rel_ungroup_of_bare hfirst

theorem Relaid.ungroupFirst (h : Relaid k parentKind ns ms) :
    Option.Rel (Like k) (Node.ungroupFirst ns) (Node.ungroupFirst ms) := by
  induction h with
  | nil => exact .none
  | insert ht _ ih =>
    rw [Node.ungroupFirst, ht.isContent]
    exact ih
  | node howner hcs _ ihcs ih =>
    have hlike := like_node howner hcs
    rw [Node.ungroupFirst, Node.ungroupFirst, hlike.isContent]
    split_ifs
    · rw [Node.ungroup, Node.ungroup]
      split_ifs
      · exact ihcs
      · exact .some hlike
    · exact ih
  | group _ _ hcontent hhead _ _ ihinner _ =>
    rw [Node.ungroupFirst, Node.ungroupFirst, if_pos hcontent, if_pos (hhead.isContent _)]
    exact hhead.rel_ungroup hcontent ihinner

/-- Both ways down a chain, from a group and from a member access, lead to the same start. -/
theorem Relaid.chainStart (h : Relaid k parentKind ns ms) :
    Option.Rel (Like k) (Node.chainStartInGroup ns) (Node.chainStartInGroup ms) ∧
      (parentKind ≠ "parenthesized_expression" →
        Option.Rel (Like k) (Node.chainStartOfObject ns) (Node.chainStartOfObject ms)) := by
  induction h with
  | nil => exact ⟨.none, fun _ => .none⟩
  | insert ht _ ih =>
    constructor
    · rw [Node.chainStartInGroup, ht.isContent]
      exact ih.1
    · intro hparent
      rw [Node.chainStartOfObject, ht.field hparent]
      exact ih.2 hparent
  | @node _ head cs cs' _ _ howner hcs _ ihcs ih =>
    have hlike := like_node howner hcs
    have hstart : Option.Rel (Like k) (Node.mk head cs).chainStart
        (Node.mk { head with row := head.row + k } cs').chainStart := by
      rw [Node.chainStart, Node.chainStart]
      split_ifs with hgroup
      · exact ihcs.1
      · exact ihcs.2 (by simpa using hgroup)
      · exact .some hlike
    constructor
    · rw [Node.chainStartInGroup, Node.chainStartInGroup, hlike.isContent]
      split_ifs
      · exact hstart
      · exact ih.1
    · intro hparent
      rw [Node.chainStartOfObject, Node.chainStartOfObject, field_moveDown head cs]
      split_ifs
      · exact hstart
      · exact ih.2 hparent
  | @group _ _ n head cs _ _ _ _ hcontent hhead _ _ ihinner ih =>
    have hstart : Option.Rel (Like k) n.chainStart (Node.mk head cs).chainStart := by
      rw [Node.chainStart, hhead.kind]
      have hinner := ihinner.1
      rw [Node.chainStartInGroup, isContent_bare, if_pos hcontent] at hinner
      exact rel_chainStart_of_bare hinner
    constructor
    · rw [Node.chainStartInGroup, Node.chainStartInGroup, if_pos hcontent,
        if_pos (hhead.isContent _)]
      exact hstart
    · intro hparent
      rw [Node.chainStartOfObject, Node.chainStartOfObject, hhead.field_eq]
      split_ifs
      · exact hstart
      · exact ih.2 hparent

theorem Like.ungroup (h : Like k n m) : Option.Rel (Like k) n.ungroup m.ungroup := by
  rw [Node.ungroup_eq, Node.ungroup_eq, ← Node.ungroupFirst_eq, ← Node.ungroupFirst_eq, h.isGroup]
  split_ifs
  · exact h.children.ungroupFirst
  · exact .some h

theorem Like.chainStart (h : Like k n m) : Option.Rel (Like k) n.chainStart m.chainStart := by
  rw [Node.chainStart_eq, Node.chainStart_eq, ← Node.chainStartInGroup_eq,
    ← Node.chainStartInGroup_eq, h.isMember, h.isGroup]
  split_ifs with hgroup
  · exact h.children.chainStart.1
  · have hobject := h.children.chainStart.2 (by simpa [Node.isGroup] using hgroup)
    rw [Node.chainStartOfObject_eq, Node.chainStartOfObject_eq] at hobject
    exact hobject
  · exact .some h

/-! ### Looking under fields -/

/-- What stands under a field is the same node, or for a value perhaps a group around it. -/
theorem Relaid.find? (h : Relaid k parentKind ns ms)
    (hparent : parentKind ≠ "parenthesized_expression") (field : String) :
    Option.Rel (fun c c' => Like k c c' ∨
        (parentKind, field) ∈ valueFields ∧ Option.Rel (Like k) c.ungroup c'.ungroup)
      (ns.find? (·.field == some field)) (ms.find? (·.field == some field)) := by
  induction h with
  | nil => exact .none
  | insert ht _ ih =>
    rw [List.find?_cons, ht.field hparent]
    exact ih hparent
  | @node _ head cs _ _ _ howner hcs _ _ ih =>
    rw [List.find?_cons, List.find?_cons, field_moveDown head cs]
    split
    · exact .some (.inl (like_node howner hcs))
    · exact ih hparent
  | @group _ field' n head cs _ _ hvalue hfield hcontent hhead hinner _ _ ih =>
    rw [List.find?_cons, List.find?_cons, hhead.field_eq]
    split
    · rename_i hfound
      obtain rfl : field' = field := by simpa [hfield] using hfound
      exact .some (.inr ⟨hvalue, hhead.rel_ungroup hcontent hinner.ungroupFirst⟩)
    · exact ih hparent

theorem Like.child?_rel (h : Like k n m) (hplain : n.isGroup = false) {field : String}
    (hfield : (n.kind, field) ∉ valueFields) :
    Option.Rel (Like k) (n.child? field) (m.child? field) := by
  refine rel_imp (h.children.find? (by simpa [Node.isGroup] using hplain) field) ?_
  rintro c c' (hlike | ⟨hvalue, -⟩)
  · exact hlike
  · exact absurd hvalue hfield

theorem Like.ungroup_child?_rel (h : Like k n m) (hplain : n.isGroup = false) (field : String) :
    Option.Rel (Like k) ((n.child? field).bind Node.ungroup)
      ((m.child? field).bind Node.ungroup) := by
  refine rel_bind (h.children.find? (by simpa [Node.isGroup] using hplain) field) ?_
  rintro c c' (hlike | ⟨-, hinner⟩)
  · exact hlike.ungroup
  · exact hinner

theorem Like.identifier?_child? (h : Like k n m) (hplain : n.isGroup = false) {field : String}
    (hfield : (n.kind, field) ∉ valueFields) :
    (m.child? field).bind Node.identifier? = (n.child? field).bind Node.identifier? :=
  rel_bind_eq (h.child?_rel hplain hfield) fun _ _ hlike => hlike.identifier?

theorem Like.isImportCall (h : Like k n m) : m.isImportCall = n.isImportCall := by
  unfold Node.isImportCall
  rw [h.kind]
  by_cases hkind : n.kind = "call_expression"
  · have hplain : n.isGroup = false := by simp [Node.isGroup, hkind]
    have hfield : (n.kind, "function") ∉ valueFields := by
      rw [hkind]
      decide
    congr 1
    refine rel_any_eq (h.child?_rel hplain hfield) ?_
    intro callee callee' hlike
    rw [hlike.kind, hlike.identifier?]
  · rw [beq_false_of_ne hkind]
    rfl

/-! ### Errors -/

theorem hasError_relaid {head : Head} {cs cs' : List Node}
    (hcs : Node.anyError cs' = true → Node.anyError cs = true)
    (h : (Node.mk { head with row := head.row + k } cs').hasError = true) :
    (Node.mk head cs).hasError = true := by
  rw [Node.hasError] at h ⊢
  dsimp only at h
  cases hflag : head.flag with
  | some flag => rwa [hflag] at h
  | none =>
    rw [hflag, Option.getD_none, Bool.or_eq_true] at h
    rw [Option.getD_none, Bool.or_eq_true]
    exact h.imp_right hcs

theorem GroupHead.anyError_of {field : Option String} {head : Head} {cs : List Node}
    (h : GroupHead field head) (herror : (Node.mk head cs).hasError = true) :
    Node.anyError cs = true := by
  rw [Node.hasError] at herror
  cases hflag : head.flag with
  | some flag =>
    rw [hflag, Option.getD_some] at herror
    exact absurd (herror ▸ hflag) h.unflagged
  | none => simpa [hflag, h.kind, h.present] using herror

theorem Relaid.anyError_of (h : Relaid k parentKind ns ms) (herror : Node.anyError ms = true) :
    Node.anyError ns = true := by
  induction h with
  | nil => exact herror
  | insert ht _ ih =>
    rw [Node.anyError, ht.sound, Bool.false_or] at herror
    exact ih herror
  | node _ _ _ ihcs ih =>
    rw [Node.anyError, Bool.or_eq_true] at herror ⊢
    exact herror.imp (hasError_relaid ihcs) ih
  | @group _ _ n head cs _ _ _ _ _ hhead _ _ ihinner ih =>
    rw [Node.anyError, Bool.or_eq_true] at herror ⊢
    refine herror.imp (fun hgroup => ?_) ih
    have hinner : (bare n).hasError = true := by
      simpa [Node.anyError] using ihinner (hhead.anyError_of hgroup)
    obtain ⟨head, children⟩ := n
    exact hinner

theorem Like.hasError_of (h : Like k n m) (herror : m.hasError = true) : n.hasError = true := by
  obtain ⟨head, cs⟩ := n
  obtain ⟨head', cs'⟩ := m
  rw [show head' = { head with row := head.row + k, field := head'.field } from h.head] at herror
  exact hasError_relaid (k := k) h.children.anyError_of herror

/-! ### Lists laid out anew -/

theorem Relaid.map {f : Node → Node} (h : ∀ n ∈ ns, Like k n (f n) ∧ (f n).field = n.field) :
    Relaid k parentKind ns (ns.map f) := by
  induction ns with
  | nil => exact .nil
  | cons n rest ih =>
    obtain ⟨hlike, hfield⟩ := h n List.mem_cons_self
    exact .cons hlike hfield (ih fun c hc => h c (List.mem_cons_of_mem n hc))

theorem Relaid.tokens {ts : List Node} (h : ∀ t ∈ ts, Passed parentKind t) :
    Relaid k parentKind [] ts := by
  induction ts with
  | nil => exact .nil
  | cons t rest ih =>
    exact .insert (h t List.mem_cons_self) (ih fun c hc => h c (List.mem_cons_of_mem t hc))

theorem Like.refl (n : Node) : Like 0 n n := by
  induction n using Node.ind with
  | node head children ih =>
    have hchildren : Relaid 0 head.kind children (children.map id) :=
      Relaid.map fun c hc => ⟨ih c hc, rfl⟩
    rw [List.map_id] at hchildren
    exact ⟨rfl, fun _ => rfl, hchildren⟩

theorem Relaid.refl (ns : List Node) : Relaid 0 parentKind ns ns := by
  have h : Relaid 0 parentKind ns (ns.map id) := Relaid.map fun c _ => ⟨Like.refl c, rfl⟩
  rwa [List.map_id] at h

end

end Extract
end ScriptTags
