import Mathlib.Tactic.SplitIfs
import ScriptTags.Proofs.Enumeration
import ScriptTags.Proofs.Mention
import ScriptTags.Proofs.Syntax.Position
import ScriptTags.Script.Program

/-!
# The methods of a tree

A method is a property of an object literal. The literal is reached from above, through grouping
parentheses, from an assignment, and its owner is known in two ways: a variable is bound to the
assignment, or the assignment is a statement that sets a prototype. A literal has one nearest node
above that is no group, so no literal is reached in two ways, and the tags of methods stand for
the qualifying properties one to one.
-/

namespace ScriptTags
namespace Extract

open Syntax

/-- The property holds a function under a key. -/
inductive HoldsFunction (property key : Node) : Prop
  | pair {value : Node} (hkind : property.kind = "pair")
      (hvalue : (property.child? "value").bind Node.ungroup = some value)
      (hfunction : value.isFunction = true) (hkey : property.child? "key" = some key)
  | method (hkind : property.kind = "method_definition")
      (hplain : ∀ c ∈ property.children, c.named = false → c.kind ≠ "get" ∧ c.kind ≠ "set")
      (hname : property.child? "name" = some key)

theorem isAccessor_eq_false {method : Node} : isAccessor method = false ↔
    ∀ c ∈ method.children, c.named = false → c.kind ≠ "get" ∧ c.kind ≠ "set" := by
  simp [isAccessor]

theorem methodKey?_eq_some {property key : Node} :
    methodKey? property = some key ↔ HoldsFunction property key := by
  constructor
  · intro h
    unfold methodKey? at h
    split_ifs at h with hpair hfunction hmethod haccessor
    · obtain ⟨value, hvalue, hfunction⟩ := (Option.any_eq_true _ _).mp hfunction
      exact .pair (by simpa using hpair) hvalue hfunction h
    · exact .method (by simpa using hmethod)
        (isAccessor_eq_false.mp (Bool.eq_false_iff.mpr haccessor)) h
  · rintro (⟨hkind, hvalue, hfunction, hkey⟩ | ⟨hkind, hplain, hname⟩)
    · simp [methodKey?, hkind, hvalue, hfunction, hkey]
    · simp [methodKey?, hkind, isAccessor_eq_false.mpr hplain, hname]

theorem method?_eq_some {owner : String} {property : Node} {m : Mention} :
    method? owner property = some m ↔ ∃ key word, HoldsFunction property key ∧
      key.identifier? = some word ∧ m = ⟨owner ++ "." ++ word, word, .method, key.row⟩ := by
  simp only [method?, Option.bind_eq_bind, Option.pure_def, Option.bind_eq_some_iff,
    Option.some.injEq, methodKey?_eq_some]
  constructor
  · rintro ⟨key, hkey, word, hword, rfl⟩
    exact ⟨key, word, hkey, hword, rfl⟩
  · rintro ⟨key, word, hkey, hword, rfl⟩
    exact ⟨key, hkey, word, hword, rfl⟩

/-! ### The literals whose methods are mentioned -/

/-- A node of the given kind stands at the position. -/
def KindAt (root : Node) (p : Position) (kind : String) : Prop :=
  ∃ n, root.at? p = some n ∧ n.kind = kind

def Spells (n : Node) (field name : String) : Prop :=
  ∃ c, n.child? field = some c ∧ c.identifier? = some name

/-- The assignment at `a` assigns the object literal at `o`. -/
structure Assigns (root : Node) (a o : Position) : Prop where
  assignment : KindAt root a "assignment_expression"
  right : Leads root a "right" o
  object : KindAt root o "object"

/-- The declarator at `d` binds the name of an owner to what stands at `a`. -/
structure BoundAt (root : Node) (d a : Position) (owner : String) : Prop where
  value : Leads root d "value" a
  name : ∃ n, root.at? d = some n ∧ n.kind = "variable_declarator" ∧ Spells n "name" owner

/-- A declarator binds the name of an owner to what stands at `a`. -/
def Bound (root : Node) (a : Position) (owner : String) : Prop :=
  ∃ d, BoundAt root d a owner

/-- The assignment at `a` is a statement of its own and sets the prototype of an owner. -/
structure SetsPrototype (root : Node) (a : Position) (owner : String) : Prop where
  statement : ∃ s i, a = s ++ [i] ∧ KindAt root s "expression_statement"
  left : ∃ n place, root.at? a = some n ∧ n.child? "left" = some place ∧
    place.kind = "member_expression" ∧ Spells place "property" "prototype" ∧
    Spells place "object" owner

/-- The property at `p` is a method of an owner under a key that spells a word. It belongs to an
object literal that is assigned, and the assignment is related to the owner. -/
def MethodAt (root : Node) (owns : Position → String → Prop) (p : Position) (owner : String)
    (key : Node) (word : String) : Prop :=
  ∃ a o i property, Assigns root a o ∧ owns a owner ∧ p = o ++ [i] ∧
    root.at? p = some property ∧ property.named = true ∧ HoldsFunction property key ∧
    key.identifier? = some word

/-- The property at `p` is a method of a variable or of a prototype. -/
def Method (root : Node) (p : Position) (owner : String) (key : Node) (word : String) : Prop :=
  MethodAt root (Bound root) p owner key word ∨ MethodAt root (SetsPrototype root) p owner key word

/-- The node at `d` gives the object literal at `o` to an owner. -/
def Gives (root : Node) (d o : Position) (owner : String) : Prop :=
  ∃ a, Assigns root a o ∧ (BoundAt root d a owner ∨ d = a ∧ SetsPrototype root a owner)

/-- The owner and the object literal of a declarator that binds an assignment. -/
def boundLiteral? (n : Node) : Option (String × Node) := do
  let assignment ←
    ((n.child? "value").bind Node.ungroup).filter (·.kind == "assignment_expression")
  let owner ← (n.child? "name").bind Node.identifier?
  let object ← assignedObject? assignment
  return (owner, object)

/-- The owner and the object literal of an assignment to a prototype. -/
def prototypeLiteral? (parentKind : Option String) (n : Node) : Option (String × Node) :=
  if parentKind == some "expression_statement" then do
    let owner ← (n.child? "left").bind prototypeOwner?
    let object ← assignedObject? n
    return (owner, object)
  else none

/-- The owner and the object literal whose methods a node mentions. -/
def literal? (parentKind : Option String) (n : Node) : Option (String × Node) :=
  if n.kind == "variable_declarator" then boundLiteral? n
  else if n.kind == "assignment_expression" then prototypeLiteral? parentKind n
  else none

theorem filter_methods (owner : String) (object : Node) :
    (methods owner object).filter (·.kind = .method) = methods owner object := by
  rw [List.filter_eq_self]
  intro m hm
  obtain ⟨property, -, hproperty⟩ := List.mem_filterMap.mp hm
  obtain ⟨key, word, -, -, rfl⟩ := method?_eq_some.mp hproperty
  rfl

theorem filter_binding (n : Node) :
    (binding n).filter (·.kind = .method) =
      (boundLiteral? n).toList.flatMap fun x => methods x.1 x.2 := by
  unfold binding boundLiteral?
  cases (n.child? "value").bind Node.ungroup with
  | none => rfl
  | some value =>
    cases (n.child? "name").bind Node.identifier? with
    | none => simp
    | some owner =>
      by_cases hkind : value.kind = "assignment_expression"
      · have hcall : value.isImportCall = false := by simp [Node.isImportCall, hkind]
        have hmember : value.isMember = false := by simp [Node.isMember, hkind]
        cases hobject : assignedObject? value with
        | none => simp [hcall, hmember, hkind, hobject, Option.filter_some]
        | some object =>
          simp [hcall, hmember, hkind, hobject, Option.filter_some, filter_methods]
      · have hnone : (some value).filter (·.kind == "assignment_expression") = none := by
          simp [hkind]
        simp only [hnone, beq_iff_eq, hkind, if_false]
        split_ifs <;> simp

theorem filter_declaration (n : Node) : (declaration n).filter (·.kind = .method) = [] := by
  unfold declaration
  split
  · split_ifs <;> simp
  · rfl

theorem filter_prototypeAssignment (parentKind : Option String) (n : Node) :
    (prototypeAssignment parentKind n).filter (·.kind = .method) =
      (prototypeLiteral? parentKind n).toList.flatMap fun x => methods x.1 x.2 := by
  unfold prototypeAssignment prototypeLiteral?
  split_ifs
  · cases (n.child? "left").bind prototypeOwner? with
    | none => rfl
    | some owner =>
      cases assignedObject? n with
      | none => rfl
      | some object => simp [filter_methods]
  · rfl

/-- Only a literal gives methods; the other mentions are of other kinds. -/
theorem filter_visit (parentKind : Option String) (n : Node) :
    (visit parentKind n).filter (·.kind = .method) =
      (literal? parentKind n).toList.flatMap fun x => methods x.1 x.2 := by
  unfold visit literal?
  by_cases hdeclarator : n.kind = "variable_declarator"
  · simp only [hdeclarator]
    exact filter_binding n
  · by_cases hassignment : n.kind = "assignment_expression"
    · simp [hassignment, filter_prototypeAssignment]
    · simp only [beq_iff_eq, hdeclarator, hassignment, if_false]
      split_ifs
      · exact filter_declaration n
      · rfl

/-! ### Reading the literals off the tree -/

section

variable {root : Node} {a d o : Position} {owner : String} {n object : Node}

theorem KindAt.eq {kind : String} (h : KindAt root a kind) (hn : root.at? a = some n) :
    n.kind = kind := by
  obtain ⟨m, hm, rfl⟩ := h
  rw [Option.some.inj (hn.symm.trans hm)]

theorem BoundAt.declarator (h : BoundAt root d a owner) : KindAt root d "variable_declarator" := by
  obtain ⟨n, hn, hkind, -⟩ := h.name
  exact ⟨n, hn, hkind⟩

theorem assignedObject?_eq_some (hn : root.at? a = some n)
    (hkind : n.kind = "assignment_expression") :
    assignedObject? n = some object ↔ ∃ o, Assigns root a o ∧ root.at? o = some object := by
  rw [assignedObject?, Option.filter_eq_some_iff, ungroup_child? hn]
  constructor
  · rintro ⟨⟨o, hright, ho⟩, hobject⟩
    exact ⟨o, ⟨⟨n, hn, hkind⟩, hright, object, ho, by simpa [Node.isObject] using hobject⟩, ho⟩
  · rintro ⟨o, hassigns, ho⟩
    refine ⟨⟨o, hassigns.right, ho⟩, ?_⟩
    simp [Node.isObject, hassigns.object.eq ho]

theorem boundLiteral?_eq_some (hn : root.at? d = some n) (hkind : n.kind = "variable_declarator") :
    boundLiteral? n = some (owner, object) ↔
      ∃ o a, Assigns root a o ∧ BoundAt root d a owner ∧ root.at? o = some object := by
  simp only [boundLiteral?, Option.bind_eq_bind, Option.pure_def, Option.bind_eq_some_iff,
    Option.filter_eq_some_iff, Option.some.injEq, Prod.mk.injEq, ungroup_child? hn]
  constructor
  · rintro ⟨m, ⟨⟨a, hvalue, hm⟩, hassignment⟩, owner, howner, object, hobject, rfl, rfl⟩
    obtain ⟨o, hassigns, ho⟩ :=
      (assignedObject?_eq_some hm (by simpa using hassignment)).mp hobject
    exact ⟨o, a, hassigns, ⟨hvalue, n, hn, hkind, howner⟩, ho⟩
  · rintro ⟨o, a, hassigns, ⟨hvalue, n', hn', -, howner⟩, ho⟩
    obtain rfl : n = n' := Option.some.inj (hn.symm.trans hn')
    obtain ⟨m, hm, hassignment⟩ := hassigns.assignment
    exact ⟨m, ⟨⟨a, hvalue, hm⟩, by simpa using hassignment⟩, owner,
      howner, object,
      (assignedObject?_eq_some hm hassignment).mpr ⟨o, hassigns, ho⟩, rfl, rfl⟩

theorem prototypeOwner?_eq_some {place : Node} :
    prototypeOwner? place = some owner ↔ place.kind = "member_expression" ∧
      Spells place "property" "prototype" ∧ Spells place "object" owner := by
  simp [prototypeOwner?, Spells, Option.bind_eq_some_iff, and_assoc]

theorem prototypeLiteral?_eq_some (hn : root.at? a = some n)
    (hkind : n.kind = "assignment_expression") :
    prototypeLiteral? (root.parentKindAt none a) n = some (owner, object) ↔
      ∃ o, Assigns root a o ∧ SetsPrototype root a owner ∧ root.at? o = some object := by
  have hstatement : root.parentKindAt none a = some "expression_statement" ↔
      ∃ s i, a = s ++ [i] ∧ KindAt root s "expression_statement" := by
    rw [Node.parentKindAt_eq_some hn]
    constructor
    · rintro ⟨s, i, m, ha, hm, hstatement⟩
      exact ⟨s, i, ha, m, hm, hstatement⟩
    · rintro ⟨s, i, ha, m, hm, hstatement⟩
      exact ⟨s, i, m, ha, hm, hstatement⟩
  simp only [prototypeLiteral?, beq_iff_eq, Option.ite_none_right_eq_some, hstatement,
    Option.bind_eq_bind, Option.pure_def, Option.bind_eq_some_iff, Option.some.injEq,
    Prod.mk.injEq, prototypeOwner?_eq_some, assignedObject?_eq_some hn hkind]
  constructor
  · rintro ⟨hparent, owner, ⟨place, hleft, hplace⟩, object, ⟨o, hassigns, ho⟩, rfl, rfl⟩
    exact ⟨o, hassigns, ⟨hparent, n, place, hn, hleft, hplace⟩, ho⟩
  · rintro ⟨o, hassigns, ⟨hparent, n', place, hn', hleft, hplace⟩, ho⟩
    obtain rfl : n = n' := Option.some.inj (hn.symm.trans hn')
    exact ⟨hparent, owner, ⟨place, hleft, hplace⟩, object, ⟨o, hassigns, ho⟩, rfl, rfl⟩

theorem literal?_eq_some (hn : root.at? d = some n) :
    literal? (root.parentKindAt none d) n = some (owner, object) ↔
      ∃ o, Gives root d o owner ∧ root.at? o = some object := by
  unfold literal?
  split_ifs with hdeclarator hassignment
  · rw [beq_iff_eq] at hdeclarator
    rw [boundLiteral?_eq_some hn hdeclarator]
    constructor
    · rintro ⟨o, a, hassigns, hbound, ho⟩
      exact ⟨o, ⟨a, hassigns, .inl hbound⟩, ho⟩
    · rintro ⟨o, ⟨a, hassigns, hbound | ⟨rfl, -⟩⟩, ho⟩
      · exact ⟨o, a, hassigns, hbound, ho⟩
      · simp [hassigns.assignment.eq hn] at hdeclarator
  · rw [beq_iff_eq] at hassignment
    rw [prototypeLiteral?_eq_some hn hassignment]
    constructor
    · rintro ⟨o, hassigns, hsets, ho⟩
      exact ⟨o, ⟨d, hassigns, .inr ⟨rfl, hsets⟩⟩, ho⟩
    · rintro ⟨o, ⟨a, hassigns, hbound | ⟨rfl, hsets⟩⟩, ho⟩
      · simp [hbound.declarator.eq hn] at hassignment
      · exact ⟨o, hassigns, hsets, ho⟩
  · simp only [false_iff]
    rintro ⟨o, ⟨a, hassigns, hbound | ⟨rfl, -⟩⟩, -⟩
    · simp [hbound.declarator.eq hn] at hdeclarator
    · simp [hassigns.assignment.eq hn] at hassignment

/-! ### No literal is given twice -/

variable {a' d' : Position} {owner' : String}

theorem Assigns.holds (h : Assigns root a o) : Holds root a o := by
  obtain ⟨n, hn, hkind⟩ := h.assignment
  exact h.right.holds hn (by simp [Node.isGroup, hkind])

theorem BoundAt.holds (h : BoundAt root d a owner) : Holds root d a := by
  obtain ⟨n, hn, hkind⟩ := h.declarator
  exact h.value.holds hn (by simp [Node.isGroup, hkind])

/-- A statement is the nearest node above the assignment that is no group. -/
theorem SetsPrototype.holds (h : SetsPrototype root a owner)
    (ha : KindAt root a "assignment_expression") :
    ∃ s, KindAt root s "expression_statement" ∧ Holds root s a := by
  obtain ⟨s, i, rfl, m, hm, hstatement⟩ := h.statement
  obtain ⟨n, hn, hkind⟩ := ha
  refine ⟨s, ⟨m, hm, hstatement⟩, holds_child hm ?_ hn ?_⟩
  · simp [Node.isGroup, hstatement]
  · simp [Node.isGroup, hkind]

theorem Spells.unique {field name name' : String} (h : Spells n field name)
    (h' : Spells n field name') : name = name' := by
  obtain ⟨c, hc, hname⟩ := h
  obtain ⟨c', hc', hname'⟩ := h'
  obtain rfl : c = c' := Option.some.inj (hc.symm.trans hc')
  exact Option.some.inj (hname.symm.trans hname')

theorem BoundAt.unique (h : BoundAt root d a owner) (h' : BoundAt root d' a owner') :
    d = d' ∧ owner = owner' := by
  obtain rfl : d = d' := h.holds.unique h'.holds
  obtain ⟨n, hn, -, howner⟩ := h.name
  obtain ⟨n', hn', -, howner'⟩ := h'.name
  obtain rfl : n = n' := Option.some.inj (hn.symm.trans hn')
  exact ⟨rfl, howner.unique howner'⟩

theorem SetsPrototype.unique (h : SetsPrototype root a owner) (h' : SetsPrototype root a owner') :
    owner = owner' := by
  obtain ⟨n, place, hn, hplace, -, -, howner⟩ := h.left
  obtain ⟨n', place', hn', hplace', -, -, howner'⟩ := h'.left
  obtain rfl : n = n' := Option.some.inj (hn.symm.trans hn')
  obtain rfl : place = place' := Option.some.inj (hplace.symm.trans hplace')
  exact howner.unique howner'

/-- A declarator is no statement, so an assignment has one of the two above it at most. -/
theorem BoundAt.not_setsPrototype (h : BoundAt root d a owner)
    (ha : KindAt root a "assignment_expression") : ¬ SetsPrototype root a owner' := by
  intro hsets
  obtain ⟨s, hstatement, hholds⟩ := hsets.holds ha
  obtain rfl : d = s := h.holds.unique hholds
  obtain ⟨n, hn, hkind⟩ := h.declarator
  simp [hstatement.eq hn] at hkind

theorem Gives.unique (h : Gives root d o owner) (h' : Gives root d' o owner') :
    d = d' ∧ owner = owner' := by
  obtain ⟨a, hassigns, hgives⟩ := h
  obtain ⟨a', hassigns', hgives'⟩ := h'
  obtain rfl : a = a' := hassigns.holds.unique hassigns'.holds
  obtain hbound | ⟨rfl, hsets⟩ := hgives <;> obtain hbound' | ⟨rfl, hsets'⟩ := hgives'
  · exact hbound.unique hbound'
  · exact absurd hsets' (hbound.not_setsPrototype hassigns.assignment)
  · exact absurd hsets (hbound'.not_setsPrototype hassigns.assignment)
  · exact ⟨rfl, hsets.unique hsets'⟩

theorem Gives.exists_literal (h : Gives root d o owner) : ∃ object, root.at? o = some object := by
  obtain ⟨a, hassigns, -⟩ := h
  obtain ⟨object, ho, -⟩ := hassigns.object
  exact ⟨object, ho⟩

theorem Gives.exists_node (h : Gives root d o owner) : ∃ n, root.at? d = some n := by
  obtain ⟨a, hassigns, hbound | ⟨rfl, -⟩⟩ := h
  · obtain ⟨n, hn, -⟩ := hbound.declarator
    exact ⟨n, hn⟩
  · obtain ⟨n, hn, -⟩ := hassigns.assignment
    exact ⟨n, hn⟩

theorem Gives.literal_unique {o' : Position} (h : Gives root d o owner)
    (h' : Gives root d o' owner') : o = o' := by
  obtain ⟨a, hassigns, hgives⟩ := h
  obtain ⟨a', hassigns', hgives'⟩ := h'
  have hdifferent : ∀ {b owner}, BoundAt root d b owner →
      ¬ KindAt root d "assignment_expression" := by
    rintro b owner hbound ⟨n, hn, hkind⟩
    simp [hbound.declarator.eq hn] at hkind
  have ha : a = a' := by
    obtain hbound | ⟨rfl, -⟩ := hgives <;> obtain hbound' | ⟨rfl, -⟩ := hgives'
    · exact hbound.value.unique hbound'.value
    · exact absurd hassigns'.assignment (hdifferent hbound)
    · exact absurd hassigns.assignment (hdifferent hbound')
    · rfl
  subst ha
  exact hassigns.right.unique hassigns'.right

end

/-! ### The mentions of methods -/

/-- The property at `p` of a literal that the node at `d` gives to an owner makes a mention. -/
def MentionedAt (root : Node) (d p : Position) (m : Mention) : Prop :=
  ∃ o owner i property, Gives root d o owner ∧ p = o ++ [i] ∧ root.at? p = some property ∧
    property.named = true ∧ method? owner property = some m

theorem methods_enumerates (owner : String) (object : Node) :
    Enumerates (fun (i : ℕ) m => ∃ property, object.children[i]? = some property ∧
      property.named = true ∧ method? owner property = some m) (methods owner object) := by
  rw [methods, Node.namedChildren, List.filterMap_filter]
  refine (Enumerates.filterMap _ object.children).congr fun i m => ?_
  simp [Option.bind_eq_some_iff]

/-- One station of the walk: what it mentions stands for the properties that it reaches. -/
theorem visit_enumerates {root n : Node} {d : Position} (hn : root.at? d = some n) :
    Enumerates (MentionedAt root d)
      ((visit (root.parentKindAt none d) n).filter (·.kind = .method)) := by
  rw [filter_visit]
  cases hliteral : literal? (root.parentKindAt none d) n with
  | none =>
    refine .nil ?_
    rintro p m ⟨o, owner, i, property, hgives, -⟩
    obtain ⟨object, ho⟩ := hgives.exists_literal
    rw [(literal?_eq_some hn).mpr ⟨o, hgives, ho⟩] at hliteral
    cases hliteral
  | some x =>
    obtain ⟨owner, object⟩ := x
    obtain ⟨o, hgives, ho⟩ := (literal?_eq_some hn).mp hliteral
    have hpath : Function.Injective fun i : ℕ => o ++ [i] := by
      intro i j hij
      simpa using hij
    simp only [Option.toList_some, List.flatMap_singleton]
    refine ((methods_enumerates owner object).mapPlaces hpath).congr fun p m => ?_
    constructor
    · rintro ⟨i, rfl, property, hproperty, hnamed, hm⟩
      exact ⟨o, owner, i, property, hgives, rfl, (Node.at?_child ho i).trans hproperty, hnamed, hm⟩
    · rintro ⟨o', owner', i, property, hgives', rfl, hproperty, hnamed, hm⟩
      -- The station gives no second literal, and no second owner to this one.
      obtain rfl : o = o' := hgives.literal_unique hgives'
      obtain ⟨-, rfl⟩ := hgives.unique hgives'
      exact ⟨i, rfl, property, (Node.at?_child ho i).symm.trans hproperty, hnamed, hm⟩

/-- A property is reached from one station only. -/
theorem MentionedAt.unique {root : Node} {d d' p : Position} {m m' : Mention}
    (h : MentionedAt root d p m) (h' : MentionedAt root d' p m') : d = d' ∧ m = m' := by
  obtain ⟨o, owner, i, property, hgives, rfl, hproperty, -, hm⟩ := h
  obtain ⟨o', owner', i', property', hgives', heq, hproperty', -, hm'⟩ := h'
  obtain ⟨rfl, -⟩ := List.append_inj' heq rfl
  obtain ⟨rfl, rfl⟩ := hgives.unique hgives'
  obtain rfl : property = property' := Option.some.inj (hproperty.symm.trans hproperty')
  exact ⟨rfl, Option.some.inj (hm.symm.trans hm')⟩

/-- A whole walk lists what its stations list, as long as no place is listed from two of them. -/
theorem mentions_enumerates_of_visit {root : Node} {keep : Mention → Bool}
    {R : Position → Node → Position → Mention → Prop}
    (hvisit : ∀ d n, root.at? d = some n →
      Enumerates (R d n) ((visit (root.parentKindAt none d) n).filter keep))
    (hunique : ∀ d n d' n' p m m', R d n p m → R d' n' p m' → d = d') :
    Enumerates (fun p m => ∃ d n, root.at? d = some n ∧ R d n p m)
      ((mentions root).filter keep) := by
  have hwalk : (mentions root).filter keep =
      (root.sites [] none).flatMap fun s => (visit s.parentKind s.node).filter keep := by
    rw [mentions_eq, ← Node.sites_stations [] none root, List.flatMap_map, List.filter_flatMap]
  have hnodup := Node.sites_nodup [] none root
  rw [hwalk]
  refine (Enumerates.flatMap hnodup.of_map (R := fun s => R s.position s.node) ?_ ?_).congr ?_
  · intro s hs
    obtain ⟨hnode, hparent⟩ := Node.mem_sites_root.mp hs
    rw [hparent]
    exact hvisit s.position s.node hnode
  -- Two stations that list one place stand at one position, and positions are not repeated.
  · intro s hs t ht p m m' hm hm'
    exact List.inj_on_of_nodup_map hnodup hs ht (hunique _ _ _ _ _ _ _ hm hm')
  · intro p m
    constructor
    · rintro ⟨s, hs, hm⟩
      exact ⟨s.position, s.node, (Node.mem_sites_root.mp hs).1, hm⟩
    · rintro ⟨d, n, hn, hm⟩
      exact ⟨⟨d, root.parentKindAt none d, n⟩, Node.mem_sites_root.mpr ⟨hn, rfl⟩, hm⟩

/-- The whole walk: the mentions of methods stand for the properties reached from any station. -/
theorem mentions_enumerates (root : Node) :
    Enumerates (fun p m => ∃ d, MentionedAt root d p m)
      ((mentions root).filter (·.kind = .method)) := by
  refine (mentions_enumerates_of_visit (R := fun d _ => MentionedAt root d)
    (fun d n hn => visit_enumerates hn) fun _ _ _ _ _ _ _ hm hm' => (hm.unique hm').1).congr ?_
  intro p m
  constructor
  · rintro ⟨d, -, -, hm⟩
    exact ⟨d, hm⟩
  · rintro ⟨d, hm⟩
    obtain ⟨_, _, _, _, hgives, -⟩ := id hm
    obtain ⟨n, hn⟩ := hgives.exists_node
    exact ⟨d, n, hn, hm⟩

theorem MethodAt.exclusive {root : Node} {p : Position} {owner owner' word word' : String}
    {key key' : Node} (h : MethodAt root (Bound root) p owner key word) :
    ¬ MethodAt root (SetsPrototype root) p owner' key' word' := by
  rintro ⟨a', o', i', -, hassigns', hsets, heq, -⟩
  obtain ⟨a, o, i, -, hassigns, ⟨d, hbound⟩, rfl, -⟩ := h
  obtain ⟨rfl, -⟩ := List.append_inj' heq rfl
  obtain rfl : a = a' := hassigns.holds.unique hassigns'.holds
  exact hbound.not_setsPrototype hassigns.assignment hsets

theorem method_iff_gives {root : Node} {p : Position} {owner word : String} {key : Node} :
    Method root p owner key word ↔ ∃ d o i property, Gives root d o owner ∧ p = o ++ [i] ∧
      root.at? p = some property ∧ property.named = true ∧ HoldsFunction property key ∧
      key.identifier? = some word := by
  constructor
  · rintro (⟨a, o, i, property, hassigns, ⟨d, hbound⟩, hrest⟩ |
      ⟨a, o, i, property, hassigns, hsets, hrest⟩)
    · exact ⟨d, o, i, property, ⟨a, hassigns, .inl hbound⟩, hrest⟩
    · exact ⟨a, o, i, property, ⟨a, hassigns, .inr ⟨rfl, hsets⟩⟩, hrest⟩
  · rintro ⟨d, o, i, property, ⟨a, hassigns, hbound | ⟨rfl, hsets⟩⟩, hrest⟩
    · exact .inl ⟨a, o, i, property, hassigns, ⟨d, hbound⟩, hrest⟩
    · exact .inr ⟨d, o, i, property, hassigns, hsets, hrest⟩

theorem Method.unique {root : Node} {p : Position} {owner owner' word word' : String}
    {key key' : Node} (h : Method root p owner key word) (h' : Method root p owner' key' word') :
    owner = owner' ∧ key = key' ∧ word = word' := by
  obtain ⟨d, o, i, property, hgives, rfl, hproperty, -, hkey, hword⟩ := method_iff_gives.mp h
  obtain ⟨d', o', i', property', hgives', heq, hproperty', -, hkey', hword'⟩ :=
    method_iff_gives.mp h'
  obtain ⟨rfl, -⟩ := List.append_inj' heq rfl
  obtain ⟨-, rfl⟩ := hgives.unique hgives'
  obtain rfl : property = property' := Option.some.inj (hproperty.symm.trans hproperty')
  rw [← methodKey?_eq_some] at hkey hkey'
  obtain rfl : key = key' := Option.some.inj (hkey.symm.trans hkey')
  exact ⟨rfl, rfl, Option.some.inj (hword.symm.trans hword')⟩

theorem exists_mentionedAt {root : Node} {p : Position} {m : Mention} :
    (∃ d, MentionedAt root d p m) ↔ ∃ owner key word, Method root p owner key word ∧
      m = ⟨owner ++ "." ++ word, word, .method, key.row⟩ := by
  simp only [method_iff_gives]
  constructor
  · rintro ⟨d, o, owner, i, property, hgives, hp, hproperty, hnamed, hm⟩
    obtain ⟨key, word, hkey, hword, rfl⟩ := method?_eq_some.mp hm
    exact ⟨owner, key, word, ⟨d, o, i, property, hgives, hp, hproperty, hnamed, hkey, hword⟩, rfl⟩
  · rintro ⟨owner, key, word, ⟨d, o, i, property, hgives, hp, hproperty, hnamed, hkey, hword⟩, rfl⟩
    exact ⟨d, o, owner, i, property, hgives, hp, hproperty, hnamed,
      method?_eq_some.mpr ⟨key, word, hkey, hword, rfl⟩⟩

end Extract

open Extract Syntax

/-- The tag of a method of an owner, at the line of its key. -/
def methodTag (file owner : String) (key : Node) (word : String) : Tag where
  name := owner ++ "." ++ word
  file := file
  address := address key.line word
  kind := .method
  lineno := key.line

/-- The method tags of a tree without errors stand one to one for the properties that are methods.
No property is a method of a variable and of a prototype at once, and each one has a single owner
and key. -/
theorem extractTree_methods {root : Node} (h : root.hasError = false) (file : String) :
    (∃ tags, extractTree root file = .ok ⟨file, tags⟩ ∧
      Enumerates (fun p tag => ∃ owner key word, Method root p owner key word ∧
        tag = methodTag file owner key word) (tags.filter (·.kind = .method))) ∧
    (∀ p owner key word owner' key' word', MethodAt root (Bound root) p owner key word →
      ¬ MethodAt root (SetsPrototype root) p owner' key' word') ∧
    ∀ p owner key word owner' key' word', Method root p owner key word →
      Method root p owner' key' word' → owner = owner' ∧ key = key' ∧ word = word' := by
  refine ⟨⟨(mentions root).map (·.tag file), extractTree_of_sound h file, ?_⟩,
    fun _ _ _ _ _ _ _ => MethodAt.exclusive, fun _ _ _ _ _ _ _ => Method.unique⟩
  have hfilter : ((mentions root).map (·.tag file)).filter (·.kind = .method) =
      ((mentions root).filter (·.kind = .method)).map (·.tag file) := by
    rw [List.filter_map]
    rfl
  rw [hfilter]
  refine ((mentions_enumerates root).mapEntries _).congr fun p tag => ?_
  simp only [exists_mentionedAt]
  constructor
  · rintro ⟨-, ⟨owner, key, word, hmethod, rfl⟩, rfl⟩
    exact ⟨owner, key, word, hmethod, rfl⟩
  · rintro ⟨owner, key, word, hmethod, rfl⟩
    exact ⟨_, ⟨owner, key, word, hmethod, rfl⟩, rfl⟩

/-- A script with a literal of each way, behind parentheses, and with properties that are no
methods. -/
def sampleTree : Node :=
  Script.read (Text.bytesOf ("var a = ((b = ({ f: (function () {}), get x() {} })));\n" ++
    "A.prototype =\n({ g() {}, h: 1 });"))

theorem extractTree_methods_sample :
    sampleTree.hasError = false ∧
      extractTree sampleTree "a.js" = .ok ⟨"a.js", [⟨"a.f", "a.js", "0/\\<f\\>/;\"", .method, 1⟩,
        ⟨"A.g", "a.js", "2/\\<g\\>/;\"", .method, 3⟩]⟩ ∧
      Enumerates (fun p tag => ∃ owner key word, Method sampleTree p owner key word ∧
        tag = methodTag "a.js" owner key word) [⟨"a.f", "a.js", "0/\\<f\\>/;\"", .method, 1⟩,
          ⟨"A.g", "a.js", "2/\\<g\\>/;\"", .method, 3⟩] := by
  -- One evaluation for both facts, so that the script is read once.
  have hsample : sampleTree.hasError = false ∧ (mentions sampleTree).map (·.tag "a.js") =
      [⟨"a.f", "a.js", "0/\\<f\\>/;\"", .method, 1⟩,
        ⟨"A.g", "a.js", "2/\\<g\\>/;\"", .method, 3⟩] := by
    decide +kernel
  obtain ⟨hsound, hmentions⟩ := hsample
  have hrun := extractTree_of_sound hsound "a.js"
  rw [hmentions] at hrun
  obtain ⟨⟨tags, htags, hmethods⟩, -⟩ := extractTree_methods hsound "a.js"
  rw [hrun, Except.ok.injEq, FileTags.mk.injEq] at htags
  rw [← htags.2] at hmethods
  exact ⟨hsound, hrun, hmethods⟩

end ScriptTags
