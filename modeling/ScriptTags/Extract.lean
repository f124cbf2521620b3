import ScriptTags.Error
import ScriptTags.Syntax.Cursor
import ScriptTags.Syntax.Shape
import ScriptTags.Tag.Basic
import ScriptTags.Text.LetterCase

/-!
# Extraction

A walk over the syntax tree of a script finds the definitions worth a tag:

* a variable bound to a call of `require`, or to a member of one, is an import;
* a function declaration is a constructor or a function, by the case of its name;
* an object literal assigned to the prototype of an owner, or assigned to anything in the value of
  a variable, gives a method tag for each property that holds a function.

Each finding is a mention. The mentions of a tree are turned into tags one by one, and a tree with
a syntax error gives none.
-/

namespace ScriptTags

open Syntax

/-- A definition found in a tree: its name, the word to search for, and the row of its anchor. -/
structure Mention where
  name : String
  word : String
  kind : Kind
  row : Nat
  deriving DecidableEq, Repr

namespace Extract

/-- Getters and setters carry the keyword as an unnamed child. -/
def isAccessor (method : Node) : Bool :=
  method.children.any fun c => !c.named && (c.kind == "get" || c.kind == "set")

/-- The key of a property that holds a function. -/
def methodKey? (property : Node) : Option Node :=
  if property.kind == "pair" then
    if ((property.child? "value").bind Node.ungroup).any Node.isFunction then
      property.child? "key"
    else none
  else if property.kind == "method_definition" then
    if isAccessor property then none else property.child? "name"
  else none

/-- The mention of a method of `owner`, when the property is one and its key spells a name. -/
def method? (owner : String) (property : Node) : Option Mention := do
  let key ← methodKey? property
  let word ← key.identifier?
  return ⟨owner ++ "." ++ word, word, .method, key.row⟩

def methods (owner : String) (object : Node) : List Mention :=
  object.namedChildren.filterMap (method? owner)

/-- The object literal on the right of an assignment. -/
def assignedObject? (assignment : Node) : Option Node :=
  ((assignment.child? "right").bind Node.ungroup).filter Node.isObject

def binding (n : Node) : List Mention :=
  match (n.child? "value").bind Node.ungroup, (n.child? "name").bind Node.identifier? with
  | some value, some name =>
    if value.isImportCall then [⟨name, name, .importBinding, n.row⟩]
    else if value.isMember then
      if value.chainStart.any Node.isImportCall then [⟨name, name, .importBinding, n.row⟩] else []
    else if value.kind == "assignment_expression" then
      match assignedObject? value with
      | some object => methods name object
      | none => []
    else []
  | _, _ => []

def declaration (n : Node) : List Mention :=
  match (n.child? "name").bind Node.identifier? with
  | some name =>
    [⟨name, name, if Text.startsUpper name then .constructor else .function, n.row⟩]
  | none => []

/-- The name `Owner` of a place written `Owner.prototype`. -/
def prototypeOwner? (place : Node) : Option String :=
  if place.kind == "member_expression" &&
      (place.child? "property").bind Node.identifier? == some "prototype" then
    (place.child? "object").bind Node.identifier?
  else none

def prototypeAssignment (parentKind : Option String) (n : Node) : List Mention :=
  if parentKind == some "expression_statement" then
    match (n.child? "left").bind prototypeOwner?, assignedObject? n with
    | some owner, some object => methods owner object
    | _, _ => []
  else []

/-- The mentions made by a node below a parent of the given kind. -/
def visit (parentKind : Option String) (n : Node) : List Mention :=
  if n.kind == "variable_declarator" then binding n
  else if n.kind == "function_declaration" || n.kind == "generator_function_declaration" then
    declaration n
  else if n.kind == "assignment_expression" then prototypeAssignment parentKind n
  else []

def mentions (root : Node) : List Mention :=
  (Cursor.ofRoot root).walk.flatMap fun c => visit c.parentKind? c.focus

def firstErrorLine? (root : Node) : Option Nat :=
  ((Cursor.ofRoot root).walk.find? (·.focus.isError)).map (·.focus.line)

end Extract

def Mention.toTag (m : Mention) (file : String) : Record.Check Tag :=
  Tag.check (Tag.draft file (m.row + 1) m.name m.kind.letter m.word)

/-- The tags of several mentions, unless one of them makes no valid tag. -/
def Mention.toTags (file : String) : List Mention → Except Trouble (List Tag)
  | [] => .ok []
  | m :: rest =>
    match m.toTag file with
    | .accepted tag => (toTags file rest).map (tag :: ·)
    | .rejected issues => .error (.fatal (.invalidTag issues))

def extractTree (root : Node) (file : String) : Except Trouble FileTags :=
  if root.hasError then
    .error (.reported (.unparsable file ((Extract.firstErrorLine? root).map Int.ofNat)))
  else (Mention.toTags file (Extract.mentions root)).map (⟨file, ·⟩)

end ScriptTags
