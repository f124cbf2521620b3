import ScriptTags.Syntax.Node

/-!
# Shapes

The shapes of syntax that tags are made from: identifiers, calls of `require`, object literals,
member accesses and function values. Grouping parentheses are looked through, and so are chains of
member accesses, down to the expression they start from.
-/

namespace ScriptTags.Syntax.Node

/-- The kinds whose text is a name. -/
def identifierKinds : List String :=
  ["identifier", "property_identifier", "shorthand_property_identifier"]

/-- The name that a node spells, if it is an identifier with a text. -/
def identifier? (n : Node) : Option String :=
  if identifierKinds.contains n.kind then
    match n.head.text with
    | some (b :: bytes) => some (String.ofList (Text.Utf8.decode (b :: bytes)))
    | _ => none
  else none

/-- A call of `require`, whatever its arguments. -/
def isImportCall (n : Node) : Bool :=
  n.kind == "call_expression" &&
    (n.child? "function").any fun callee =>
      callee.kind == "identifier" && callee.identifier? == some "require"

def isObject (n : Node) : Bool := n.kind == "object"

def isMember (n : Node) : Bool :=
  n.kind == "member_expression" || n.kind == "subscript_expression"

def isFunction (n : Node) : Bool :=
  n.kind == "function_expression" || n.kind == "function"

def isGroup (n : Node) : Bool := n.kind == "parenthesized_expression"

/-- A child that a group may hold: named, and not a comment. -/
def isContent (n : Node) : Bool := n.named && n.kind != "comment"

mutual

/-- The expression inside grouping parentheses; an empty group holds none. -/
def ungroup : Node → Option Node
  | .mk head children =>
    if head.kind == "parenthesized_expression" then ungroupFirst children
    else some (.mk head children)

def ungroupFirst : List Node → Option Node
  | [] => none
  | n :: rest => if n.isContent then n.ungroup else ungroupFirst rest

end

mutual

/-- The expression from which a chain of member accesses starts, looking through groups. -/
def chainStart : Node → Option Node
  | .mk head children =>
    if head.kind == "parenthesized_expression" then chainStartInGroup children
    else if head.kind == "member_expression" || head.kind == "subscript_expression" then
      chainStartOfObject children
    else some (.mk head children)

def chainStartInGroup : List Node → Option Node
  | [] => none
  | n :: rest => if n.isContent then n.chainStart else chainStartInGroup rest

def chainStartOfObject : List Node → Option Node
  | [] => none
  | n :: rest => if n.field == some "object" then n.chainStart else chainStartOfObject rest

end

end ScriptTags.Syntax.Node
