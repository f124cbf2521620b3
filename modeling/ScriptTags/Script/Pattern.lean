import ScriptTags.Script.Reader

/-!
# Patterns

Parameters and targets of assignments are read as expressions first, because only what follows
tells them apart. An expression that can be assigned to is then turned into a pattern. A literal
with a default for one of its names, as in `{a = 1}`, makes sense as a pattern only: it is open
until it has become one.
-/

namespace ScriptTags.Script

open Syntax

mutual

/-- Whether an expression makes sense as a pattern only. -/
def isOpen : Node → Bool
  | .mk head children =>
    head.kind == "object_assignment_pattern" ||
      (["object", "array", "pair", "spread_element"].contains head.kind && anyOpen children)

def anyOpen : List Node → Bool
  | [] => false
  | n :: rest => isOpen n || anyOpen rest

end

/-- The kinds of expressions that are patterns as they stand. -/
def targetKinds : List String :=
  ["identifier", "undefined", "member_expression", "subscript_expression"]

mutual

/-- The pattern that an expression spells; an element of a pattern may have a default or stand for
the remaining elements. -/
def asPattern? (element : Bool) : Node → Option Node
  | .mk head children =>
    if targetKinds.contains head.kind then some (.mk head children)
    else if head.kind == "object" then
      (asMembers? children).map (.mk { head with kind := "object_pattern" } ·)
    else if head.kind == "array" then
      (asElements? children).map (.mk { head with kind := "array_pattern" } ·)
    else if element && head.kind == "assignment_expression" then
      (asFirst? children).map (.mk { head with kind := "assignment_pattern" } ·)
    else if element && head.kind == "assignment_pattern" then some (.mk head children)
    else if head.kind == "object_pattern" || head.kind == "array_pattern" then
      some (.mk head children)
    else if element && head.kind == "spread_element" then
      (asFirst? children).map (.mk { head with kind := "rest_pattern" } ·)
    else none

def asFirst? : List Node → Option (List Node)
  | [] => none
  | n :: rest => (asPattern? false n).map (· :: rest)

def asElements? : List Node → Option (List Node)
  | [] => some []
  | n :: rest =>
    match asPattern? true n, asElements? rest with
    | some n, some rest => some (n :: rest)
    | _, _ => none

def asMembers? : List Node → Option (List Node)
  | [] => some []
  | n :: rest =>
    match asMember? n, asMembers? rest with
    | some n, some rest => some (n :: rest)
    | _, _ => none

def asMember? : Node → Option Node
  | .mk head children =>
    if head.kind == "shorthand_property_identifier" then
      some (.mk { head with kind := "shorthand_property_identifier_pattern" } children)
    else if head.kind == "object_assignment_pattern" then some (.mk head children)
    else if head.kind == "pair" then
      (asPair? children).map (.mk { head with kind := "pair_pattern" } ·)
    else if head.kind == "spread_element" then
      (asFirst? children).map (.mk { head with kind := "rest_pattern" } ·)
    else none

def asPair? : List Node → Option (List Node)
  | [] => some []
  | n :: rest =>
    match (if n.field == some "value" then asPattern? true n else some n), asPair? rest with
    | some n, some rest => some (n :: rest)
    | _, _ => none

end

/-- The target of an assignment: a pattern, or an expression in parentheses. -/
def asTarget? (n : Node) : Option Node :=
  if n.kind == "parenthesized_expression" then some n else asPattern? false n

end ScriptTags.Script
