import ScriptTags.Toml.Nest
import ScriptTags.Toml.Scalar

/-!
# Values of a settings text

A value is a string, a truth value, a number, a moment, an array or an inline table. Arrays may run
over several lines and hold comments; inline tables stay on one line.
-/

namespace ScriptTags.Toml

open Record ScriptTags.Toml.Parser

/-- Turns a problem into a failure at the place reached. -/
def orFail {α : Type} (r : Except Problem α) : Parser α :=
  match r with
  | .ok a => return a
  | .error problem => fail problem

/-- Passes over blanks, line breaks and comments between the items of an array. -/
def arrayGap : Nat → Parser Unit
  | 0 => return
  | fuel + 1 => do
    let before ← get
    skipWhile isBlankOrNewline
    comment
    if (← get).length != before.length then arrayGap fuel

def skipArrayGap : Parser Unit := do arrayGap ((← get).length + 1)

mutual

def valueWithin : Nat → Parser Value
  | 0 => fail .invalidValue
  | fuel + 1 => do
    match ← peek with
    | some '"' =>
      if ← sees "\"\"\"" then return .string (← multilineString '"')
      else return .string (← basicString)
    | some '\'' =>
      if ← sees "'''" then return .string (← multilineString '\'')
      else return .string (← literalString)
    | some '[' =>
      advance 1
      skipArrayGap
      return .list (← itemsWithin fuel)
    | some c =>
      if c == '\x7b' then
        advance 1
        skipWhile isBlank
        if ← sees "\x7d" then
          advance 1
          return .table []
        else return .table (← fieldsWithin fuel [] {})
      else if ← sees "true" then
        advance 4
        return .bool true
      else if ← sees "false" then
        advance 5
        return .bool false
      else scalar
    | none => scalar

/-- The items of an array up to its closing bracket. -/
def itemsWithin : Nat → Parser (List Value)
  | 0 => fail .openArray
  | fuel + 1 => do
    if ← sees "]" then
      advance 1
      return []
    else
      let v ← valueWithin fuel
      skipArrayGap
      if ← sees "]" then
        advance 1
        return [v]
      else if ← sees "," then
        advance 1
        skipArrayGap
        return v :: (← itemsWithin fuel)
      else fail .openArray

/-- The fields of an inline table, from a key on up to the closing brace. -/
def fieldsWithin : Nat → Value.Fields → Marks → Parser Value.Fields
  | 0, _, _ => fail .openTable
  | fuel + 1, fields, marks => do
    let (key, v) ← pairWithin fuel
    if marks.isClosed key then fail (.immutable key)
    else
      let name := key.getLast?.getD ""
      let fields ← orFail
        (updateNest false (addField (.duplicateKey name) name v) key.dropLast fields)
      skipWhile isBlank
      if ← sees "\x7d" then
        advance 1
        return fields
      else if ← sees "," then
        advance 1
        skipWhile isBlank
        fieldsWithin fuel fields (if isContainer v then marks.close key else marks)
      else fail .openTable

/-- A key, an equals sign and a value. -/
def pairWithin : Nat → Parser (Key × Value)
  | 0 => fail .invalidValue
  | fuel + 1 => do
    let k ← key
    if ← sees "=" then
      advance 1
      skipWhile isBlank
      let v ← valueWithin fuel
      return (k, v)
    else fail .missingEquals

end

/-- A key and its value. Each level of nesting reads at least one character, and three functions
take part in a level. -/
def pair : Parser (Key × Value) := do pairWithin (3 * (← get).length + 3)

end ScriptTags.Toml
