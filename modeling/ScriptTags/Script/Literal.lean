import ScriptTags.Script.Reader

/-!
# Literals

Strings, regular expressions and the escapes in them. The functions give the number of characters
that a literal takes up; a literal without an end gives none.
-/

namespace ScriptTags.Script

open Syntax

def escapeLength (cs : List Char) : Nat :=
  match cs with
  | '\\' :: 'x' :: a :: b :: _ => if isHexDigit a && isHexDigit b then 4 else 0
  | '\\' :: 'u' :: _ => unicodeEscapeLength cs
  | '\\' :: '\r' :: c :: _ =>
    if c == '\n' || c.toNat == 0x2028 || c.toNat == 0x2029 then 3 else 2
  | '\\' :: c :: rest =>
    if isOctalDigit c then 2 + ((rest.take 2).takeWhile isOctalDigit).length
    else if c == 'x' then 0 else 2
  | _ => 0

/-- The length of the rest of a string up to its closing sign. The first `skip` characters belong
to an escape. -/
def stringTail (sign : Char) (skip : Nat) : List Char → Option Nat
  | [] => none
  | c :: rest =>
    match skip with
    | skip + 1 => (stringTail sign skip rest).map (· + 1)
    | 0 =>
      if c == sign then some 1
      else if c == '\n' || c == '\r' then none
      else if c == '\\' then
        match escapeLength (c :: rest) with
        | 0 => none
        | length + 1 => (stringTail sign length rest).map (· + 1)
      else (stringTail sign 0 rest).map (· + 1)

/-- Where a reader of a regular expression stands. -/
inductive RegexState where
  | plain
  /-- Inside brackets. -/
  | set
  /-- After a backslash; the flag tells whether inside brackets. -/
  | escaped (inSet : Bool)

def regexTail : RegexState → List Char → Option Nat
  | _, [] => none
  | state, c :: rest =>
    if c == '\n' then none
    else match state with
      | .plain =>
        if c == '/' then some 1
        else (regexTail (if c == '\\' then .escaped false else if c == '[' then .set else .plain)
          rest).map (· + 1)
      | .set =>
        (regexTail (if c == '\\' then .escaped true else if c == ']' then .plain else .set)
          rest).map (· + 1)
      | .escaped inSet => (regexTail (if inSet then .set else .plain) rest).map (· + 1)

def flagsLength (cs : List Char) : Nat := (cs.takeWhile fun c => 'a' ≤ c && c ≤ 'z').length

/-- The length of a regular expression; two slashes or a slash and a star begin a comment. -/
def regexLength (cs : List Char) : Option Nat :=
  match cs with
  | '/' :: c :: rest =>
    if c == '/' || c == '*' then none
    else (regexTail .plain (c :: rest)).map fun n => n + 1 + flagsLength (rest.drop (n - 1))
  | _ => none

namespace Reader

def string : Reader Node := do
  match ← rest with
  | sign :: tail =>
    require (sign == '"' || sign == '\'')
    match stringTail sign 0 tail with
    | some n =>
      let r ← row
      advance (n + 1)
      return build "string" r []
    | none => failure
  | [] => failure

def regex : Reader Node := do
  match regexLength (← rest) with
  | some n =>
    let r ← row
    advance n
    return build "regex" r []
  | none => failure

def number : Reader Node := do
  match ← token with
  | .number n =>
    let r ← row
    advance n
    return build "number" r []
  | _ => failure

/-- A word that may be a name. -/
def name (kind : String) : Reader Node := do
  match ← token with
  | .word w =>
    require (!isReserved w)
    let r ← row
    advance w.length
    return leaf kind r w
  | _ => failure

/-- Any word, or a private name. -/
def memberName : Reader Node := do
  match ← token with
  | .word w =>
    let r ← row
    advance w.length
    return leaf "property_identifier" r w
  | .privateName w =>
    let r ← row
    advance w.length
    return leaf "private_property_identifier" r w
  | _ => failure

end Reader

end ScriptTags.Script
