import ScriptTags.Script.Expression

/-!
# Markup

Elements written in angle brackets inside a script. Between tags stands text, in which blanks and
what looks like a comment are text too, mixed with nested elements and expressions in braces.
-/

namespace ScriptTags.Script

open Syntax Reader

/-- The length of a character reference such as `&amp;` or `&#x41;`, else zero. -/
def referenceLength (cs : List Char) : Nat :=
  match cs with
  | '&' :: '#' :: x :: rest =>
    if x == 'x' || x == 'X' then ended 3 6 (rest.takeWhile isHexDigit).length rest
    else ended 2 5 ((x :: rest).takeWhile Char.isDigit).length (x :: rest)
  | '&' :: rest => ended 1 30 (rest.takeWhile Char.isAlpha).length rest
  | _ => 0
where
  ended (before most length : Nat) (rest : List Char) : Nat :=
    if 0 < length && length ≤ most && rest[length]? == some ';' then before + length + 1 else 0

def opensReference : List Char → Bool
  | '&' :: c :: _ => c == '#' || c.isAlpha
  | _ => false

def attributeTail (sign : Char) : List Char → Option Nat
  | [] => none
  | c :: rest =>
    if c == sign then some 1
    else if opensReference (c :: rest) && referenceLength (c :: rest) == 0 then none
    else (attributeTail sign rest).map (· + 1)

def tagNameLength (cs : List Char) : Nat :=
  match cs with
  | c :: _ => if isNameStart c then (cs.takeWhile fun c => isNamePart c || c == '-').length else 0
  | [] => 0

namespace Grammar

variable (g : Grammar)

def headIs (c : Char) : Reader Bool := return (← rest).head? == some c

/-- A name, possibly followed by others after points or a colon. -/
def tagName : Reader Node := do
  let r ← row
  let first := tagNameLength (← rest)
  require (first != 0)
  advance first
  repeatStep (fun _ => do
    if (← headIs '.') || (← headIs ':') then
      advance 1
      let next := tagNameLength (← rest)
      require (next != 0)
      advance next
      return .inl ()
    else return .inr (build "jsx_identifier" r [])) g.limit ()

/-- An expression in braces, or nothing in braces; only the closing brace is read after it. -/
def braces : Reader Node := do
  let r ← row
  advance 1
  passRemarks
  let inside ← if ← headIs '\x7d' then pure []
    else
      let n ← spreadOr (g.expressions true)
      pure [n]
  require (← headIs '\x7d')
  advanceRaw 1
  return build "jsx_expression" r inside

def attributeValue : Reader Node := do
  let r ← row
  match ← rest with
  | c :: tail =>
    if c == '"' || c == '\'' then
      match attributeTail c tail with
      | some n =>
        advance (n + 1)
        return build "string" r []
      | none => failure
    else if c == '\x7b' then
      let n ← g.braces
      advance 0
      return n
    else
      let n ← g.element
      advance 0
      return n
  | [] => failure

def attributes : Reader (List Node) :=
  repeatStep (fun acc => do
    if ← headIs '\x7b' then
      let n ← g.braces
      advance 0
      return .inl (n :: acc)
    else if tagNameLength (← rest) != 0 then
      let r ← row
      let n ← g.tagName
      if ← headIs '=' then
        advance 1
        let v ← g.attributeValue
        return .inl (build "jsx_attribute" r [n, v] :: acc)
      else return .inl (build "jsx_attribute" r [n] :: acc)
    else return .inr acc.reverse) g.limit []

/-- What stands between two tags. -/
def elementContent : Reader (List Node) :=
  repeatStep (fun acc => do
    match ← rest with
    | [] => failure
    | '<' :: '/' :: _ => return .inr acc.reverse
    | '<' :: _ => return .inl ((← g.element) :: acc)
    | c :: tail =>
      if c == '\x7b' then return .inl ((← g.braces) :: acc)
      else if c == '\x7d' || c == '>' then failure
      else if c == '&' then
        let n := referenceLength (c :: tail)
        require (n != 0)
        advanceRaw n
        return .inl acc
      else
        advanceRaw 1
        return .inl acc) g.limit []

def closingTag : Reader Unit := do
  advance 2
  unless ← headIs '>' do
    let _ ← g.tagName
  require (← headIs '>')
  advanceRaw 1

/-- An element with its content, or a fragment without a name. -/
def markup : Reader Node := do
  let r ← row
  require (← headIs '<')
  advance 1
  if ← headIs '>' then
    advanceRaw 1
    let content ← g.elementContent
    g.closingTag
    return build "jsx_element" r content
  else
    let n ← g.tagName
    let attrs ← g.attributes
    if ← headIs '/' then
      advance 1
      require (← headIs '>')
      advanceRaw 1
      return build "jsx_self_closing_element" r (under "name" n :: attrs)
    else
      require (← headIs '>')
      advanceRaw 1
      let content ← g.elementContent
      g.closingTag
      return build "jsx_element" r (under "name" n :: attrs ++ content)

end Grammar

end ScriptTags.Script
