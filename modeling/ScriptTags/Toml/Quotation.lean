import ScriptTags.Toml.Problem

/-!
# Strings and keys of a settings text

Strings stand between single quotes, where every character means itself, or between double quotes,
where a backslash begins an escape; tripled quotes let a string run over several lines.
-/

namespace ScriptTags.Toml

open ScriptTags.Toml.Parser

def isHexDigit (c : Char) : Bool :=
  c.isDigit || ('a' ≤ c && c ≤ 'f') || ('A' ≤ c && c ≤ 'F')

def digitValue (c : Char) : Nat :=
  if c.isDigit then c.toNat - 48
  else if 'a' ≤ c then c.toNat - 87
  else c.toNat - 55

def numberOf (base : Nat) (digits : List Char) : Nat :=
  digits.foldl (fun n c => n * base + digitValue c) 0

def hexCharacter (length : Nat) : Parser (List Char) := do
  let digits := (← get).take length
  if digits.length != length || !digits.all isHexDigit then fail .invalidHex
  else
    advance length
    let n := numberOf 16 digits
    if n < 0xD800 || (0xE000 ≤ n && n ≤ 0x10FFFF) then return [Char.ofNat n]
    else fail .notScalar

def shortEscape? : Char → Option Char
  | 'b' => some (Char.ofNat 8)
  | 't' => some '\t'
  | 'n' => some '\n'
  | 'f' => some (Char.ofNat 12)
  | 'r' => some '\r'
  | '"' => some '"'
  | '\\' => some '\\'
  | _ => none

/-- An escape from its backslash on. Where lines may break, a backslash at the end of a line hides
the break and all blanks after it. -/
def escape (lines : Bool) : Parser (List Char) := do
  let sign := (← get)[1]?
  advance 2
  match sign with
  | none => fail .unescapedBackslash
  | some c =>
    if lines && isBlankOrNewline c then
      if c == '\n' then
        skipWhile isBlankOrNewline
        return []
      else
        skipWhile isBlank
        match ← peek with
        | none => return []
        | some d =>
          if d == '\n' then
            skipWhile isBlankOrNewline
            return []
          else fail .unescapedBackslash
    else if c == 'u' then hexCharacter 4
    else if c == 'U' then hexCharacter 8
    else match shortEscape? c with
      | some d => return [d]
      | none => fail .unescapedBackslash

/-- The rest of a string in double quotes, of which `read` has been read, in reverse order. -/
def basicTail (lines : Bool) : Nat → List Char → Parser (List Char)
  | 0, _ => fail .unterminated
  | fuel + 1, read => do
    match ← peek with
    | none => fail .unterminated
    | some c =>
      if c == '"' then
        if !lines then
          advance 1
          return read.reverse
        else if ← sees "\"\"\"" then
          advance 3
          return read.reverse
        else
          advance 1
          basicTail lines fuel (c :: read)
      else if c == '\\' then
        let cs ← escape lines
        basicTail lines fuel (cs.reverse ++ read)
      else if if lines then isControlInLines c else isControl c then
        fail (.illegalCharacter c)
      else
        advance 1
        basicTail lines fuel (c :: read)

/-- The characters of a text before the first place where the delimiter stands. -/
def before? (delimiter : List Char) : List Char → Option (List Char)
  | [] => if delimiter.isEmpty then some [] else none
  | c :: rest =>
    if delimiter.isPrefixOf (c :: rest) then some []
    else (before? delimiter rest).map (c :: ·)

def literalTail (lines : Bool) (delimiter : String) : Parser (List Char) := do
  let rest ← get
  let illegal := if lines then isControlInLines else isControl
  match before? delimiter.toList rest with
  | none => failAt (.missingDelimiter delimiter) []
  | some body =>
    match body.find? illegal with
    | some c => failAt (.invalidCharacter c) (rest.dropWhile (!illegal ·))
    | none =>
      set (rest.drop (body.length + delimiter.length))
      return body

/-- Up to two further quotes before the closing ones belong to a string in tripled quotes. -/
def extraQuotes (quote : Char) : Parser (List Char) := do
  let extra := ((← get).take 2).takeWhile (· == quote)
  advance extra.length
  return extra

def basicString : Parser String := do
  advance 1
  let cs ← basicTail false ((← get).length + 1) []
  return String.ofList cs

def literalString : Parser String := do
  advance 1
  let cs ← literalTail false "'"
  return String.ofList cs

/-- A string in tripled quotes; a line break right after the opening ones does not count. -/
def multilineString (quote : Char) : Parser String := do
  advance 3
  if ← sees "\n" then advance 1
  let cs ← if quote == '"' then basicTail true ((← get).length + 1) []
    else literalTail true "'''"
  let extra ← extraQuotes quote
  return String.ofList (cs ++ extra)

def isBareKey (c : Char) : Bool := c.isAlphanum || c == '-' || c == '_'

def startsKey (c : Char) : Bool := isBareKey c || c == '"' || c == '\''

def keyPart : Parser String := do
  match ← peek with
  | none => fail .invalidKeyStart
  | some c =>
    if isBareKey c then
      let part := (← get).takeWhile isBareKey
      advance part.length
      return String.ofList part
    else if c == '\'' then literalString
    else if c == '"' then basicString
    else fail .invalidKeyStart

def keyTail : Nat → Parser Key
  | 0 => return []
  | fuel + 1 => do
    skipWhile isBlank
    if ← sees "." then
      advance 1
      skipWhile isBlank
      let part ← keyPart
      let rest ← keyTail fuel
      return part :: rest
    else return []

/-- A key: names separated by points. -/
def key : Parser Key := do
  let first ← keyPart
  let rest ← keyTail ((← get).length + 1)
  return first :: rest

end ScriptTags.Toml
