import ScriptTags.Text.Blank

/-!
# The letters of a script

Which characters separate tokens, end lines and form names. A name may hold any character that is
not blank, not punctuation of the language and not a control character, so that letters of every
alphabet and signs such as `$`, `_` or an emoji are admitted.
-/

namespace ScriptTags.Script

/-- A character at which a line comment ends and a statement may end. -/
def isLineBreak (c : Char) : Bool :=
  c == '\n' || c == '\r' || c.toNat == 0x2028 || c.toNat == 0x2029

/-- A character that separates tokens. -/
def isSpace (c : Char) : Bool :=
  Text.isBlank c || c.toNat == 0xFEFF || c.toNat == 0x2060 || c.toNat == 0x200B

def punctuation : List Char := ":;`\"'@#.,|^&<=>+-*/\\%?!~()[]\x7b\x7d".toList

def isNamePart (c : Char) : Bool :=
  0x20 ≤ c.toNat && !isSpace c && !punctuation.contains c

def isNameStart (c : Char) : Bool := isNamePart c && !c.isDigit

def isHexDigit (c : Char) : Bool :=
  c.isDigit || ('a' ≤ c && c ≤ 'f') || ('A' ≤ c && c ≤ 'F')

def isOctalDigit (c : Char) : Bool := '0' ≤ c && c ≤ '7'

def isBinaryDigit (c : Char) : Bool := c == '0' || c == '1'

/-- The length of an escape `\uXXXX` or `\u{X…}` at the start of the text, else zero. -/
def unicodeEscapeLength : List Char → Nat
  | '\\' :: 'u' :: '{' :: rest =>
    let digits := (rest.takeWhile isHexDigit).length
    if 0 < digits && rest[digits]? == some '}' then digits + 4 else 0
  | '\\' :: 'u' :: rest => if 4 ≤ ((rest.take 4).takeWhile isHexDigit).length then 6 else 0
  | _ => 0

/-- The number of characters that continue a name; the first `skip` belong to an escape. -/
def nameTail (skip : Nat) : List Char → Nat
  | [] => 0
  | c :: rest =>
    match skip with
    | skip + 1 => 1 + nameTail skip rest
    | 0 =>
      if isNamePart c then 1 + nameTail 0 rest
      else match unicodeEscapeLength (c :: rest) with
        | 0 => 0
        | length + 1 => 1 + nameTail length rest

def nameLength (cs : List Char) : Nat :=
  match cs with
  | [] => 0
  | c :: _ => if isNameStart c || unicodeEscapeLength cs != 0 then nameTail 0 cs else 0

/-- The length of a run of digits of a kind, single underscores between them allowed. -/
def digitRun (isDigit : Char → Bool) : List Char → Nat
  | [] => 0
  | '_' :: c :: rest => if isDigit c then 2 + digitRun isDigit rest else 0
  | c :: rest => if isDigit c then 1 + digitRun isDigit rest else 0

/-- A run of digits that does not start with an underscore. -/
def digitsLength (isDigit : Char → Bool) (cs : List Char) : Nat :=
  match cs with
  | c :: rest => if isDigit c then 1 + digitRun isDigit rest else 0
  | [] => 0

def exponentLength : List Char → Nat
  | e :: rest =>
    if e == 'e' || e == 'E' then
      let sign := match rest with
        | s :: _ => if s == '-' || s == '+' then 1 else 0
        | [] => 0
      match digitsLength Char.isDigit (rest.drop sign) with
      | 0 => 0
      | digits => 1 + sign + digits
    else 0
  | [] => 0

def markedLength (marks : List Char) (isDigit : Char → Bool) : List Char → Nat
  | '0' :: mark :: rest =>
    if marks.contains mark then
      match digitsLength isDigit rest with
      | 0 => 0
      | digits => if rest[digits]? == some 'n' then digits + 3 else digits + 2
    else 0
  | _ => 0

/-- The length of the whole part that a fraction or exponent may follow: zero alone, or digits
with at most one leading zero. -/
def wholeLength (cs : List Char) : Nat :=
  let digits := digitsLength Char.isDigit cs
  match cs with
  | '0' :: c :: _ => if c.isDigit && c != '0' then digits else 1
  | _ => digits

def numberLength (cs : List Char) : Nat :=
  let marked := max (markedLength ['x', 'X'] isHexDigit cs)
    (max (markedLength ['o', 'O'] isOctalDigit cs) (markedLength ['b', 'B'] isBinaryDigit cs))
  let digits := digitsLength Char.isDigit cs
  let integer := if 0 < digits && cs[digits]? == some 'n' then digits + 1 else digits
  let whole := wholeLength cs
  let rest := cs.drop whole
  let fraction := match rest with
    | '.' :: after =>
      let places := digitsLength Char.isDigit after
      if whole == 0 && places == 0 then 0
      else whole + 1 + places + exponentLength (after.drop places)
    | _ =>
      if whole == 0 then 0
      else match exponentLength rest with
        | 0 => 0
        | exponent => whole + exponent
  max marked (max integer fraction)

def reservedWords : List String :=
  ["break", "case", "catch", "class", "const", "continue", "debugger", "default", "delete", "do",
   "else", "export", "extends", "false", "finally", "for", "function", "if", "import", "in",
   "instanceof", "new", "null", "return", "super", "switch", "this", "throw", "true", "try",
   "typeof", "var", "void", "while", "with"]

def isReserved (word : String) : Bool := reservedWords.contains word

/-- The marks of the language, longer ones first. -/
def marks : List (List Char) :=
  [">>>=", "...", "===", "!==", "**=", "<<=", ">>=", ">>>", "&&=", "||=", "??=", "=>", "==", "!=",
   "<=", ">=", "&&", "||", "??", "?.", "++", "--", "+=", "-=", "*=", "/=", "%=", "&=", "|=", "^=",
   "<<", ">>", "**", "\x7b", "\x7d", "(", ")", "[", "]", ";", ",", "<", ">", "+", "-", "*", "/",
   "%", "&", "|", "^", "!", "~", "?", ":", "=", ".", "@"].map String.toList

/-- The mark at the start of the text. A question mark before a decimal fraction stands alone. -/
def markOf (cs : List Char) : List Char :=
  match cs with
  | '?' :: '.' :: c :: _ => if c.isDigit then ['?'] else ['?', '.']
  | _ => (marks.find? fun mark => mark.isPrefixOf cs).getD []

end ScriptTags.Script
