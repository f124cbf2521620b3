import ScriptTags.Text.Decimal
import ScriptTags.Text.Quoted

/-!
# Problems of a settings text

What can be wrong with a text in the TOML format, and where: a failure keeps the text that was not
yet read, and its place is told by line and column, or as the end of the document.
-/

namespace ScriptTags.Toml

/-- The names that lead to a value from the root of the document. -/
abbrev Key := List String

/-- A key in parentheses, with a comma after a single name. -/
def Key.display : Key → String
  | [name] => "(" ++ Text.quoted name ++ ",)"
  | key => "(" ++ ", ".intercalate (key.map Text.quoted) ++ ")"

inductive Problem where
  | invalidStatement
  | trailingText
  | declaredTwice (key : Key)
  | overwritten
  | openTableHeader
  | openArrayHeader
  | immutable (key : Key)
  | redefined (key : Key)
  | missingEquals
  | invalidKeyStart
  | openArray
  | openTable
  | duplicateKey (name : String)
  | unescapedBackslash
  | invalidHex
  | notScalar
  | unterminated
  | illegalCharacter (c : Char)
  | missingDelimiter (delimiter : String)
  | invalidCharacter (c : Char)
  | invalidDate
  | invalidValue
  /-- A number in decimal notation has more digits than can be read. -/
  | longNumber (digits : Nat)
  deriving DecidableEq, Repr

def Problem.message : Problem → String
  | .invalidStatement => "Invalid statement"
  | .trailingText => "Expected newline or end of document after a statement"
  | .declaredTwice key => "Cannot declare " ++ key.display ++ " twice"
  | .overwritten => "Cannot overwrite a value"
  | .openTableHeader => "Expected ']' at the end of a table declaration"
  | .openArrayHeader => "Expected ']]' at the end of an array declaration"
  | .immutable key => "Cannot mutate immutable namespace " ++ key.display
  | .redefined key => "Cannot redefine namespace " ++ key.display
  | .missingEquals => "Expected '=' after a key in a key/value pair"
  | .invalidKeyStart => "Invalid initial character for a key part"
  | .openArray => "Unclosed array"
  | .openTable => "Unclosed inline table"
  | .duplicateKey name => "Duplicate inline table key " ++ Text.quoted name
  | .unescapedBackslash => "Unescaped '\\' in a string"
  | .invalidHex => "Invalid hex value"
  | .notScalar => "Escaped character is not a Unicode scalar value"
  | .unterminated => "Unterminated string"
  | .illegalCharacter c => "Illegal character " ++ Text.quoted c.toString
  | .missingDelimiter delimiter => "Expected " ++ Text.quoted delimiter
  | .invalidCharacter c => "Found invalid character " ++ Text.quoted c.toString
  | .invalidDate => "Invalid date or datetime"
  | .invalidValue => "Invalid value"
  | .longNumber digits => Text.Decimal.tooLong (some digits)

structure Failure where
  problem : Problem
  /-- The text from the place of the problem on. -/
  rest : List Char
  deriving DecidableEq, Repr

/-- The place of a failure in the whole text. Lines and columns count from one. -/
def Failure.place (source : List Char) (f : Failure) : String :=
  if f.rest.isEmpty then "end of document"
  else
    let before := source.take (source.length - f.rest.length)
    let line := before.count '\n' + 1
    let column := (before.reverse.takeWhile (· != '\n')).length + 1
    s!"line {line}, column {column}"

def Failure.message (source : List Char) (f : Failure) : String :=
  f.problem.message ++ " (at " ++ f.place source ++ ")"

/-- Why a text spells no table. -/
inductive Flaw where
  /-- The text is not in the format; the sentence says what is wrong with it and where. -/
  | malformed (reason : String)
  /-- The text has a number with too many digits to be read. -/
  | longNumber (digits : Nat)
  deriving DecidableEq, Repr

def Failure.flaw (source : List Char) (f : Failure) : Flaw :=
  match f.problem with
  | .longNumber digits => .longNumber digits
  | _ => .malformed (f.message source)

abbrev Parser := StateT (List Char) (Except Failure)

namespace Parser

variable {α : Type}

def fail (problem : Problem) : Parser α := fun rest => .error ⟨problem, rest⟩

def failAt (problem : Problem) (rest : List Char) : Parser α := fun _ => .error ⟨problem, rest⟩

def peek : Parser (Option Char) := return (← get).head?

def sees (text : String) : Parser Bool := return text.toList.isPrefixOf (← get)

def advance (n : Nat) : Parser Unit := modify (·.drop n)

def skipWhile (p : Char → Bool) : Parser Unit := modify (·.dropWhile p)

end Parser

/-- Blanks within a line. -/
def isBlank (c : Char) : Bool := c == ' ' || c == '\t'

def isBlankOrNewline (c : Char) : Bool := isBlank c || c == '\n'

/-- Control characters, which may stand nowhere but in escaped form. -/
def isControl (c : Char) : Bool := (c.toNat < 32 && c != '\t') || c.toNat == 127

/-- Control characters other than the line break. -/
def isControlInLines (c : Char) : Bool := isControl c && c != '\n'

def comment : Parser Unit := do
  if ← Parser.sees "#" then
    Parser.advance 1
    let rest ← get
    let body := rest.takeWhile (· != '\n')
    match body.find? isControl with
    | some c => Parser.failAt (.invalidCharacter c) (rest.dropWhile (!isControl ·))
    | none => set (rest.drop body.length)

end ScriptTags.Toml
