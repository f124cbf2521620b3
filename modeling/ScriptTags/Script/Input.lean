import ScriptTags.Script.Letter

/-!
# Input

The unread part of a script, standing at a token: blanks and comments before the token have been
passed over, and what was passed over is summarised as a gap, because a statement may end at a line
break. What the token is can depend on the place where it is read; the one found here is the one
that no regular expression, template or markup is taken into account for.
-/

namespace ScriptTags.Script

/-- The strongest line break between two tokens. -/
inductive Gap where
  | none
  /-- There is a line break, inside a comment. -/
  | comment
  | line
  deriving DecidableEq, Repr

inductive Token where
  | word (text : String)
  | privateName (text : String)
  | mark (text : String)
  | number (length : Nat)
  | quote (sign : Char)
  | unknown
  | finish
  deriving DecidableEq, Repr

def Token.ofChars (cs : List Char) : Token :=
  match cs with
  | [] => .finish
  | c :: rest =>
    if c == '"' || c == '\'' || c == Char.ofNat 96 then .quote c
    else if c == '#' then
      match nameLength rest with
      | 0 => .unknown
      | length => .privateName (String.ofList (cs.take (length + 1)))
    else match nameLength cs with
      | length + 1 => .word (String.ofList (cs.take (length + 1)))
      | 0 =>
        match numberLength cs with
        | length + 1 => .number (length + 1)
        | 0 =>
          match markOf cs with
          | [] => .unknown
          | sign => .mark (String.ofList sign)

structure Place where
  rest : List Char
  row : Nat
  gap : Gap
  deriving Repr

/-- What is being passed over. -/
inductive Passing where
  | blanks
  | lineComment
  /-- A comment that began at the given place, with whether a line break was seen in it. -/
  | blockComment (start : Place) (broken : Bool)

/-- Passes over blanks and comments. A comment without an end is left in place. -/
def passOver : Passing → List Char → Nat → Gap → Place
  | .blockComment start _, [], _, _ => start
  | .blanks, [], row, gap => ⟨[], row, gap⟩
  | .lineComment, [], row, gap => ⟨[], row, gap⟩
  | .blanks, '/' :: '/' :: rest, row, gap => passOver .lineComment rest row gap
  | .blanks, '/' :: '*' :: rest, row, gap =>
    passOver (.blockComment ⟨'/' :: '*' :: rest, row, gap⟩ false) rest row gap
  | .blanks, c :: rest, row, gap =>
    if isSpace c then
      passOver .blanks rest (if c == '\n' then row + 1 else row)
        (if isLineBreak c then .line else gap)
    else ⟨c :: rest, row, gap⟩
  | .lineComment, c :: rest, row, gap =>
    if isLineBreak c then passOver .blanks rest (if c == '\n' then row + 1 else row) .line
    else passOver .lineComment rest row gap
  | .blockComment _ broken, '*' :: '/' :: rest, row, gap =>
    passOver .blanks rest row (if broken && gap == .none then .comment else gap)
  | .blockComment start broken, c :: rest, row, gap =>
    passOver (.blockComment start (broken || isLineBreak c)) rest
      (if c == '\n' then row + 1 else row) gap

structure Input where
  place : Place
  token : Token
  /-- The row of a comment in the old markup style passed over before the token. -/
  remark : Option Nat := none
  deriving Repr

namespace Input

def rest (i : Input) : List Char := i.place.rest
def row (i : Input) : Nat := i.place.row
def gap (i : Input) : Gap := i.place.gap

/-- The input at the next token from the given text on. -/
def settle (cs : List Char) (row : Nat) : Input :=
  let place := passOver .blanks cs row .none
  ⟨place, Token.ofChars place.rest, none⟩

/-- The text as it stands, with nothing passed over. -/
def raw (cs : List Char) (row : Nat) : Input := ⟨⟨cs, row, .none⟩, .unknown, none⟩

def rowsIn (n : Nat) (cs : List Char) : Nat := (cs.take n).count '\n'

/-- The input after the next `n` characters and what separates them from the next token. -/
def skip (n : Nat) (i : Input) : Input := settle (i.rest.drop n) (i.row + rowsIn n i.rest)

def skipRaw (n : Nat) (i : Input) : Input := raw (i.rest.drop n) (i.row + rowsIn n i.rest)

/-- Passes over comments in the old markup style, which begin with `<!--` or `-->` and end with
the line; they are recognised only where no expression comes before. -/
def passRemarks (fuel : Nat) (i : Input) : Input :=
  match fuel with
  | 0 => i
  | fuel + 1 =>
    if "<!--".toList.isPrefixOf i.rest || "-->".toList.isPrefixOf i.rest then
      let next := settle (i.rest.dropWhile fun c => !(isLineBreak c && c != '\r')) i.row
      passRemarks fuel { next with remark := some (i.remark.getD i.row) }
    else i

/-- Whether a statement may end before the token without a semicolon: at the end of the script, at
a closing brace, and at a line break unless the token reads on. A line break inside a comment
counts only where the statement does not end with an expression. -/
def endsStatement (afterExpression : Bool) (i : Input) : Bool :=
  if i.rest.isEmpty then true
  else if i.rest.head? == some '\x7d' then true
  else if i.gap == .none || (i.gap == .comment && afterExpression) then false
  else match i.rest with
    | '.' :: c :: _ => c.isDigit
    | '.' :: _ => false
    | '+' :: c :: _ => c == '+'
    | '+' :: _ => false
    | '-' :: c :: _ => c == '-'
    | '-' :: _ => false
    | '!' :: c :: _ => c != '='
    | 'i' :: 'n' :: rest =>
      if !isLetter rest then false
      else !("stanceof".toList.isPrefixOf rest && !isLetter (rest.drop 8))
    | c :: _ => !(c == Char.ofNat 96 || ",:;*%><=[(?^|&/".toList.contains c)
    | [] => true
where
  isLetter : List Char → Bool
    | c :: _ => c.isAlpha || 0x80 ≤ c.toNat
    | [] => false

end Input

end ScriptTags.Script
