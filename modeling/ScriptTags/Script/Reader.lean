import ScriptTags.Script.Input
import ScriptTags.Syntax.Node

/-!
# Readers

A reader takes a construct off the input or fails. Constructs nest, so readers refer to each other;
the references that close a cycle go through a `Grammar`, and each of them is followed only after
at least one character has been read. A grammar unrolled as often as the script has characters is
therefore as good as an infinite one.
-/

namespace ScriptTags.Script

open Syntax

abbrev Reader := StateT Input Option

/-- The constructs that contain each other. -/
structure Grammar where
  /-- No list of constructs is longer than this. -/
  limit : Nat
  /-- An expression without a comma outside brackets, possibly a pattern; the flag admits `in`. -/
  item : Bool → Reader Node
  /-- An operand of an operator that binds as tightly as the number says. -/
  operand : Bool → Nat → Reader Node
  /-- What `new` constructs. -/
  constructor : Reader Node
  statement : Reader Node
  /-- A markup element, read up to and including its last angle bracket and no further. -/
  element : Reader Node

namespace Reader

variable {α σ : Type}

def token : Reader Token := return (← get).token

def row : Reader Nat := return (← get).row

def rest : Reader (List Char) := return (← get).rest

/-- Reads the next `n` characters and what separates them from the next token. -/
def advance (n : Nat) : Reader Unit := modify (·.skip n)

/-- Reads the next `n` characters and nothing more. -/
def advanceRaw (n : Nat) : Reader Unit := modify (·.skipRaw n)

def require (b : Bool) : Reader Unit := if b then pure () else failure

def sees (mark : String) : Reader Bool := return (← token) == .mark mark

def seesWord (word : String) : Reader Bool := return (← token) == .word word

def mark (mark : String) : Reader Unit := do
  require (← sees mark)
  advance mark.length

def word (word : String) : Reader Unit := do
  require (← seesWord word)
  advance word.length

def tryMark (mark : String) : Reader Bool := do
  if ← sees mark then
    advance mark.length
    return true
  else return false

def tryWord (word : String) : Reader Bool := do
  if ← seesWord word then
    advance word.length
    return true
  else return false

def passRemarks : Reader Unit := modify fun i => i.passRemarks i.rest.length

/-- Repeats a step until it gives a result, at most `n` times. -/
def repeatStep (step : σ → Reader (σ ⊕ α)) : Nat → σ → Reader α
  | 0, _ => failure
  | n + 1, s => do
    match ← step s with
    | .inl s => repeatStep step n s
    | .inr a => return a

/-- The end of a statement: a semicolon, or a place where none is needed. -/
def semicolon (afterExpression : Bool) : Reader Unit := do
  unless ← tryMark ";" do
    require ((← get).endsStatement afterExpression)

end Reader

def build (kind : String) (row : Nat) (children : List Node) : Node := .mk { kind, row } children

def leaf (kind : String) (row : Nat) (text : String) : Node :=
  .mk { kind, row, text := some (Text.bytesOf text) } []

def keyword (row : Nat) (text : String) : Node :=
  .mk { kind := text, row, text := some (Text.bytesOf text), named := false } []

def under (field : String) (n : Node) : Node :=
  .mk { n.head with field := some field } n.children

end ScriptTags.Script
