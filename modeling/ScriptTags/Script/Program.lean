import ScriptTags.Script.Markup
import ScriptTags.Script.Statement

/-!
# Programs

A script is a list of statements, possibly after a line for the system that runs it. Reading always
gives a tree: where a statement cannot be read, the tree ends with an error node on the row where
that statement starts.

The reader stands in for the full grammar of scripts, which is outside this library. The results
about trees hold for every tree, whatever reader gave it; the results about commands use of this
reader only that the empty script is sound and that the header of a tags file is an error
(`Document.hasError_header`).
-/

namespace ScriptTags.Script

open Syntax

namespace Grammar

/-- The grammar in which nothing can be read. -/
def empty (limit : Nat) : Grammar where
  limit
  item _ := failure
  operand _ _ := failure
  constructor := failure
  statement := failure
  element := failure

/-- One more level of nesting. -/
def unroll (g : Grammar) : Grammar where
  limit := g.limit
  item := g.conditional
  operand := g.binary
  constructor := g.constructed
  statement := g.anyStatement
  element := g.markup

def ofDepth (limit : Nat) : Nat → Grammar
  | 0 => empty limit
  | depth + 1 => (ofDepth limit depth).unroll

end Grammar

def readStatements (g : Grammar) : Nat → Input → List Node
  | 0, _ => []
  | n + 1, i =>
    let i := i.passRemarks i.rest.length
    if i.rest.isEmpty then []
    else match g.statement.run i with
      | some (s, i) => s :: readStatements g n i
      | none => [build "ERROR" i.row []]

/-- Passes over the first line of a script that names the system that runs it. -/
def dropHashBang : List Char → List Char
  | '#' :: '!' :: rest => rest.dropWhile (· != '\n')
  | cs => cs

/-- The syntax tree of a script. -/
def read (source : Text.Bytes) : Node :=
  let cs := Text.Utf8.decode source
  let limit := cs.length + 2
  build "program" 0
    (readStatements (Grammar.ofDepth limit limit) limit (Input.settle (dropHashBang cs) 0))

end ScriptTags.Script
