import ScriptTags.Toml.Value

/-!
# Settings texts

A text in the TOML format is a list of statements, one a line: a key with its value, or a header
that says which table the following keys belong to.
-/

namespace ScriptTags.Toml

open Record ScriptTags.Toml.Parser

/-- What has been read of a document. -/
structure Document where
  fields : Value.Fields := []
  marks : Marks := {}
  /-- Keys that count as declared from the next header on. -/
  pending : List Key := []
  /-- The table that keys belong to. -/
  header : Key := []

namespace Document

/-- The keys of the tables that a key passes through, below the header. -/
def passed (header key : Key) : List Key :=
  (List.range (key.length - 1)).map fun i => header ++ key.take (i + 1)

/-- Adds a value under a key of the current table. -/
def add (d : Document) (key : Key) (value : Value) : Except Problem Document :=
  let parent := d.header ++ key.dropLast
  let name := key.getLast?.getD ""
  let passed := passed d.header key
  match passed.find? d.marks.isDeclared with
  | some k => .error (.redefined k)
  | none =>
    if d.marks.isClosed parent then .error (.immutable parent)
    else do
      let fields ← updateNest true (addField .overwritten name value) parent d.fields
      return { d with
        fields
        marks := if isContainer value then d.marks.close (d.header ++ key) else d.marks
        pending := passed ++ d.pending }

/-- Declares the keys that have been waiting for a header. -/
def settle (d : Document) : Document :=
  { d with
    marks := { d.marks with declared := d.pending ++ d.marks.declared }
    pending := [] }

def openTable (d : Document) (key : Key) : Except Problem Document :=
  if d.marks.isDeclared key || d.marks.isClosed key then .error (.declaredTwice key)
  else do
    let fields ← updateNest true .ok key d.fields
    return { d with fields, marks := d.marks.declare key, header := key }

/-- Opens a further table of the list of a header. -/
def openItem (d : Document) (key : Key) : Except Problem Document :=
  if d.marks.isClosed key then .error (.immutable key)
  else do
    let name := key.getLast?.getD ""
    let fields ← updateNest true (appendTable name) key.dropLast d.fields
    return { d with fields, marks := (d.marks.forget key).declare key, header := key }

end Document

def header (d : Document) : Parser Document := do
  let d := d.settle
  if ← sees "[[" then
    advance 2
    skipWhile isBlank
    let k ← key
    let d ← orFail (d.openItem k)
    if ← sees "]]" then
      advance 2
      return d
    else fail .openArrayHeader
  else
    advance 1
    skipWhile isBlank
    let k ← key
    let d ← orFail (d.openTable k)
    if ← sees "]" then
      advance 1
      return d
    else fail .openTableHeader

/-- The statement on a line, which may be empty. -/
def statement (d : Document) : Parser Document := do
  match ← peek with
  | none => return d
  | some c =>
    if startsKey c then
      let (k, v) ← pair
      let d ← orFail (d.add k v)
      skipWhile isBlank
      return d
    else if c == '[' then
      let d ← header d
      skipWhile isBlank
      return d
    else if c == '#' || c == '\n' then return d
    else fail .invalidStatement

def lines : Nat → Document → Parser Document
  | 0, d => return d
  | fuel + 1, d => do
    skipWhile isBlank
    let d ← statement d
    comment
    match ← peek with
    | none => return d
    | some c =>
      if c == '\n' then
        advance 1
        lines fuel d
      else fail .trailingText

/-- Line breaks of two characters become single ones. -/
def unifyBreaks : List Char → List Char
  | '\r' :: '\n' :: rest => '\n' :: unifyBreaks rest
  | c :: rest => c :: unifyBreaks rest
  | [] => []

def parse (text : List Char) : Except Flaw Value :=
  let source := unifyBreaks text
  match (lines (source.length + 1) {}).run source with
  | .ok (d, _) => .ok (.table d.fields)
  | .error failure => .error (failure.flaw source)

end ScriptTags.Toml
