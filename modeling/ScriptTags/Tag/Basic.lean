import ScriptTags.Record.Check

/-!
# Tags

A tag names one definition of a script: what it is called, the file that holds it, where it stands
and of which kind it is. The place is given twice, as a line number and as an address that an
editor can follow: the number of lines before the definition and a pattern for the word to find.
-/

namespace ScriptTags

open Record

/-- What a tag names. -/
inductive Kind where
  | importBinding
  | constructor
  | function
  | method
  deriving DecidableEq, Repr

namespace Kind

def all : List Kind := [.importBinding, .constructor, .function, .method]

theorem mem_all (k : Kind) : k ∈ all := by cases k <;> simp [all]

def letter : Kind → String
  | .importBinding => "i"
  | .constructor => "c"
  | .function => "f"
  | .method => "m"

def ofLetter? (s : String) : Option Kind := all.find? (·.letter == s)

@[simp] theorem ofLetter?_letter (k : Kind) : ofLetter? k.letter = some k := by
  cases k <;> rfl

def check (v : Value) : Check Kind :=
  match v with
  | .string s =>
    match ofLetter? s with
    | some k => .accepted k
    | none => .refuse (.notAmong (all.map letter))
  | _ => .refuse (.notAmong (all.map letter))

end Kind

/-- The start of every address on a line: the number of lines before it and a slash. Every line
number is taken as printable: the limit on digits that settings are read under is not applied. -/
def lineOffset (line : Int) : String := toString (line - 1) ++ "/"

/-- The address of a word on a line, as a search for the whole word. -/
def address (line : Int) (word : String) : String :=
  lineOffset line ++ "\\<" ++ word ++ "\\>/;\""

structure Tag where
  name : String
  file : String
  address : String
  kind : Kind
  lineno : Nat
  deriving DecidableEq, Repr

namespace Tag

/-- The line of a tags file that holds the tag, with its line number whatever its digits. -/
def render (t : Tag) : String :=
  "\t".intercalate [t.name, t.file, t.address, t.kind.letter, "lineno:" ++ toString t.lineno]

/-- The address of a tag begins with its line offset. -/
def checkAddress (t : Tag) : Check Tag :=
  if t.address.startsWith (lineOffset t.lineno) then .accepted t
  else .refuse (.misplaced t.address (lineOffset t.lineno))

/-- Reads a tag off a table. The address is compared with the line number only when every field is
acceptable by itself. -/
def check (v : Value) : Check Tag :=
  (v.checkTable "TagEntry").bind fun fields =>
    ((((((fields.required "name" Value.checkNonempty).map Tag.mk).app
      (fields.required "file" Value.checkString)).app
      (fields.required "address" Value.checkString)).app
      (fields.required "kind" Kind.check)).app
      (fields.required "lineno" Value.checkPositive)).bind checkAddress

def toValue (t : Tag) : Value :=
  .table [("name", .string t.name), ("file", .string t.file), ("address", .string t.address),
    ("kind", .string t.kind.letter), ("lineno", .int t.lineno)]

/-- The table of a tag for a word on a line. Without a word of its own the name is searched for. -/
def draft (file : String) (line : Int) (name kind : String) (word : String) : Value :=
  .table [("name", .string name), ("file", .string file),
    ("address", .string (ScriptTags.address line (if word = "" then name else word))),
    ("kind", .string kind), ("lineno", .int line)]

end Tag

/-- The tags of one file, in the order in which they were found. -/
structure FileTags where
  file : String
  tags : List Tag
  deriving DecidableEq, Repr

namespace FileTags

def check (v : Value) : Check FileTags :=
  (v.checkTable "FileTags").bind fun fields =>
    ((fields.required "file" Value.checkString).map FileTags.mk).app
      (fields.optional "tags" [] (Value.checkList Tag.check))

def toValue (t : FileTags) : Value :=
  .table [("file", .string t.file), ("tags", .list (t.tags.map Tag.toValue))]

end FileTags

end ScriptTags
