import ScriptTags.Record.Check

/-!
# Settings

How tags are made: where they are written, which files of a directory are read, and what the header
of a tags file says of the program. Every setting has a default.
-/

namespace ScriptTags

open Record

/-- What the header of a tags file says of the program that wrote it. -/
structure ProgramInfo where
  author : String := "Forrest L Norvell"
  email : String := "ogd@aoaioxxysz.net"
  name : String := "jstags"
  url : String := "http://github.com/othiym23/jstags"
  description : String := "github repository"
  version : String := "0.0.0"
  deriving DecidableEq, Repr

namespace ProgramInfo

def check (v : Value) : Check ProgramInfo :=
  let default : ProgramInfo := {}
  (v.checkTable "ProgramInfo").bind fun fields =>
    ((((((fields.optional "author" default.author Value.checkString).map ProgramInfo.mk).app
      (fields.optional "email" default.email Value.checkString)).app
      (fields.optional "name" default.name Value.checkString)).app
      (fields.optional "url" default.url Value.checkString)).app
      (fields.optional "description" default.description Value.checkString)).app
      (fields.optional "version" default.version Value.checkString)

def fields (p : ProgramInfo) : List (String × String) :=
  [("author", p.author), ("email", p.email), ("name", p.name), ("url", p.url),
    ("description", p.description), ("version", p.version)]

def toValue (p : ProgramInfo) : Value :=
  .table (p.fields.map fun field => (field.1, .string field.2))

end ProgramInfo

structure Settings where
  /-- The path of the tags file; a dash stands for the standard output. -/
  output : String := "-"
  /-- How many files may be read at the same time. -/
  concurrency : Nat := 4
  /-- The extensions of the files that are read when a directory is given. -/
  extensions : List String := [".js", ".mjs", ".cjs", ".jsx"]
  /-- Names of directories that are passed over, besides the usual ones. -/
  excludeDirs : List String := []
  program : ProgramInfo := {}
  deriving DecidableEq, Repr

namespace Settings

def check (v : Value) : Check Settings :=
  let default : Settings := {}
  (v.checkTable "JstagsConfig").bind fun fields =>
    (((((fields.optional "output" default.output Value.checkString).map Settings.mk).app
      (fields.optional "concurrency" default.concurrency Value.checkPositive)).app
      (fields.optional "extensions" default.extensions (Value.checkList Value.checkString))).app
      (fields.optional "exclude_dirs" default.excludeDirs (Value.checkList Value.checkString))).app
      (fields.optional "program" default.program ProgramInfo.check)

def toValue (s : Settings) : Value :=
  .table [("output", .string s.output), ("concurrency", .int s.concurrency),
    ("extensions", .strings s.extensions), ("exclude_dirs", .strings s.excludeDirs),
    ("program", s.program.toValue)]

end Settings

end ScriptTags
