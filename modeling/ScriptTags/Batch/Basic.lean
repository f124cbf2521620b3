import ScriptTags.Record.Check

/-!
# Outcomes of a batch

A batch of files ends with a report: the files whose tags were collected, the failures of the
others, and the number of tags.
-/

namespace ScriptTags

open Record

/-- What was being done with a file when it failed. -/
inductive Stage where
  | read
  | parse
  deriving DecidableEq, Repr

namespace Stage

def name : Stage → String
  | .read => "read"
  | .parse => "parse"

def all : List Stage := [.read, .parse]

theorem mem_all (s : Stage) : s ∈ all := by cases s <;> simp [all]

def ofName? (s : String) : Option Stage := all.find? (·.name == s)

@[simp] theorem ofName?_name (s : Stage) : ofName? s.name = some s := by
  cases s <;> rfl

def check (v : Value) : Check Stage :=
  match v with
  | .string s =>
    match ofName? s with
    | some stage => .accepted stage
    | none => .refuse (.notAmong (all.map name))
  | _ => .refuse (.notAmong (all.map name))

end Stage

/-- A file whose tags cannot be given. -/
structure Failure where
  file : String
  stage : Stage
  reason : String
  deriving DecidableEq, Repr

namespace Failure

def check (v : Value) : Check Failure :=
  (v.checkTable "FileFailure").bind fun fields =>
    (((fields.required "file" Value.checkString).map Failure.mk).app
      (fields.required "stage" Stage.check)).app
      (fields.required "reason" Value.checkString)

def toValue (f : Failure) : Value :=
  .table [("file", .string f.file), ("stage", .string f.stage.name), ("reason", .string f.reason)]

end Failure

structure Report where
  files : List String := []
  failures : List Failure := []
  tagCount : Int := 0
  deriving DecidableEq, Repr

namespace Report

def ok (r : Report) : Bool := r.failures.isEmpty

def check (v : Value) : Check Report :=
  (v.checkTable "TagRunResult").bind fun fields =>
    (((fields.optional "files" [] (Value.checkList Value.checkString)).map Report.mk).app
      (fields.optional "failures" [] (Value.checkList Failure.check))).app
      (fields.optional "tag_count" 0 Value.checkInt)

def toValue (r : Report) : Value :=
  .table [("files", .strings r.files), ("failures", .list (r.failures.map Failure.toValue)),
    ("tag_count", .int r.tagCount)]

end Report

end ScriptTags
