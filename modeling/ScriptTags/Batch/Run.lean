import ScriptTags.Batch.Basic
import ScriptTags.Extract
import ScriptTags.Tag.Collector

/-!
# Running a batch

Every path of a batch has one outcome: the tags of its file, or a failure. A failure does not stop
the others. The tags go to a collector, the rest into the report, in the order of the paths. The
tags are found by a function from paths, so that a batch does not depend on how they are found.
Files may be read side by side, up to a number that the batch is given; what comes of it is the
same.
-/

namespace ScriptTags.Batch

/-- How the tags of the file that a path leads to are found. -/
abbrev Source := String → Except Trouble FileTags

inductive Outcome where
  | tagged (path : String) (tags : FileTags)
  | failed (failure : Failure)
  deriving DecidableEq, Repr

/-- The outcome of a path. A file that cannot be read or parsed fails; any other trouble is no
outcome. -/
def outcome (source : Source) (path : String) : Except Trouble Outcome :=
  match source path with
  | .ok tags => .ok (.tagged path tags)
  | .error (.reported (.unreadable _ reason)) => .ok (.failed ⟨path, .read, reason⟩)
  | .error (.reported (.unparsable file line)) =>
    .ok (.failed ⟨path, .parse, (Error.unparsable file line).message⟩)
  | .error trouble => .error trouble

/-- The outcomes of paths up to the first trouble. -/
def outcomes (source : Source) : List String → List Outcome × Option Trouble
  | [] => ([], none)
  | path :: rest =>
    match outcome source path with
    | .ok o =>
      let (os, trouble) := outcomes source rest
      (o :: os, trouble)
    | .error trouble => ([], some trouble)

namespace Outcome

def tags : Outcome → List Tag
  | .tagged _ file => file.tags
  | .failed _ => []

def file? : Outcome → Option String
  | .tagged _ file => some file.file
  | .failed _ => none

def failure? : Outcome → Option Failure
  | .tagged _ _ => none
  | .failed failure => some failure

def collect (c : Collector) : Outcome → Except Error Collector
  | .tagged _ file => c.extend file.tags
  | .failed _ => .ok c

end Outcome

def report (os : List Outcome) : Report where
  files := os.filterMap Outcome.file?
  failures := os.filterMap Outcome.failure?
  tagCount := (os.flatMap Outcome.tags).length

/-- Reads every path and collects the tags. -/
def run (source : Source) (paths : List String) (c : Collector) :
    Except Trouble (Report × Collector) :=
  match outcomes source paths with
  | (_, some trouble) => .error trouble
  | (os, none) =>
    match os.foldlM Outcome.collect c with
    | .ok c => .ok (report os, c)
    | .error e => .error (.reported e)

/-- How many files may be read at once: at least one, whatever number is asked for. -/
def permits (concurrency : Int) : Nat := (max 1 concurrency).toNat

/-- A batch as it is asked for. -/
structure Job where
  source : Source
  paths : List String
  concurrency : Int

/-- What comes of a batch. The number of files that are read at once shows in the schedules of the
batch, but not here. -/
def Job.run (job : Job) (c : Collector) : Except Trouble (Report × Collector) :=
  Batch.run job.source job.paths c

end ScriptTags.Batch
