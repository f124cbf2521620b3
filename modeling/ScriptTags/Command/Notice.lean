import ScriptTags.Batch.Run

/-!
# Notices

While it works the program makes notices: warnings of files that failed, and details that are shown
only on request. Files are read side by side, so that notices come in no fixed order; they are
shown in the order of their texts.
-/

namespace ScriptTags

inductive Level where
  | debug
  | warning
  deriving DecidableEq, Repr

def Level.name : Level → String
  | .debug => "DEBUG"
  | .warning => "WARNING"

structure Notice where
  level : Level
  /-- The part of the program that makes the notice. -/
  origin : String
  text : String
  deriving DecidableEq, Repr

namespace Notice

def render (n : Notice) : String := s!"{n.level.name} jstags.{n.origin}: {n.text}"

def shown (verbose : Bool) (notices : List Notice) : List String :=
  Text.sort ((notices.filter fun n => verbose || n.level == .warning).map render)

def settingsLoaded (path : String) : Notice := ⟨.debug, "config", "Loaded config from " ++ path⟩

/-- The reader of scripts is ready for the first script. -/
def readerLoaded : Notice :=
  ⟨.debug, "extractors.javascript_extractor", "Loading tree-sitter grammar for javascript"⟩

def ofOutcome : Batch.Outcome → Notice
  | .tagged _ tags =>
    ⟨.debug, "extractors.javascript_extractor",
      s!"Extracted {tags.tags.length} tag(s) from {tags.file}"⟩
  | .failed ⟨file, .read, reason⟩ => ⟨.warning, "tagger", s!"Error reading {file}: {reason}"⟩
  | .failed ⟨file, .parse, reason⟩ => ⟨.warning, "tagger", s!"Error parsing {file}: {reason}"⟩

/-- Whether a file could be read, whatever came of it. -/
def wasRead : Batch.Outcome → Bool
  | .failed ⟨_, .read, _⟩ => false
  | _ => true

def ofReport (r : Report) : Notice :=
  ⟨.debug, "tagger",
    s!"Tagged {r.files.length} file(s), {r.tagCount} tag(s), {r.failures.length} failure(s)"⟩

/-- The notices of a batch, which has a report unless it was broken off. -/
def ofBatch (os : List Batch.Outcome) (finished : Bool) : List Notice :=
  (if os.any wasRead then [readerLoaded] else []) ++ os.map ofOutcome ++
    if finished then [ofReport (Batch.report os)] else []

end Notice

end ScriptTags
