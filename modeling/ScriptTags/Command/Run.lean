import ScriptTags.Batch.Registry
import ScriptTags.Command.Arguments
import ScriptTags.Command.Notice
import ScriptTags.Files.Scan
import ScriptTags.Settings.File
import ScriptTags.Settings.Listing
import ScriptTags.Tag.Document

/-!
# Running commands

A command is a function of the file system: it gives an exit code, the texts for the two standard
streams, the notices, and the file system afterwards. Only the command that writes tags changes a
file, the one its output leads to. That file is emptied and given its header before any script is
read. A header of ordinary length is kept back until the file is closed, so that a script that is
also the output counts as empty; a long one is in the file at once.
-/

namespace ScriptTags

open Files

/-- What comes of a command. -/
structure Ending where
  exit : Nat
  /-- The text for the standard output. -/
  output : String := ""
  /-- The lines for the standard error stream. -/
  messages : List String := []
  /-- The notices, made with the details on request or without. -/
  notices : List String := []
  files : FileSystem
  /-- The batch that was run, if the command came to it. -/
  batch : Option Batch.Job := none
  /-- What broke the command off. -/
  fault : Option Fault := none

namespace Command

def versionText : String := "0.1.0"

/-- The settings that a command works with, and the path of the file they came from. -/
def effectiveSettings (fs : FileSystem) (config : Option String) :
    Except Trouble (Settings × Option String) :=
  match config with
  | some path => (Settings.load fs path).map fun s => (s, some (Path.normalize path))
  | none =>
    match Settings.find fs "." with
    | .error fault => .error (.fatal fault)
    | .ok none => .ok ({}, none)
    | .ok (some path) => (Settings.load fs path).map fun s => (s, some path)

/-- The ending of a command that met trouble before it changed anything. -/
def stopped (fs : FileSystem) (notices : List String) : Trouble → Ending
  | .reported e => { exit := 1, messages := ["Error: " ++ e.message], notices, files := fs }
  | .fatal fault => { exit := 1, notices, files := fs, fault := some fault }

/-- Where tags are written. -/
inductive Target where
  | standardOutput
  | file (location : Location)
  deriving DecidableEq, Repr

namespace Target

/-- The target that an output setting names. -/
def ofOutput (fs : FileSystem) (output : String) : Except Trouble Target :=
  if output = "-" then .ok .standardOutput
  else if Path.hasNull output then .error (.fatal .nullInPath)
  else match fs.locateToWrite output with
    | .ok location => .ok (.file location)
    | .error e => .error (.reported (.general s!"Cannot write {output}: {e.message}"))

def write (fs : FileSystem) (text : String) : Target → FileSystem
  | .standardOutput => fs
  | .file location => fs.write location (Text.bytesOf text)

/-- A file that is being written keeps a text back as long as it has fewer bytes than this. It is
the chunk in which text is passed on, where the blocks of the file system are not larger. -/
def keptBackBytes : Nat := 8192

/-- What is in a file that is still being written, after its first text. -/
def passedOn (text : String) : String := if text.utf8ByteSize < keptBackBytes then "" else text

/-- What of a text goes to the standard output. -/
def shown (text : String) : Target → String
  | .standardOutput => text
  | .file _ => ""

end Target

def failureMessage (f : Failure) : String := s!"Error {f.stage.name}ing {f.file}: {f.reason}"

def closingMessages (report : Report) (written : Nat) (output : String) : List String :=
  report.failures.map failureMessage ++
    if output = "-" then []
    else [s!"Wrote {written} tag(s) from {report.files.length} file(s) to {output}"]

/-- Reads scripts and writes their tags, with the output and the number of files to read at once
from the settings. -/
def writeTags (fs : FileSystem) (settings : Settings) (verbose : Bool) (before : List Notice)
    (files : List String) : Ending :=
  match Target.ofOutput fs settings.output with
  | .error trouble => stopped fs (Notice.shown verbose before) trouble
  | .ok target =>
    let header := Document.header settings.program
    let opened := target.write fs (Target.passedOn header)
    let job : Batch.Job :=
      ⟨Registry.extractPath (Registry.setUp {}) opened, files, settings.concurrency⟩
    let (os, trouble) := Batch.outcomes job.source job.paths
    let notices := Notice.shown verbose (before ++ Notice.ofBatch os trouble.isNone)
    match job.run .empty with
    | .error trouble =>
      { stopped (target.write fs header) notices trouble with
        output := target.shown header
        batch := some job }
    | .ok (report, collector) =>
      match collector.flush with
      | .error e =>
        { stopped (target.write fs header) notices (.reported e) with batch := some job }
      | .ok (tags, _) =>
        let (text, written) := Document.append header tags
        { exit := if report.ok then 0 else 1
          output := target.shown text
          messages := closingMessages report written settings.output
          notices
          files := target.write fs text
          batch := some job }

/-- The command that writes tags, once its settings are known. -/
def tagWith (fs : FileSystem) (settings : Settings) (source : Option String) (paths : List String)
    (verbose : Bool) : Ending :=
  let before := source.toList.map Notice.settingsLoaded
  match Scan.ofPaths fs (Selection.ofNames settings.extensions settings.excludeDirs) paths with
  | .error fault => stopped fs (Notice.shown verbose before) (.fatal fault)
  | .ok scan =>
    if scan.files.isEmpty then
      stopped fs (Notice.shown verbose before) (.reported (.general "No JavaScript files found."))
    else writeTags fs settings verbose before scan.files

/-- The settings with those that the command is told in their place. -/
def TagOptions.override (o : TagOptions) (settings : Settings) : Settings :=
  { settings with
    output := o.output.getD settings.output
    concurrency := o.concurrency.getD settings.concurrency }

def runTag (fs : FileSystem) (o : TagOptions) : Ending :=
  match effectiveSettings fs o.config with
  | .error trouble => stopped fs [] trouble
  | .ok (settings, source) => tagWith fs (o.override settings) source o.paths o.verbose

def runSettings (fs : FileSystem) (key config : Option String) : Ending :=
  match effectiveSettings fs config with
  | .error trouble => stopped fs [] trouble
  | .ok (settings, _) =>
    match key with
    | none =>
      if settings.isWritable then { exit := 0, output := settings.listing, files := fs }
      else
        { stopped fs [] (.fatal (.longNumber none)) with output := settings.listingStart }
    | some key =>
      match settings.line? key with
      | some line =>
        if key = "concurrency" && !settings.isWritable then
          stopped fs [] (.fatal (.longNumber none))
        else { exit := 0, output := line, files := fs }
      | none =>
        { exit := 1
          messages := [s!"Error: Unknown config key {key}.",
            "  Valid keys: " ++ ", ".intercalate Settings.keys]
          files := fs }

def run (fs : FileSystem) : Command → Ending
  | .tag options => runTag fs options
  | .showSettings key config => runSettings fs key config
  | .version => { exit := 0, output := versionText ++ "\n", files := fs }

/-- Runs what a command line asks for. A command line that is not understood ends with code 2. -/
def runLine (fs : FileSystem) (args : List String) : Ending :=
  match parse args with
  | .ok command => run fs command
  | .error .usage => { exit := 2, files := fs }
  | .error .help => { exit := 0, files := fs }
  | .error (.fatal fault) => stopped fs [] (.fatal fault)

end Command

end ScriptTags
