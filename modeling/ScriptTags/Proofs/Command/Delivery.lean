import ScriptTags.Command.Run
import ScriptTags.Proofs.Batch.Account
import ScriptTags.Proofs.Document.Lines
import ScriptTags.Proofs.Files.Scan
import ScriptTags.Proofs.Files.Tree
import ScriptTags.Proofs.Script.Header
import ScriptTags.Proofs.Toml
import ScriptTags.Proofs.Utf8

/-!
# What the command that writes tags delivers

Settings and files are looked up in the file system as it is found. Scripts are read after the
output has been opened, so that the output, when it is also a script, has lost its content by then.
What takes its place is decided by the length of the header: a short one has not reached the file
yet, a long one has.
-/

namespace ScriptTags
namespace Command

open Files Batch

namespace Target

/-- A file system in which the target has received a text. -/
def Received (fs : FileSystem) (text : String) (fs' : FileSystem) : Target → Prop
  | .standardOutput => fs' = fs
  | .file location => fs.Wrote location (Text.bytesOf text) fs'

theorem received_write {fs : FileSystem} {output : String} {target : Target}
    (h : ofOutput fs output = .ok target) (text : String) :
    target.Received fs text (target.write fs text) := by
  unfold ofOutput at h
  split_ifs at h
  · cases h
    rfl
  · split at h
    · rename_i location hlocation
      cases h
      exact FileSystem.wrote_write (FileSystem.hasRoomAt_of_locateToWrite hlocation) _
    · cases h

end Target

/-- The text for the given tags: the header lines with line breaks between them, one more line
break, and the lines of the tags. -/
def deliveredText (program : ProgramInfo) (tags : List Tag) : String :=
  "\n".intercalate (Document.headerLines program) ++ "\n" ++
    String.join (tags.map fun tag => tag.render ++ "\n")

theorem append_header (program : ProgramInfo) (tags : List Tag) :
    Document.append (Document.header program) tags =
      (deliveredText program tags, tags.length) := by
  rw [Document.append_eq, Document.header_eq_intercalate, Document.body, Document.unlines,
    List.map_map]
  rfl

/-- What the command is to do with paths that were found, when scripts are read from `seen`: the
paths give the report and the tags, and these decide how the command ends. -/
structure Delivered (fs seen : FileSystem) (program : ProgramInfo) (output : String)
    (target : Target) (paths : List String) (report : Report) (tags : List Tag)
    (ending : Ending) : Prop where
  ran : ∃ c, tagFiles seen paths .empty = .ok (report, c) ∧ c.flush = .ok (tags, .flushed)
  scheduled : ∀ (concurrency : Int) (s : Execution),
    Relation.ReflTransGen (Execution.Turn (builtIn seen) (permits concurrency))
      (.initial paths .empty) s →
    s.Finished → s.report = report ∧ s.collector.flushedLines = some (tags.map Tag.render)
  extracted : tags.Perm ((paths.filter (succeeds (builtIn seen))).flatMap (found (builtIn seen)))
  sorted : tags.Pairwise fun a b => Text.codePoints a.render ≤ Text.codePoints b.render
  files : ∀ path, path ∈ report.files ↔ path ∈ paths ∧ succeeds (builtIn seen) path = true
  accounted : ∀ path, (report.files ++ report.failures.map Failure.file).count path =
    if path ∈ paths then 1 else 0
  counted : ∃ written, Document.append (Document.header program) tags =
      (deliveredText program tags, written) ∧
    written = tags.length ∧ report.tagCount = written
  shown : ending.output = target.shown (deliveredText program tags)
  received : target.Received fs (deliveredText program tags) ending.files
  messages : ending.messages = report.failures.map failureMessage ++
    if output = "-" then []
    else [s!"Wrote {tags.length} tag(s) from {report.files.length} file(s) to {output}"]
  exit : ending.exit = if ∃ path ∈ paths, succeeds (builtIn seen) path = false then 1 else 0
  fault : ending.fault = none

section

variable {fs : FileSystem} (settings : Settings) {target : Target} {paths : List String}

theorem writeTags_eq (htarget : Target.ofOutput fs settings.output = .ok target)
    (hpaths : ∀ path ∈ paths, Path.hasNull path = false) (verbose : Bool) (before : List Notice) :
    let opened := target.write fs (Target.passedOn (Document.header settings.program))
    let os := paths.map (outcomeAt opened)
    let tags := Tag.sort (os.flatMap Outcome.tags)
    writeTags fs settings verbose before paths =
      { exit := if (report os).ok then 0 else 1
        output := target.shown (deliveredText settings.program tags)
        messages := closingMessages (report os) tags.length settings.output
        notices := Notice.shown verbose (before ++ Notice.ofBatch os true)
        files := target.write fs (deliveredText settings.program tags)
        batch := some ⟨builtIn opened, paths, settings.concurrency⟩ } := by
  intro opened os tags
  have ho : ∀ path ∈ paths, outcome (builtIn opened) path = .ok (outcomeAt opened path) :=
    fun path hpath => outcome_builtIn (hpaths path hpath)
  have hrun : Batch.run (builtIn opened) paths .empty =
      .ok (report os, .accumulating (os.flatMap Outcome.tags)) := run_eq ho []
  simp only [writeTags, htarget, Job.run]
  rw [outcomes_eq ho, hrun]
  simp only [Collector.flush]
  rw [append_header]
  rfl

/-- A finished schedule flushes the lines of the tags, whatever order they were collected in. -/
theorem scheduled_outcomeAt (seen : FileSystem)
    (hpaths : ∀ path ∈ paths, Path.hasNull path = false) (concurrency : Int) {s : Execution}
    (hreaches : Relation.ReflTransGen (Execution.Turn (builtIn seen) (permits concurrency))
      (.initial paths .empty) s) (hfinished : s.Finished) :
    s.report = report (paths.map (outcomeAt seen)) ∧
      s.collector.flushedLines = some
        ((Tag.sort ((paths.map (outcomeAt seen)).flatMap Outcome.tags)).map Tag.render) := by
  have hs := (Execution.consistent_initial (outcomeAt seen) paths []).reaches
    (fun path hpath => outcome_builtIn (hpaths path hpath)) hreaches
  obtain ⟨held, hc, hheld⟩ := hs.tags_of_finished hfinished
  refine ⟨hs.report_of_finished hfinished, ?_⟩
  rw [hc, Collector.flushedLines_accumulating hheld, List.nil_append, Tag.map_render_sort]

theorem count_report (seen : FileSystem) (hpaths : ∀ path ∈ paths, Path.hasNull path = false)
    (hnodup : paths.Nodup) (path : String) :
    ((report (paths.map (outcomeAt seen))).files ++
      (report (paths.map (outcomeAt seen))).failures.map Failure.file).count path =
        if path ∈ paths then 1 else 0 := by
  rw [files_report hpaths, failures_report hpaths,
    (List.filter_append_perm (succeeds (builtIn seen)) paths).count_eq, hnodup.count]

theorem ok_report (seen : FileSystem) (hpaths : ∀ path ∈ paths, Path.hasNull path = false) :
    (report (paths.map (outcomeAt seen))).ok = true ↔
      ¬ ∃ path ∈ paths, succeeds (builtIn seen) path = false := by
  rw [Report.ok, List.isEmpty_iff, ← List.map_eq_nil_iff (f := Failure.file),
    failures_report hpaths, List.filter_eq_nil_iff]
  simp

theorem succeeds_of_read_normalize {seen : FileSystem} {path : String} {content : Text.Bytes}
    (hnull : Path.hasNull path = false) (h : seen.read (Path.normalize path) = .ok content) :
    succeeds (builtIn seen) path = !(Script.read content).hasError := by
  rw [succeeds_builtIn hnull]
  obtain ⟨e, hread, ho⟩ | ⟨other, reason, hread, herror, ho⟩ | ⟨other, tags, hread, herror, ho⟩ :=
    outcomeAt_cases seen path
  · exact absurd (h.symm.trans hread) (by simp)
  · obtain rfl := Except.ok.inj (h.symm.trans hread)
    rw [ho, herror]
    rfl
  · obtain rfl := Except.ok.inj (h.symm.trans hread)
    rw [ho, herror]
    rfl

theorem delivered_writeTags (htarget : Target.ofOutput fs settings.output = .ok target)
    (hpaths : ∀ path ∈ paths, Path.hasNull path = false) (hnodup : paths.Nodup) (verbose : Bool)
    (before : List Notice) :
    ∃ report tags, Delivered fs
      (target.write fs (Target.passedOn (Document.header settings.program))) settings.program
      settings.output target paths report tags (writeTags fs settings verbose before paths) := by
  have hending := writeTags_eq settings htarget hpaths verbose before
  -- From here on it does not matter what the output was given when it was opened.
  generalize target.write fs (Target.passedOn (Document.header settings.program)) = seen
    at hending ⊢
  dsimp only at hending
  have htags : (paths.map (outcomeAt seen)).flatMap Outcome.tags =
      (paths.filter (succeeds (builtIn seen))).flatMap (found (builtIn seen)) :=
    flatMap_tags_outcomeAt hpaths
  refine ⟨report (paths.map (outcomeAt seen)),
    Tag.sort ((paths.map (outcomeAt seen)).flatMap Outcome.tags), ?_⟩
  rw [hending]
  exact
    { ran := ⟨_, tagFiles_eq seen hpaths [], rfl⟩
      scheduled := fun concurrency s hreaches hfinished =>
        scheduled_outcomeAt seen hpaths concurrency hreaches hfinished
      extracted := htags ▸ Tag.sort_perm _
      sorted := Tag.sort_sorted _
      files := by
        intro path
        rw [files_report hpaths, List.mem_filter]
      accounted := count_report seen hpaths hnodup
      counted := by
        refine ⟨_, append_header settings.program _, rfl, ?_⟩
        rw [tagCount_report hpaths, (Tag.sort_perm _).length_eq, htags]
      shown := rfl
      received := Target.received_write htarget _
      messages := rfl
      exit := by
        simp only [ok_report seen hpaths]
        split_ifs <;> rfl
      fault := rfl }

end

theorem runLine_tag {fs : FileSystem} {args : List String} {o : TagOptions} {settings : Settings}
    {source : Option String} {scan : Scan} (hargs : parse args = .ok (.tag o))
    (hsettings : effectiveSettings fs o.config = .ok (settings, source))
    (hscan : Scan.ofPaths fs (Selection.ofNames settings.extensions settings.excludeDirs) o.paths =
      .ok scan) (hfiles : scan.files ≠ []) :
    runLine fs args = writeTags fs (o.override settings) o.verbose
      (source.toList.map Notice.settingsLoaded) scan.files := by
  have hempty : scan.files.isEmpty = false := by simpa using hfiles
  simp only [runLine, hargs, run, runTag, hsettings, tagWith, TagOptions.override, hscan, hempty,
    Bool.false_eq_true, if_false]

def longDescription : String := String.ofList (List.replicate 2048 '😀')

def longHeaderFiles : FileSystem :=
  ⟨.directory "" [
    .file "c.toml" (Text.bytesOf ("program.description='" ++ longDescription ++ "'")),
    .file "a.js" (Text.bytesOf "function F(){}")], []⟩

def longHeaderOptions : TagOptions :=
  { paths := ["a.js"], output := some "a.js", config := some "c.toml" }

def longHeaderSettings : Settings := { program := { description := longDescription } }

theorem isEntryName_settings : FileSystem.IsEntryName "c.toml" := by
  constructor <;> decide +kernel

theorem isEntryName_script : FileSystem.IsEntryName "a.js" := by
  constructor <;> decide +kernel

theorem isPlain_longDescription : Toml.IsPlain longDescription.toList := by
  have hplain := Toml.isPlain_replicate 2048 (by decide : '😀' ≠ '\'' ∧ Toml.isControl '😀' = false)
  rwa [← String.toList_ofList (l := List.replicate 2048 '😀')] at hplain

theorem effectiveSettings_longDescription {fs : FileSystem} {own : String}
    (h : fs.root.at? (fs.workingDirectory ++ ["c.toml"]) = some (.file own
      (Text.bytesOf ("program.description='" ++ longDescription ++ "'")))) :
    effectiveSettings fs (some "c.toml") = .ok (longHeaderSettings, some "c.toml") := by
  have hpath : Path.normalize "c.toml" = "c.toml" := by decide +kernel
  have hnull : Path.hasNull "c.toml" = false := by decide +kernel
  have hread := isEntryName_settings.read h
  simp only [effectiveSettings, Settings.load, hpath, hnull, hread, Bool.false_eq_true, if_false,
    Settings.ofBytes_description _ isPlain_longDescription]
  rfl

theorem effectiveSettings_longHeader :
    effectiveSettings longHeaderFiles longHeaderOptions.config =
      .ok (longHeaderSettings, some "c.toml") :=
  effectiveSettings_longDescription rfl

theorem at?_script : longHeaderFiles.root.at? (longHeaderFiles.workingDirectory ++ ["a.js"]) =
    some (.file "a.js" (Text.bytesOf "function F(){}")) := rfl

theorem normalize_script : Path.normalize "a.js" = "a.js" := by decide +kernel

theorem scan_longHeader (s : Selection) :
    Scan.ofPaths longHeaderFiles s longHeaderOptions.paths = .ok ⟨["a.js"], []⟩ := by
  have hnull : Path.hasNull "a.js" = false := by decide +kernel
  have hdirectory : Scan.isDirectory longHeaderFiles "a.js" = .ok false := by
    simp [Scan.isDirectory, normalize_script, hnull, isEntryName_script.entry at?_script]
  simp [Scan.ofPaths, longHeaderOptions, Scan.add, hdirectory, Scan.insertNew, bind, Except.bind,
    pure, Except.pure]

theorem target_longHeader :
    Target.ofOutput longHeaderFiles (longHeaderOptions.output.getD longHeaderSettings.output) =
      .ok (.file ["a.js"]) := by
  have hnull : Path.hasNull "a.js" = false := by decide +kernel
  have hlocate : longHeaderFiles.locateToWrite "a.js" = .ok ["a.js"] :=
    isEntryName_script.locateToWrite at?_script
  simp [Target.ofOutput, longHeaderOptions, hnull, hlocate]

theorem le_utf8ByteSize_longHeader :
    8192 ≤ (Document.header longHeaderSettings.program).utf8ByteSize := by
  have hsize : longDescription.utf8ByteSize = 8192 := Text.utf8ByteSize_replicate 2048 '😀'
  have hle := Document.description_le_header longHeaderSettings.program
  rwa [longHeaderSettings, hsize] at hle

end Command
end ScriptTags
