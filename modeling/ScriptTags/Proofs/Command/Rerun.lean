import Mathlib.Data.List.Perm.Basic
import ScriptTags.Proofs.Command.Stages
import ScriptTags.Proofs.Files.Walk
import ScriptTags.Proofs.Script.Header

/-!
# Writing tags again

The command that writes tags may find its own output among its scripts, and after it has run once
it may find it where there was nothing before. Such a script gives no tags: while it is read it is
empty or holds a header, and a header is no script. So a second run writes what the first one wrote.
-/

namespace ScriptTags

open Files

namespace Batch

/-- An output that is being written gives no tags. -/
theorem tags_outcomeAt_passedOn (program : ProgramInfo) {seen : FileSystem} {path : String}
    (h : seen.read (Path.normalize path) =
        .ok (Text.bytesOf (Command.Target.passedOn (Document.header program))) ∨
      seen.read (Path.normalize path) = .error .nameTooLong) :
    (outcomeAt seen path).tags = [] := by
  unfold outcomeAt
  obtain hread | hread := h
  · -- A short header has not reached the file yet; a long one is there and is no script.
    rw [hread]
    unfold Command.Target.passedOn
    split_ifs
    · have hempty : Extract.mentions (Script.read (Text.bytesOf "")) = [] := by decide +kernel
      have hsound : (Script.read (Text.bytesOf "")).hasError = false := by decide +kernel
      simp [hsound, hempty, Outcome.tags]
    · simp [Document.hasError_header, Outcome.tags]
  · rw [hread]
    rfl

theorem flatMap_perm_of_subset {f : String → List Tag} {first second : List String}
    (hfirst : first.Nodup) (hsecond : second.Nodup) (hsub : first ⊆ second)
    (hnew : ∀ path ∈ second, path ∉ first → f path = []) :
    (second.flatMap f).Perm (first.flatMap f) := by
  have hsplit : second.Perm (first ++ second.filter (· ∉ first)) := by
    rw [List.perm_ext_iff_of_nodup hsecond]
    · intro path
      have := @hsub path
      simp only [List.mem_append, List.mem_filter, decide_eq_true_eq]
      tauto
    · refine List.nodup_append.mpr ⟨hfirst, hsecond.filter _, ?_⟩
      rintro a ha b hb rfl
      simpa [ha] using (List.mem_filter.mp hb).2
  refine (hsplit.flatMap_right f).trans ?_
  have hnone : (second.filter (· ∉ first)).flatMap f = [] := by
    rw [List.flatMap_eq_nil_iff]
    intro path hpath
    exact hnew path (List.mem_filter.mp hpath).1 (by simpa using (List.mem_filter.mp hpath).2)
  rw [List.flatMap_append, hnone, List.append_nil]

end Batch

namespace Command

open Batch

/-- The text that is written for paths when scripts are read from `seen`: the header alone if a path
has a null character. -/
def writtenText (program : ProgramInfo) (seen : FileSystem) (paths : List String) : String :=
  if paths.any Path.hasNull then Document.header program
  else deliveredText program (Tag.sort (paths.flatMap fun path => (outcomeAt seen path).tags))

theorem files_writeTags {fs : FileSystem} (settings : Settings) {target : Target}
    (htarget : Target.ofOutput fs settings.output = .ok target) (verbose : Bool)
    (before : List Notice) (paths : List String) :
    (writeTags fs settings verbose before paths).files =
      target.write fs (writtenText settings.program
        (target.write fs (Target.passedOn (Document.header settings.program))) paths) := by
  unfold writtenText
  split_ifs with hnull
  · obtain ⟨notices, hending⟩ := writeTags_null settings htarget (List.any_eq_true.mp hnull) verbose
      before
    rw [hending]
    rfl
  · have hpaths : ∀ path ∈ paths, Path.hasNull path = false := by simpa using hnull
    rw [writeTags_eq settings htarget hpaths verbose before, List.flatMap_map]

theorem deliveredText_sort_perm (program : ProgramInfo) {tags others : List Tag}
    (h : tags.Perm others) :
    deliveredText program (Tag.sort tags) = deliveredText program (Tag.sort others) := by
  have hlines : (Tag.sort tags).map Tag.render = (Tag.sort others).map Tag.render := by
    rw [Tag.map_render_sort, Tag.map_render_sort, Text.sort_eq_of_perm (h.map Tag.render)]
  have hjoin (tags : List Tag) : tags.map (fun tag => tag.render ++ "\n") =
      (tags.map Tag.render).map (· ++ "\n") := by
    rw [List.map_map]
    rfl
  rw [deliveredText, deliveredText, hjoin, hjoin, hlines]

/-- Further paths that lead to the output change nothing of what is written. -/
theorem writtenText_eq_of_subset (program : ProgramInfo) {seen : FileSystem}
    {first second : List String} (hfirst : first.Nodup) (hsecond : second.Nodup)
    (hsub : first ⊆ second)
    (hnew : ∀ path ∈ second, path ∉ first → Path.hasNull path = false ∧
      (outcomeAt seen path).tags = []) :
    writtenText program seen second = writtenText program seen first := by
  have hnull : second.any Path.hasNull = first.any Path.hasNull := by
    rw [Bool.eq_iff_iff, List.any_eq_true, List.any_eq_true]
    constructor
    · rintro ⟨path, hpath, hnull⟩
      by_cases hmem : path ∈ first
      · exact ⟨path, hmem, hnull⟩
      · exact absurd ((hnew path hpath hmem).1.symm.trans hnull) (by simp)
    · rintro ⟨path, hpath, hnull⟩
      exact ⟨path, hsub hpath, hnull⟩
  have hperm := flatMap_perm_of_subset hfirst hsecond hsub fun path hpath hmem =>
    (hnew path hpath hmem).2
  rw [writtenText, writtenText, hnull, deliveredText_sort_perm program hperm]

theorem eq_of_wrote {fs fs' after : FileSystem} {location : Location} {text other : String}
    (h : fs.Wrote location (Text.bytesOf text) after)
    (h' : fs'.Wrote location (Text.bytesOf other) after) : text = other := by
  obtain ⟨name, hname⟩ := h.written
  obtain ⟨name', hname'⟩ := h'.written
  have hcontent := hname.symm.trans hname'
  rw [Option.some.injEq, Entry.file.injEq] at hcontent
  exact Text.bytesOf_injective hcontent.2

theorem Target.ofOutput_write {fs : FileSystem} {output : String} {location : Location}
    (h : ofOutput fs output = .ok (.file location)) (content : Text.Bytes) :
    ofOutput (fs.write location content) output = .ok (.file location) := by
  obtain ⟨-, htarget⟩ | ⟨there, hdash, hnull, hlocation, htarget⟩ := ofOutput_cases h
  · cases htarget
  · cases htarget
    simp [ofOutput, hdash, hnull, FileSystem.locateToWrite_write hlocation content]

theorem Target.isPlace_of_ofOutput {fs : FileSystem} (htree : fs.root.IsTree) {output : String}
    {location : Location} (h : ofOutput fs output = .ok (.file location)) :
    fs.root.IsPlace location := by
  obtain ⟨-, htarget⟩ | ⟨there, -, hnull, hlocation, htarget⟩ := ofOutput_cases h
  · cases htarget
  · cases htarget
    exact FileSystem.isPlace_of_locateToWrite htree hnull hlocation

section

variable {fs : FileSystem} (settings : Settings) {location : Location}

/-- A scan of the files that a run left finds what was found before, and the tags of all that it
finds are written to the same place as the same text. -/
theorem writeTags_again (htree : fs.root.IsTree)
    (htarget : Target.ofOutput fs settings.output = .ok (.file location)) {s : Selection}
    {paths : List String} {scan : Scan} (hscan : Scan.ofPaths fs s paths = .ok scan)
    (verbose : Bool) (before : List Notice) :
    let after := (writeTags fs settings verbose before scan.files).files
    ∃ scan', Scan.ofPaths after s paths = .ok scan' ∧ scan.files ⊆ scan'.files ∧
      (∀ path ∈ scan'.files, path ∉ scan.files → Path.hasNull path = false) ∧
      ∀ again, (writeTags after settings verbose again scan'.files).files = after := by
  intro after
  have hafter : after = fs.write location _ := files_writeTags settings htarget verbose before _
  obtain ⟨scan', hscan', hsub, hnew⟩ := Scan.ofPaths_write
    (Target.isPlace_of_ofOutput htree htarget) hscan
    (Text.bytesOf (writtenText settings.program (fs.write location
      (Text.bytesOf (Target.passedOn (Document.header settings.program)))) scan.files))
  refine ⟨scan', hafter ▸ hscan', hsub, fun path hpath hmem => (hnew path hpath hmem).1, ?_⟩
  intro again
  have htarget' : Target.ofOutput after settings.output = .ok (.file location) :=
    hafter ▸ Target.ofOutput_write htarget _
  rw [files_writeTags settings htarget' verbose again, hafter]
  simp only [Target.write, FileSystem.write_write]
  -- Both runs read their scripts from the same files, so the texts differ by the new paths at most.
  rw [writtenText_eq_of_subset settings.program (Scan.nodup_ofPaths hscan)
    (Scan.nodup_ofPaths hscan') hsub]
  intro path hpath hmem
  obtain ⟨hnull, hread⟩ := hnew path hpath hmem
  exact ⟨hnull, tags_outcomeAt_passedOn settings.program (hread _)⟩

end

/-- What a second run has in common with the first, when the first leaves `text` in the file at
the location and both read their scripts from `seen`. -/
structure Repeats (fs seen : FileSystem) (settings : Settings) (o : TagOptions)
    (location : Location) (text : String) (scan scan' : Scan) (first second : Ending) : Prop where
  written : fs.Wrote location (Text.bytesOf text) first.files
  target : Target.ofOutput first.files (outputFor settings o) = .ok (.file location)
  writtenAgain : first.files.Wrote location (Text.bytesOf text) second.files
  unchanged : second.files = first.files
  opened : fs.Wrote location (Text.bytesOf
    (if (Document.header settings.program).utf8ByteSize < 8192 then ""
      else Document.header settings.program)) seen
  openedAgain : first.files.Wrote location (Text.bytesOf
    (if (Document.header settings.program).utf8ByteSize < 8192 then ""
      else Document.header settings.program)) seen
  found : scanFor first.files settings o = .ok scan'
  foundBefore : scan.files ⊆ scan'.files
  delivered : (∀ path ∈ scan.files, Path.hasNull path = false) → ∃ report tags,
    Delivered fs seen settings.program (outputFor settings o) (.file location) scan.files report
      tags first ∧ deliveredText settings.program tags = text
  deliveredAgain : (∀ path ∈ scan.files, Path.hasNull path = false) → ∃ report tags,
    Delivered first.files seen settings.program (outputFor settings o) (.file location)
      scan'.files report tags second ∧ deliveredText settings.program tags = text

section

variable {fs : FileSystem} {args : List String} {o : TagOptions} {settings : Settings}
  {source again : Option String} {scan : Scan} {location : Location}

/-- Running the command that writes tags a second time, on the files that the first run left and
with the same settings, writes the same text to the same file. In both runs the scripts are read
from a file system in which that file has received the header if the header takes 8192 bytes or
more, and nothing otherwise. -/
theorem runLine_rerun (htree : fs.root.IsTree) (hargs : parse args = .ok (.tag o))
    (hsettings : effectiveSettings fs o.config = .ok (settings, source))
    (hscan : scanFor fs settings o = .ok scan) (hfiles : scan.files ≠ [])
    (htarget : Target.ofOutput fs (outputFor settings o) = .ok (.file location))
    (hagain : effectiveSettings (runLine fs args).files o.config = .ok (settings, again)) :
    ∃ seen text scan', Repeats fs seen settings o location text scan scan' (runLine fs args)
      (runLine (runLine fs args).files args) := by
  have hfirst : runLine fs args = writeTags fs (o.override settings) o.verbose _ scan.files :=
    runLine_tag hargs hsettings hscan hfiles
  have hscans := writeTags_again (o.override settings) htree htarget hscan o.verbose
    (source.toList.map Notice.settingsLoaded)
  rw [← hfirst] at hscans
  obtain ⟨scan', hscan', hsub, hnew, hsame⟩ := hscans
  have hfiles' : scan'.files ≠ [] := fun hnil => hfiles (List.subset_nil.mp (hnil ▸ hsub))
  have hsecond : runLine (runLine fs args).files args = writeTags (runLine fs args).files
      (o.override settings) o.verbose _ scan'.files := runLine_tag hargs hagain hscan' hfiles'
  generalize runLine (runLine fs args).files args = second at hsecond ⊢
  generalize runLine fs args = first at *
  obtain ⟨text, hafter⟩ : ∃ text, first.files = fs.write location (Text.bytesOf text) :=
    ⟨_, hfirst ▸ files_writeTags (o.override settings) htarget o.verbose _ scan.files⟩
  have hequal : second.files = first.files := hsecond ▸ hsame _
  have htarget' : Target.ofOutput first.files (outputFor settings o) = .ok (.file location) :=
    hafter ▸ Target.ofOutput_write htarget _
  -- Writing at the location again undoes what the first run has written there.
  have hwrites (content : Text.Bytes) :
      first.files.write location content = fs.write location content := by
    rw [hafter, FileSystem.write_write]
  have hreceived (text : String) : fs.Wrote location (Text.bytesOf text)
      (fs.write location (Text.bytesOf text)) := Target.received_write htarget text
  have hreceived' (text : String) : first.files.Wrote location (Text.bytesOf text)
      (fs.write location (Text.bytesOf text)) :=
    hwrites (Text.bytesOf text) ▸ Target.received_write htarget' text
  have hwrote : fs.Wrote location (Text.bytesOf text) first.files := hafter ▸ hreceived text
  have hwrote' : first.files.Wrote location (Text.bytesOf text) second.files := by
    have hwrote := hreceived' text
    rw [hequal]
    rwa [← hafter] at hwrote
  refine ⟨_, text, scan', hwrote, htarget', hwrote', hequal, hreceived _, hreceived' _, hscan',
    hsub, ?_, ?_⟩
  · intro hnull
    obtain ⟨report, tags, hdelivered⟩ := delivered_writeTags (o.override settings) htarget hnull
      (Scan.nodup_ofPaths hscan) o.verbose (source.toList.map Notice.settingsLoaded)
    rw [← hfirst] at hdelivered
    exact ⟨report, tags, hdelivered, eq_of_wrote hdelivered.received hwrote⟩
  · intro hnull
    have hnull' : ∀ path ∈ scan'.files, Path.hasNull path = false := by
      intro path hpath
      by_cases hmem : path ∈ scan.files
      · exact hnull path hmem
      · exact hnew path hpath hmem
    obtain ⟨report, tags, hdelivered⟩ := delivered_writeTags (o.override settings) htarget' hnull'
      (Scan.nodup_ofPaths hscan') o.verbose (again.toList.map Notice.settingsLoaded)
    rw [← hsecond, Target.write, hwrites] at hdelivered
    exact ⟨report, tags, hdelivered, eq_of_wrote hdelivered.received hwrote'⟩

end

def rerunArguments : List String := ["tag", "--config", "c.toml", "-f", "t.js", "."]

def rerunOptions : TagOptions :=
  { paths := ["."], output := some "t.js", config := some "c.toml" }

theorem parse_rerunArguments : parse rerunArguments = .ok (.tag rerunOptions) := by
  decide +kernel

theorem isTree_longHeaderFiles : longHeaderFiles.root.IsTree := by
  refine Entry.isTree_directory (by decide +kernel) ?_ ""
  simp only [List.mem_cons, List.not_mem_nil, or_false]
  rintro e (rfl | rfl)
  · refine ⟨⟨⟨?_, ?_⟩, ?_, ?_, ?_⟩, Entry.isTree_file _ _⟩ <;> decide +kernel
  · refine ⟨⟨⟨?_, ?_⟩, ?_, ?_, ?_⟩, Entry.isTree_file _ _⟩ <;> decide +kernel

theorem isEntryName_output : FileSystem.IsEntryName "t.js" := by
  constructor <;> decide +kernel

theorem target_rerun :
    Target.ofOutput longHeaderFiles (outputFor longHeaderSettings rerunOptions) =
      .ok (.file ["t.js"]) := by
  have hnull : Path.hasNull "t.js" = false := by decide +kernel
  have hlocate : longHeaderFiles.locateToWrite "t.js" = .ok ["t.js"] :=
    isEntryName_output.locateToWrite_new rfl rfl
  simp [Target.ofOutput, outputFor, rerunOptions, hnull, hlocate]

theorem isDirectory_point (fs : FileSystem) {own : String} {entries : List Entry}
    (h : fs.root.at? fs.workingDirectory = some (.directory own entries)) :
    fs.locate "." = .ok fs.workingDirectory ∧ Scan.isDirectory fs "." = .ok true := by
  have hroute : Path.route "." = ["."] := by decide +kernel
  have hnormalize : Path.normalize "." = "." := by decide +kernel
  have hrelative : Path.isAbsolute "." = false := by decide +kernel
  have hsize : ¬ maxPathBytes < ".".utf8ByteSize := by decide +kernel
  have hlocate : fs.locate "." = .ok fs.workingDirectory := by
    rw [FileSystem.locate, if_neg (by decide), if_neg hsize, FileSystem.start, hrelative, hroute,
      if_neg (by simp), FileSystem.follow_here h, FileSystem.follow_nil]
  refine ⟨hlocate, ?_⟩
  rw [Scan.isDirectory_eq_true_iff, hnormalize]
  exact ⟨by decide +kernel, own, entries, FileSystem.entry_eq_ok_iff.mpr ⟨_, hlocate, h⟩⟩

theorem scan_rerun :
    scanFor longHeaderFiles longHeaderSettings rerunOptions = .ok ⟨["./a.js"], ["."]⟩ := by
  obtain ⟨hlocate, hdirectory⟩ := isDirectory_point longHeaderFiles rfl
  have hfiles : Scan.filesOf longHeaderFiles (Selection.ofNames longHeaderSettings.extensions
      longHeaderSettings.excludeDirs) "." = ["./a.js"] := by
    rw [Scan.filesOf, hlocate]
    decide +kernel
  simp [scanFor, Scan.ofPaths, rerunOptions, Scan.add, hdirectory, hfiles, Scan.insertNew, bind,
    Except.bind, pure, Except.pure]

theorem scan_rerun_again (content : Text.Bytes) :
    scanFor (longHeaderFiles.write ["t.js"] content) longHeaderSettings rerunOptions =
      .ok ⟨["./a.js", "./t.js"], ["."]⟩ := by
  obtain ⟨hlocate, hdirectory⟩ := isDirectory_point (longHeaderFiles.write ["t.js"] content) rfl
  generalize hs : Selection.ofNames longHeaderSettings.extensions longHeaderSettings.excludeDirs = s
  have htakes : s.takesFile "c.toml" = false ∧ s.takesFile "a.js" = true ∧
      s.takesFile "t.js" = true := by
    rw [← hs]
    decide +kernel
  have hsort : Text.sort ["a.js", "t.js"] = ["a.js", "t.js"] :=
    List.mergeSort_of_pairwise (by decide +kernel)
  have hjoin : Path.join "." "a.js" = "./a.js" ∧ Path.join "." "t.js" = "./t.js" := by
    decide +kernel
  have hfiles : Scan.filesOf (longHeaderFiles.write ["t.js"] content) s "." =
      ["./a.js", "./t.js"] := by
    rw [Scan.filesOf, hlocate]
    change Entry.filesBelow _ s [] "." (.directory "" [
      .file "c.toml" (Text.bytesOf ("program.description='" ++ longDescription ++ "'")),
      .file "a.js" (Text.bytesOf "function F(){}"), .file "t.js" content]) = _
    simp [Entry.filesBelow, Entry.takenNames, Entry.leadsToDirectory, Entry.subdirectories, htakes,
      hsort, hjoin]
  simp [scanFor, hs, Scan.ofPaths, rerunOptions, Scan.add, hdirectory, hfiles, Scan.insertNew, bind,
    Except.bind, pure, Except.pure]

theorem files_rerun : ∃ text, (runLine longHeaderFiles rerunArguments).files =
    longHeaderFiles.write ["t.js"] (Text.bytesOf text) := by
  rw [runLine_tag parse_rerunArguments effectiveSettings_longHeader scan_rerun (by simp)]
  exact ⟨_, files_writeTags (rerunOptions.override longHeaderSettings) target_rerun _ _ _⟩

theorem effectiveSettings_rerun :
    effectiveSettings (runLine longHeaderFiles rerunArguments).files rerunOptions.config =
      .ok (longHeaderSettings, some "c.toml") := by
  obtain ⟨text, hafter⟩ := files_rerun
  rw [hafter]
  exact effectiveSettings_longDescription rfl

theorem normalize_rerun : Path.normalize "./a.js" = "a.js" ∧ Path.normalize "./t.js" = "t.js" := by
  decide +kernel

theorem exit_rerun : (runLine (runLine longHeaderFiles rerunArguments).files
    rerunArguments).exit = 1 := by
  obtain ⟨text, hafter⟩ := files_rerun
  have hscan := scan_rerun_again (Text.bytesOf text)
  have htarget := Target.ofOutput_write target_rerun (Text.bytesOf text)
  rw [← hafter] at hscan htarget
  rw [runLine_tag parse_rerunArguments effectiveSettings_rerun hscan (by simp)]
  rw [hafter] at htarget ⊢
  obtain ⟨report, tags, hdelivered⟩ := delivered_writeTags
    (rerunOptions.override longHeaderSettings) htarget
    (show ∀ path ∈ ["./a.js", "./t.js"], Path.hasNull path = false by decide)
    (by decide) rerunOptions.verbose [Notice.settingsLoaded "c.toml"]
  refine hdelivered.exit.trans (if_pos ⟨"./t.js", by simp, ?_⟩)
  have hwrote := Target.received_write htarget
    (Target.passedOn (Document.header longHeaderSettings.program))
  have hread := hwrote.read isEntryName_output
  have hpassed : Target.passedOn (Document.header longHeaderSettings.program) =
      Document.header longHeaderSettings.program :=
    if_neg (Nat.not_lt.mpr le_utf8ByteSize_longHeader)
  rw [succeeds_of_read_normalize (by decide) (by rw [normalize_rerun.2]; exact hread), hpassed,
    Document.hasError_header]
  rfl

theorem succeeds_rerun_emptied {content : Text.Bytes} {seen : FileSystem}
    (h : (longHeaderFiles.write ["t.js"] content).Wrote ["t.js"] (Text.bytesOf "") seen) :
    ∀ path ∈ ["./a.js", "./t.js"], succeeds (builtIn seen) path = true := by
  have hscript : seen.read "a.js" = .ok (Text.bytesOf "function F(){}") :=
    h.read_of_ne isEntryName_script rfl (by simp [FileSystem.write, longHeaderFiles])
  have houtput : seen.read "t.js" = .ok (Text.bytesOf "") := h.read isEntryName_output
  have hsound : (Script.read (Text.bytesOf "function F(){}")).hasError = false ∧
      (Script.read (Text.bytesOf "")).hasError = false := by decide +kernel
  simp only [List.mem_cons, List.not_mem_nil, or_false]
  rintro path (rfl | rfl)
  · rw [succeeds_of_read_normalize (by decide) (by rw [normalize_rerun.1]; exact hscript), hsound.1]
    rfl
  · rw [succeeds_of_read_normalize (by decide) (by rw [normalize_rerun.2]; exact houtput), hsound.2]
    rfl

/-- The second run of a command whose header is long does not find its output empty: it fails to
read it as a script, which it would not if it were. -/
theorem runLine_rerun_not_emptied :
    let first := runLine longHeaderFiles rerunArguments
    parse rerunArguments = .ok (.tag rerunOptions) ∧ longHeaderFiles.root.IsTree ∧
      effectiveSettings longHeaderFiles rerunOptions.config =
        .ok (longHeaderSettings, some "c.toml") ∧
      scanFor longHeaderFiles longHeaderSettings rerunOptions = .ok ⟨["./a.js"], ["."]⟩ ∧
      Target.ofOutput longHeaderFiles (outputFor longHeaderSettings rerunOptions) =
        .ok (.file ["t.js"]) ∧
      effectiveSettings first.files rerunOptions.config =
        .ok (longHeaderSettings, some "c.toml") ∧
      scanFor first.files longHeaderSettings rerunOptions =
        .ok ⟨["./a.js", "./t.js"], ["."]⟩ ∧
      ¬ ∃ seen, first.files.Wrote ["t.js"] (Text.bytesOf "") seen ∧
        ∃ report tags, Delivered first.files seen longHeaderSettings.program "t.js"
          (.file ["t.js"]) ["./a.js", "./t.js"] report tags
          (runLine first.files rerunArguments) := by
  intro first
  obtain ⟨text, hafter⟩ := files_rerun
  have hscan : scanFor first.files longHeaderSettings rerunOptions =
      .ok ⟨["./a.js", "./t.js"], ["."]⟩ := hafter ▸ scan_rerun_again _
  refine ⟨parse_rerunArguments, isTree_longHeaderFiles, effectiveSettings_longHeader, scan_rerun,
    target_rerun, effectiveSettings_rerun, hscan, ?_⟩
  rintro ⟨seen, hseen, report, tags, hdelivered⟩
  have hsucceeds := succeeds_rerun_emptied (hafter ▸ hseen)
  have hexit := hdelivered.exit
  rw [exit_rerun, if_neg (by simpa using hsucceeds)] at hexit
  exact absurd hexit (by decide)

/-- The same two runs under the account that takes the header into view. -/
theorem runLine_rerun_newOutput :
    scanFor longHeaderFiles longHeaderSettings rerunOptions = .ok ⟨["./a.js"], ["."]⟩ ∧
      8192 ≤ (Document.header longHeaderSettings.program).utf8ByteSize ∧
      ∃ seen text scan', Repeats longHeaderFiles seen longHeaderSettings rerunOptions ["t.js"] text
        ⟨["./a.js"], ["."]⟩ scan' (runLine longHeaderFiles rerunArguments)
        (runLine (runLine longHeaderFiles rerunArguments).files rerunArguments) :=
  ⟨scan_rerun, le_utf8ByteSize_longHeader, runLine_rerun isTree_longHeaderFiles
    parse_rerunArguments effectiveSettings_longHeader scan_rerun (by simp) target_rerun
    effectiveSettings_rerun⟩

end Command

end ScriptTags
