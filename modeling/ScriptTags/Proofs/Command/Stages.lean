import ScriptTags.Proofs.Command.Delivery

/-!
# The stages of commands

The command that writes tags takes its settings, then looks for files, then opens its output, and
only then reads scripts. It may stop at each of these stages. Once the output is open, a path with a
null character is all that can break it off. The command that shows settings stops at its settings,
or at a number that is too long to be shown.
-/

namespace ScriptTags

open Files

namespace Batch

variable {fs : FileSystem}

theorem outcome_null {path : String} (h : Path.hasNull path = true) :
    outcome (builtIn fs) path = .error (.fatal .nullInPath) := by
  have hsource : builtIn fs path = .error (.fatal .nullInPath) := by
    refine (Registry.extractPath_setUp {} fs path).trans ?_
    rw [extractFile, Path.hasNull_normalize, if_pos h]
  rw [outcome, hsource]

theorem outcomes_null (fs : FileSystem) {paths : List String}
    (h : ∃ path ∈ paths, Path.hasNull path = true) :
    ∃ os, outcomes (builtIn fs) paths = (os, some (.fatal .nullInPath)) := by
  induction paths with
  | nil => simp at h
  | cons path rest ih =>
    cases hnull : Path.hasNull path with
    | true => exact ⟨[], by rw [outcomes, outcome_null hnull]⟩
    | false =>
      obtain ⟨os, hos⟩ := ih (by simpa [hnull] using h)
      exact ⟨outcomeAt fs path :: os, by rw [outcomes, outcome_builtIn hnull, hos]⟩

end Batch

namespace Command

open Batch

theorem Target.ofOutput_cases {fs : FileSystem} {output : String} {target : Target}
    (h : ofOutput fs output = .ok target) :
    (output = "-" ∧ target = .standardOutput) ∨
      ∃ location, output ≠ "-" ∧ Path.hasNull output = false ∧
        fs.locateToWrite output = .ok location ∧ target = .file location := by
  unfold ofOutput at h
  split_ifs at h with hdash hnull
  · exact .inl ⟨hdash, (Except.ok.inj h).symm⟩
  · split at h
    · rename_i location hlocation
      exact .inr ⟨location, hdash, by simpa using hnull, hlocation, (Except.ok.inj h).symm⟩
    · cases h

/-- A path with a null character breaks a run off, with nothing but the header written. -/
theorem writeTags_null {fs : FileSystem} (settings : Settings) {target : Target}
    {paths : List String} (htarget : Target.ofOutput fs settings.output = .ok target)
    (hpaths : ∃ path ∈ paths, Path.hasNull path = true) (verbose : Bool) (before : List Notice) :
    let seen := target.write fs (Target.passedOn (Document.header settings.program))
    ∃ notices, writeTags fs settings verbose before paths =
      { stopped (target.write fs (Document.header settings.program)) notices
          (.fatal .nullInPath) with
        output := target.shown (Document.header settings.program)
        batch := some ⟨builtIn seen, paths, settings.concurrency⟩ } := by
  intro seen
  obtain ⟨os, hos⟩ := outcomes_null seen hpaths
  simp only [writeTags, htarget, Job.run, Batch.run]
  rw [hos]
  exact ⟨_, rfl⟩

def scanFor (fs : FileSystem) (settings : Settings) (o : TagOptions) : Except Fault Scan :=
  Scan.ofPaths fs (Selection.ofNames settings.extensions settings.excludeDirs) o.paths

/-- Where the command writes: to the output that it is told, else to that of the settings. -/
def outputFor (settings : Settings) (o : TagOptions) : String := o.output.getD settings.output

theorem runTag_eq {fs : FileSystem} {o : TagOptions} {settings : Settings}
    {source : Option String} {scan : Scan}
    (hsettings : effectiveSettings fs o.config = .ok (settings, source))
    (hscan : scanFor fs settings o = .ok scan) (hfiles : scan.files ≠ []) :
    runTag fs o = writeTags fs (o.override settings) o.verbose
      (source.toList.map Notice.settingsLoaded) scan.files := by
  unfold scanFor at hscan
  have hempty : scan.files.isEmpty = false := by simpa using hfiles
  simp only [runTag, hsettings, tagWith, TagOptions.override, hscan, hempty, Bool.false_eq_true,
    if_false]

/-- How the command that writes tags ends, by the stage that it comes to. -/
inductive TagRun (fs : FileSystem) (o : TagOptions) : Ending → Prop where
  | badSettings {trouble} (hsettings : effectiveSettings fs o.config = .error trouble) :
    TagRun fs o (stopped fs [] trouble)
  | badScan {settings source fault} (notices)
      (hsettings : effectiveSettings fs o.config = .ok (settings, source))
      (hscan : scanFor fs settings o = .error fault) :
    TagRun fs o (stopped fs notices (.fatal fault))
  | noFiles {settings source scan} (notices)
      (hsettings : effectiveSettings fs o.config = .ok (settings, source))
      (hscan : scanFor fs settings o = .ok scan) (hfiles : scan.files = []) :
    TagRun fs o (stopped fs notices (.reported (.general "No JavaScript files found.")))
  | badOutput {settings source scan trouble} (notices)
      (hsettings : effectiveSettings fs o.config = .ok (settings, source))
      (hscan : scanFor fs settings o = .ok scan) (hfiles : scan.files ≠ [])
      (htarget : Target.ofOutput fs (outputFor settings o) = .error trouble) :
    TagRun fs o (stopped fs notices trouble)
  | broken {settings source scan target} (notices)
      (hsettings : effectiveSettings fs o.config = .ok (settings, source))
      (hscan : scanFor fs settings o = .ok scan) (hfiles : scan.files ≠ [])
      (htarget : Target.ofOutput fs (outputFor settings o) = .ok target)
      (hnull : ∃ path ∈ scan.files, Path.hasNull path = true) :
    TagRun fs o { stopped (target.write fs (Document.header settings.program)) notices
        (.fatal .nullInPath) with
      output := target.shown (Document.header settings.program)
      batch := some
        ⟨builtIn (target.write fs (Target.passedOn (Document.header settings.program))),
          scan.files, (o.override settings).concurrency⟩ }
  | written {settings source scan target ending report tags}
      (hsettings : effectiveSettings fs o.config = .ok (settings, source))
      (hscan : scanFor fs settings o = .ok scan) (hfiles : scan.files ≠ [])
      (htarget : Target.ofOutput fs (outputFor settings o) = .ok target)
      (hnull : ∀ path ∈ scan.files, Path.hasNull path = false)
      (hdelivered : Delivered fs
        (target.write fs (Target.passedOn (Document.header settings.program))) settings.program
        (outputFor settings o) target scan.files report tags ending) :
    TagRun fs o ending

theorem tagRun (fs : FileSystem) (o : TagOptions) : TagRun fs o (runTag fs o) := by
  cases hsettings : effectiveSettings fs o.config with
  | error trouble =>
    simp only [runTag, hsettings]
    exact .badSettings hsettings
  | ok found =>
    obtain ⟨settings, source⟩ := found
    cases hscan : scanFor fs settings o with
    | error fault =>
      have hfails := hscan
      unfold scanFor at hfails
      simp only [runTag, hsettings, tagWith, TagOptions.override, hfails]
      exact .badScan _ hsettings hscan
    | ok scan =>
      by_cases hfiles : scan.files = []
      · have hfound := hscan
        unfold scanFor at hfound
        simp only [runTag, hsettings, tagWith, TagOptions.override, hfound, hfiles,
          List.isEmpty_nil, if_true]
        exact .noFiles _ hsettings hscan hfiles
      · rw [runTag_eq hsettings hscan hfiles]
        cases htarget : Target.ofOutput fs (o.override settings).output with
        | error trouble =>
          simp only [writeTags, htarget]
          exact .badOutput _ hsettings hscan hfiles htarget
        | ok target =>
          by_cases hnull : ∃ path ∈ scan.files, Path.hasNull path = true
          · obtain ⟨notices, hending⟩ := writeTags_null (o.override settings) htarget hnull
              o.verbose (source.toList.map Notice.settingsLoaded)
            rw [hending]
            exact .broken notices hsettings hscan hfiles htarget hnull
          · have hnull : ∀ path ∈ scan.files, Path.hasNull path = false := by simpa using hnull
            obtain ⟨report, tags, hdelivered⟩ := delivered_writeTags (o.override settings) htarget
              hnull (Scan.nodup_ofPaths hscan) o.verbose
              (source.toList.map Notice.settingsLoaded)
            exact .written hsettings hscan hfiles htarget hnull hdelivered

theorem isWritable_eq_false_iff {settings : Settings} :
    settings.isWritable = false ↔
      Text.Decimal.maxDigits < (Nat.toDigits 10 settings.concurrency).length := by
  rw [Settings.isWritable, Text.Decimal.isWritable, decide_eq_false_iff_not, Nat.not_le]

/-- How the command that shows settings ends. -/
inductive SettingsRun (fs : FileSystem) (key config : Option String) : Ending → Prop where
  | badSettings {trouble} (hsettings : effectiveSettings fs config = .error trouble) :
    SettingsRun fs key config (stopped fs [] trouble)
  | longNumber {settings source} (output)
      (hsettings : effectiveSettings fs config = .ok (settings, source))
      (hkey : key = none ∨ key = some "concurrency")
      (hlong : Text.Decimal.maxDigits < (Nat.toDigits 10 settings.concurrency).length) :
    SettingsRun fs key config { stopped fs [] (.fatal (.longNumber none)) with output }
  | shown (output) : SettingsRun fs key config { exit := 0, output, files := fs }
  | unknown (messages) : SettingsRun fs key config { exit := 1, messages, files := fs }

theorem settingsRun (fs : FileSystem) (key config : Option String) :
    SettingsRun fs key config (runSettings fs key config) := by
  unfold runSettings
  split
  · rename_i trouble hsettings
    exact .badSettings hsettings
  · rename_i settings source hsettings
    cases hwritable : settings.isWritable with
    | true =>
      split
      · exact .shown _
      · split
        · simp only [Bool.not_true, Bool.and_false, Bool.false_eq_true, if_false]
          exact .shown _
        · exact .unknown _
    | false =>
      have hlong := isWritable_eq_false_iff.mp hwritable
      split
      · exact .longNumber _ hsettings (.inl rfl) hlong
      · rename_i key
        split
        · split_ifs with hkey
          · exact .longNumber "" hsettings (.inr (by simpa using hkey)) hlong
          · exact .shown _
        · exact .unknown _

end Command

end ScriptTags
