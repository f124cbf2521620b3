import ScriptTags.Proofs.Command.Rerun
import ScriptTags.Proofs.Record.Models
import ScriptTags.Proofs.Settings.Nearest

/-!
# Which settings count

Options of the command line count first, then the nearest settings file, then the defaults. A file
that counts is the only one that does: what it leaves out is filled by the defaults, and not by a
file farther up. Only a link can bring another file into play.
-/

namespace ScriptTags

open Files Record

namespace Settings

/-- What settings are taken from the bytes of a file: every field by itself, from the file if it is
given there and otherwise from the defaults. -/
theorem ofBytes_eq_ok_iff {path : String} {content : Text.Bytes} {settings : Settings} :
    ofBytes path content = .ok settings ↔
      ∃ text fields, Text.Utf8.decode? content = .ok text ∧ Toml.parse text = .ok (.table fields) ∧
        settings.GivenBy fields := by
  unfold ofBytes
  cases Text.Utf8.decode? content with
  | error e => simp
  | ok text =>
    cases hparse : Toml.parse text with
    | error flaw => cases flaw <;> simp [hparse]
    | ok value =>
      have haccepted := check_eq_accepted (v := value) (s := settings)
      cases hcheck : check value with
      | accepted found =>
        rw [hcheck, Check.accepted.injEq] at haccepted
        simp [hparse, hcheck, haccepted]
      | rejected issues =>
        rw [hcheck] at haccepted
        simpa [hparse, hcheck] using haccepted

theorem ofBytes_congr {path : String} {content content' : Text.Bytes} {text text' : List Char}
    {value value' : Value} (hdecode : Text.Utf8.decode? content = .ok text)
    (hdecode' : Text.Utf8.decode? content' = .ok text') (hparse : Toml.parse text = .ok value)
    (hparse' : Toml.parse text' = .ok value')
    (h : value.strip (.record shape) = value'.strip (.record shape)) :
    ofBytes path content = ofBytes path content' := by
  have hcheck : check value = check value' := by
    rw [← looksAt_check value, h, looksAt_check value']
  simp only [ofBytes, hdecode, hdecode', hparse, hparse', hcheck]

end Settings

/-- The ending with another number of files to read at once in its batch. -/
def Ending.withConcurrency (ending : Ending) (concurrency : Int) : Ending :=
  { ending with batch := ending.batch.map ({ · with concurrency }) }

namespace Command

open Batch

theorem effectiveSettings_none (fs : FileSystem) :
    (effectiveSettings fs none).map Prod.fst = Settings.loadNearest fs "." := by
  unfold effectiveSettings Settings.loadNearest
  cases Settings.find fs "." with
  | error fault => rfl
  | ok found =>
    cases found with
    | none => rfl
    | some path =>
      simp only
      cases Settings.load fs path <;> rfl

section Concurrency

variable {fs : FileSystem} (settings : Settings) (verbose : Bool) (before : List Notice)
  (paths : List String)

/-- Once the output is open, the batch is run with the number that the settings give, whatever
comes of it. -/
theorem batch_writeTags {target : Target}
    (htarget : Target.ofOutput fs settings.output = .ok target) :
    ∃ job, (writeTags fs settings verbose before paths).batch = some job ∧
      job.source = builtIn
        (target.write fs (Target.passedOn (Document.header settings.program))) ∧
      job.paths = paths ∧ job.concurrency = settings.concurrency := by
  by_cases hnull : ∃ path ∈ paths, Path.hasNull path = true
  · obtain ⟨notices, hending⟩ := writeTags_null settings htarget hnull verbose before
    simp [hending]
  · have hpaths : ∀ path ∈ paths, Path.hasNull path = false := by simpa using hnull
    simp [writeTags_eq settings htarget hpaths verbose before]

theorem withConcurrency_stopped (notices : List String) (trouble : Trouble) (concurrency : Int) :
    (stopped fs notices trouble).withConcurrency concurrency = stopped fs notices trouble := by
  cases trouble <;> rfl

theorem writeTags_concurrency (concurrency : ℕ) :
    writeTags fs { settings with concurrency } verbose before paths =
      (writeTags fs settings verbose before paths).withConcurrency concurrency := by
  cases htarget : Target.ofOutput fs settings.output with
  | error trouble => simp only [writeTags, htarget, withConcurrency_stopped]
  | ok target =>
    simp only [writeTags, htarget, Job.run]
    generalize Registry.extractPath _ _ = source
    cases Batch.run source paths .empty with
    | error trouble => cases trouble <;> rfl
    | ok result =>
      obtain ⟨report, collector⟩ := result
      simp only
      cases collector.flush with
      | error e => rfl
      | ok flushed => rfl

theorem tagWith_concurrency (source : Option String) (concurrency : ℕ) :
    tagWith fs { settings with concurrency } source paths verbose =
      (tagWith fs settings source paths verbose).withConcurrency concurrency := by
  simp only [tagWith]
  split
  · rw [withConcurrency_stopped]
  · split_ifs
    · rw [withConcurrency_stopped]
    · exact writeTags_concurrency settings _ _ _ concurrency

end Concurrency

/-- The option for the number of files that are read at once changes this number and nothing
else. -/
theorem runTag_concurrency (fs : FileSystem) (o : TagOptions) (concurrency : ℕ) :
    runTag fs { o with concurrency := some concurrency } =
      (runTag fs o).withConcurrency concurrency := by
  simp only [runTag]
  cases effectiveSettings fs o.config with
  | error trouble => simp only [withConcurrency_stopped]
  | ok found =>
    obtain ⟨settings, source⟩ := found
    exact tagWith_concurrency (o.override settings) o.verbose o.paths source concurrency

theorem runTag_eq_tagWith {fs : FileSystem} {o : TagOptions} {settings : Settings}
    {source : Option String} (h : effectiveSettings fs o.config = .ok (settings, source)) :
    runTag fs o = tagWith fs
      { settings with
        output := o.output.getD settings.output
        concurrency := o.concurrency.getD settings.concurrency }
      source o.paths o.verbose := by
  simp only [runTag, h]
  rfl

/-- Files are read with so many permits: no schedule of the batch reads more of them at once, some
schedule reads as many, none gets stuck, and all end with the report and the lines. -/
structure ReadsWith (job : Job) (limit : ℕ) (report : Report) (lines : List String) : Prop where
  bounded : ∀ s, job.Reaches s → s.reading ≤ limit
  attained : ∃ s, job.Reaches s ∧ s.reading = min limit job.paths.length
  goesOn : ∀ s, job.Reaches s → ¬ s.Finished →
    ∃ t, Execution.Turn job.source (permits job.concurrency) s t
  agrees : ∀ s, job.Reaches s → s.Finished →
    s.report = report ∧ s.collector.flushedLines = some lines

theorem readsWith_builtIn {job : Job} {seen : FileSystem} {report : Report} {lines : List String}
    (hsource : job.source = builtIn seen) (hnull : ∀ path ∈ job.paths, Path.hasNull path = false)
    (hagrees : ∀ s, job.Reaches s → s.Finished →
      s.report = report ∧ s.collector.flushedLines = some lines) :
    ReadsWith job (permits job.concurrency) report lines where
  bounded _ hreaches := Execution.reading_le hreaches
  attained := Execution.exists_reading _ _ _ _
  goesOn s hreaches hunfinished := by
    have ho : ∀ path ∈ job.paths, outcome job.source path = .ok (outcomeAt seen path) := by
      intro path hpath
      rw [hsource, outcome_builtIn (hnull path hpath)]
    have hconsistent := Execution.consistent_initial (outcomeAt seen) job.paths []
    exact (hconsistent.reaches ho hreaches).exists_turn ho (permits_pos _) hunfinished
  agrees := hagrees

/-- The files are read with as many permits as the options and the settings say. -/
theorem runTag_readsWith {fs : FileSystem} {o : TagOptions} {settings : Settings}
    {source : Option String} {scan : Scan} {target : Target}
    (hsettings : effectiveSettings fs o.config = .ok (settings, source))
    (hscan : scanFor fs settings o = .ok scan) (hfiles : scan.files ≠ [])
    (hnull : ∀ path ∈ scan.files, Path.hasNull path = false)
    (htarget : Target.ofOutput fs (o.output.getD settings.output) = .ok target) :
    let seen := target.write fs (Target.passedOn (Document.header settings.program))
    ∃ report tags job, (runTag fs o).batch = some job ∧ job.source = builtIn seen ∧
      job.paths = scan.files ∧ job.concurrency = o.concurrency.getD settings.concurrency ∧
      Delivered fs seen settings.program (o.output.getD settings.output) target scan.files report
        tags (runTag fs o) ∧
      ReadsWith job (permits (o.concurrency.getD settings.concurrency)) report
        (tags.map Tag.render) := by
  intro seen
  obtain ⟨report, tags, hdelivered⟩ := delivered_writeTags (o.override settings) htarget hnull
    (Scan.nodup_ofPaths hscan) o.verbose (source.toList.map Notice.settingsLoaded)
  obtain ⟨job, hbatch, hsource, hpaths, hconcurrency⟩ := batch_writeTags (o.override settings)
    o.verbose (source.toList.map Notice.settingsLoaded) scan.files htarget
  have hagrees : ∀ s, job.Reaches s → s.Finished →
      s.report = report ∧ s.collector.flushedLines = some (tags.map Tag.render) := by
    intro s hreaches
    rw [Job.Reaches, hsource, hpaths] at hreaches
    exact hdelivered.scheduled job.concurrency s hreaches
  have hreads := readsWith_builtIn hsource (hpaths ▸ hnull) hagrees
  rw [hconcurrency] at hreads
  rw [runTag_eq hsettings hscan hfiles]
  exact ⟨report, tags, job, hbatch, hsource, hpaths, hconcurrency, hdelivered, hreads⟩

/-- The nearest settings file counts and no other one, field by field before the defaults, and the
options of the command replace the output and the number of files that are read at once: the batch
that is run has this number, and another one changes nothing else. -/
theorem settings_precedence {fs : FileSystem} (htree : fs.root.IsTree) {start : String}
    {location : Location} {own : String} {entries : List Entry}
    (hnull : Path.hasNull start = false)
    (hstart : fs.locate (Path.normalize start) = .ok location)
    (hlocation : fs.root.at? location = some (.directory own entries)) :
    Settings.InForce fs start location ∧
    (∀ path content settings, Settings.ofBytes path content = .ok settings ↔
      ∃ text fields, Text.Utf8.decode? content = .ok text ∧
        Toml.parse text = .ok (.table fields) ∧ settings.GivenBy fields) ∧
    (∀ value program, ProgramInfo.check value = .accepted program ↔
      ∃ fields, value = .table fields ∧ program.GivenBy fields) ∧
    (∀ path content content' text text' value value',
      Text.Utf8.decode? content = .ok text → Text.Utf8.decode? content' = .ok text' →
      Toml.parse text = .ok value → Toml.parse text' = .ok value' →
      value.strip (.record Settings.shape) = value'.strip (.record Settings.shape) →
      Settings.ofBytes path content = Settings.ofBytes path content') ∧
    (effectiveSettings fs none).map Prod.fst = Settings.loadNearest fs "." ∧
    (∀ (o : TagOptions) (concurrency : ℕ),
      runTag fs { o with concurrency := some concurrency } =
        (runTag fs o).withConcurrency concurrency) ∧
    ∀ o settings source, effectiveSettings fs o.config = .ok (settings, source) →
      runTag fs o = tagWith fs
        { settings with
          output := o.output.getD settings.output
          concurrency := o.concurrency.getD settings.concurrency }
        source o.paths o.verbose ∧
      ∀ scan target, scanFor fs settings o = .ok scan → scan.files ≠ [] →
        (∀ path ∈ scan.files, Path.hasNull path = false) →
        Target.ofOutput fs (o.output.getD settings.output) = .ok target →
        let seen := target.write fs (Target.passedOn (Document.header settings.program))
        ∃ report tags job, (runTag fs o).batch = some job ∧ job.source = builtIn seen ∧
          job.paths = scan.files ∧ job.concurrency = o.concurrency.getD settings.concurrency ∧
          Delivered fs seen settings.program (o.output.getD settings.output) target scan.files
            report tags (runTag fs o) ∧
          ReadsWith job (permits (o.concurrency.getD settings.concurrency)) report
            (tags.map Tag.render) := by
  refine ⟨Settings.inForce htree hnull hstart hlocation,
    fun _ _ _ => Settings.ofBytes_eq_ok_iff, fun _ _ => ProgramInfo.check_eq_accepted,
    fun _ _ _ _ _ _ _ hdecode hdecode' hparse hparse' h =>
      Settings.ofBytes_congr hdecode hdecode' hparse hparse' h, effectiveSettings_none fs,
    runTag_concurrency fs, ?_⟩
  intro o settings source hsettings
  refine ⟨runTag_eq_tagWith hsettings, ?_⟩
  intro scan target hscan hfiles hpaths htarget
  exact runTag_readsWith hsettings hscan hfiles hpaths htarget

section Sample

open Settings FileSystem

def described (description : String) : Text.Bytes :=
  Text.bytesOf ("program.description='" ++ description ++ "'")

/-- A directory whose settings are a link to those of another directory, below a directory with
settings of its own. -/
def linkedSettings (elsewhere : List Entry) : FileSystem where
  root := .directory "" [.file fileName (described "above"),
    .directory "a" [.link fileName "../x/.jstags.toml"], .directory "x" elsewhere]
  workingDirectory := []

theorem isLookedUp_sample : ∀ name ∈ ["a", "x", fileName], IsLookedUp name := by
  simp only [List.mem_cons, List.not_mem_nil, or_false]
  rintro name (rfl | rfl | rfl) <;> constructor <;> decide +kernel

theorem locate_linkedSettings (elsewhere : List Entry) :
    (linkedSettings elsewhere).locate "a" = .ok ["a"] := by
  have hroute : Path.route "a" = ["a"] ∧ Path.isAbsolute "a" = false := by decide +kernel
  have hfollow : follow (linkedSettings elsewhere).root maxLinks [] ["a"] = .ok ["a"] :=
    Eq.trans (follow_entry rfl (isLookedUp_sample "a" (by simp)) rfl (by simp) _ [])
      (follow_nil _)
  rw [locate, if_neg (by decide), if_neg (by decide +kernel), start, hroute.1, hroute.2]
  exact hfollow

theorem locate_pathIn_linkedSettings (elsewhere : List Entry) :
    (linkedSettings elsewhere).locate (pathIn ["a"]) =
      follow (linkedSettings elsewhere).root 39 ["x"] [fileName] := by
  have hroute : Path.route (pathIn ["a"]) = ["a", fileName] ∧
      Path.isAbsolute (pathIn ["a"]) = true ∧
      Path.route "../x/.jstags.toml" = ["..", "x", fileName] ∧
      Path.isAbsolute "../x/.jstags.toml" = false := by decide +kernel
  rw [locate, if_neg (by decide +kernel), if_neg (by decide +kernel), start, hroute.1, hroute.2.1,
    if_pos rfl]
  refine Eq.trans (follow_entry rfl (isLookedUp_sample "a" (by simp)) rfl (by simp) _ _) ?_
  refine Eq.trans (follow_link rfl (isLookedUp_sample fileName (by simp)) rfl 39 []) ?_
  rw [hroute.2.2.1, hroute.2.2.2]
  refine Eq.trans (follow_above rfl 39 ["x", fileName]) ?_
  exact follow_entry rfl (isLookedUp_sample "x" (by simp)) rfl (by simp) 39 [fileName]

theorem isNearest_above : IsNearest (linkedSettings []) ["a"] [] (described "above") := by
  refine ⟨⟨List.nil_prefix, ?_⟩, fileName, ?_⟩
  · intro nearer _ hnearer hne
    have hself : nearer = ["a"] :=
      (List.prefix_concat_iff.mp hnearer).resolve_right fun h => hne (List.prefix_nil.mp h)
    have hmissing := (locate_pathIn_linkedSettings []).trans
      (follow_missing rfl (isLookedUp_sample fileName (by simp)) rfl 39 [])
    rw [hself, isFile, entry, hmissing]
  · have hroute : Path.route (pathIn []) = [fileName] ∧ Path.isAbsolute (pathIn []) = true := by
      decide +kernel
    refine entry_eq_ok_iff.mpr ⟨[fileName], ?_, rfl⟩
    rw [locate, if_neg (by decide +kernel), if_neg (by decide +kernel), start, hroute.1, hroute.2,
      if_pos rfl]
    exact Eq.trans (follow_entry rfl (isLookedUp_sample fileName (by simp)) rfl (by simp) _ [])
      (follow_nil _)

theorem isNearest_elsewhere :
    IsNearest (linkedSettings [.file fileName (described "elsewhere")]) ["a"] ["a"]
      (described "elsewhere") := by
  refine ⟨comes_self _ _, fileName, entry_eq_ok_iff.mpr ⟨["x", fileName], ?_, rfl⟩⟩
  rw [locate_pathIn_linkedSettings]
  exact Eq.trans (follow_entry rfl (isLookedUp_sample fileName (by simp)) rfl (by simp) 39 [])
    (follow_nil 39)

theorem differsAt_linkedSettings (content : Text.Bytes) :
    (linkedSettings []).DiffersAt ["x", fileName] (linkedSettings [.file fileName content]) := by
  refine ⟨rfl, ?_⟩
  intro other hother
  cases other with
  | nil => rfl
  | cons name rest =>
    rw [Entry.SameAt, linkedSettings, linkedSettings, Entry.at?, Entry.at?, named?, named?,
      List.find?_cons, List.find?_cons, List.find?_cons, List.find?_cons, List.find?_cons,
      List.find?_cons]
    cases (Entry.file fileName (described "above")).name == name with
    | true => rfl
    | false =>
      cases (Entry.directory "a" [.link fileName "../x/.jstags.toml"]).name == name with
      | true => rfl
      | false =>
        by_cases hx : "x" = name
        · -- Below the other directory, only the settings differ.
          subst hx
          cases rest with
          | nil => rfl
          | cons next rest =>
            have hnext : fileName ≠ next := by
              rintro rfl
              exact hother ⟨rest, rfl⟩
            simp [Entry.at?, Entry.name, named?, hnext]
        · have hname : (Entry.name (.directory "x" []) == name) = false := beq_false_of_ne hx
          have hname' : (Entry.name (.directory "x" [.file fileName content]) == name) = false :=
            hname
          rw [hname, hname']

theorem isPlain_sample : ∀ description ∈ ["above", "elsewhere"],
    Toml.IsPlain description.toList := by
  have hall : ∀ description ∈ ["above", "elsewhere"],
      (description.toList.all fun c => c != '\'' && !Toml.isControl c) = true := by decide
  intro description hmem c hc
  simpa using List.all_eq_true.mp (hall description hmem) c hc

theorem loadNearest_described {fs : FileSystem} {directory : Location} {description : String}
    (h : IsNearest fs ["a"] directory (described description))
    (hstart : fs.locate "a" = .ok ["a"]) (hplain : Toml.IsPlain description.toList) :
    loadNearest fs "a" = .ok { program := { description } } := by
  have hnormal : Path.normalize "a" = "a" := by decide +kernel
  have hnames : ∀ name ∈ ["a"], Path.IsName name := by
    intro name hname
    rw [List.mem_singleton.mp hname]
    refine ⟨⟨?_, ?_⟩, ?_, ?_, ?_⟩ <;> decide +kernel
  rw [h.loadNearest hnames (searchStart_of_locate (by decide +kernel) (hnormal ▸ hstart)),
    described, ofBytes_description _ hplain]

/-- A settings file that is not above the start, added where a link of the start leads, changes the
settings in force, although the nearest ones are no link. -/
theorem loadNearest_not_apart :
    let before := linkedSettings []
    let after := linkedSettings [.file fileName (described "elsewhere")]
    searchStart before "a" = .ok ["a"] ∧ IsNearest before ["a"] [] (described "above") ∧
      before.root.at? [fileName] = some (.file fileName (described "above")) ∧
      before.DiffersAt (["x"] ++ [fileName]) after ∧ ¬ ["x"] <+: ["a"] ∧
      loadNearest before "a" = .ok { program := { description := "above" } } ∧
      loadNearest after "a" = .ok { program := { description := "elsewhere" } } ∧
      loadNearest after "a" ≠ loadNearest before "a" := by
  intro before after
  have hnormal : Path.normalize "a" = "a" := by decide +kernel
  have hbefore : loadNearest before "a" = .ok { program := { description := "above" } } :=
    loadNearest_described isNearest_above (locate_linkedSettings _) (isPlain_sample _ (by simp))
  have hafter : loadNearest after "a" = .ok { program := { description := "elsewhere" } } :=
    loadNearest_described isNearest_elsewhere (locate_linkedSettings _) (isPlain_sample _ (by simp))
  refine ⟨searchStart_of_locate (by decide +kernel) (hnormal ▸ locate_linkedSettings _),
    isNearest_above, rfl, differsAt_linkedSettings _, by decide, hbefore, hafter, ?_⟩
  rw [hbefore, hafter]
  simp

theorem isTree_linkedSettings : (linkedSettings []).root.IsTree := by
  have hname : ∀ name ∈ [fileName, "a", "x"], Path.IsName name := by
    simp only [List.mem_cons, List.not_mem_nil, or_false]
    rintro name (rfl | rfl | rfl)
    all_goals refine ⟨⟨?_, ?_⟩, ?_, ?_, ?_⟩ <;> decide +kernel
  have hlinked : (Entry.directory "a" [.link fileName "../x/.jstags.toml"]).IsTree := by
    refine Entry.isTree_directory (by decide +kernel) ?_ "a"
    simp only [List.mem_singleton, forall_eq]
    exact ⟨hname fileName (by simp), Entry.isTree_link _ (by decide +kernel)⟩
  have hempty : (Entry.directory "x" []).IsTree :=
    Entry.isTree_directory (by decide +kernel) (by simp) "x"
  refine Entry.isTree_directory (by decide +kernel) ?_ ""
  simp only [List.mem_cons, List.not_mem_nil, or_false, forall_eq_or_imp, forall_eq]
  exact ⟨⟨hname fileName (by simp), Entry.isTree_file _ _⟩, ⟨hname "a" (by simp), hlinked⟩,
    hname "x" (by simp), hempty⟩

theorem isElsewhere_linkedSettings :
    IsElsewhere (linkedSettings []) "a" ["a"] [] ["b", fileName] where
  named := ⟨["b"], rfl, by decide⟩
  plain own entries h := by
    have hnone : (linkedSettings []).root.at? ["b", fileName] = none := rfl
    exact absurd (hnone.symm.trans h) (by simp)
  notPassed hlooks := by
    have hnormal : Path.normalize "a" = "a" ∧ Path.route "a" = ["a"] ∧
        Path.isAbsolute "a" = false := by decide +kernel
    rw [hnormal.1, start, hnormal.2.1, hnormal.2.2] at hlooks
    have hdirectory : (linkedSettings []).root.at? ["a"] =
        some (.directory "a" [.link fileName "../x/.jstags.toml"]) := rfl
    rcases LooksAt.of_last (isTree_linkedSettings.names_of_at? hdirectory "a" (by simp)) hlooks with
      hplace | hplace | ⟨_, itself, target, -, hlink, -⟩
    · exact absurd hplace (by decide)
    · exact absurd hplace (by decide)
    · exact absurd (hdirectory.symm.trans hlink) (by simp)
  notLinked nearer itself target _ hnearer hlink hlooks := by
    have hcases : nearer = [] ++ ["a"] ∨ nearer <+: [] := List.prefix_concat_iff.mp hnearer
    rcases hcases with rfl | hroot
    · have hself : (linkedSettings []).root.at? ["a", fileName] =
          some (.link fileName "../x/.jstags.toml") := rfl
      obtain ⟨rfl, rfl⟩ := Entry.link.inj (Option.some.inj (hself.symm.trans hlink))
      have hroute : Path.route "../x/.jstags.toml" = ["..", "x", fileName] ∧
          Path.isAbsolute "../x/.jstags.toml" = false := by decide +kernel
      rw [hroute.1, hroute.2] at hlooks
      generalize maxLinks - 1 = links at hlooks
      have hdirectory : (linkedSettings []).root.at? ["x"] = some (.directory "x" []) := rfl
      have hnames := isTree_linkedSettings.names_of_at? hdirectory
      cases hlooks with
      | start hplace => exact absurd hplace (by decide)
      | entry _ _ habove | down _ habove | link _ habove => exact absurd rfl habove
      | here _ hname => exact absurd hname (by decide)
      | above _ _ h =>
        rcases LooksAt.of_down hnames hdirectory h with hbelow | hlast
        · exact absurd hbelow (by decide)
        · have hnone : (linkedSettings []).root.at? ["x", fileName] = none := rfl
          rcases hlast.of_last isName_fileName with hplace | hplace | ⟨_, _, _, -, hlink, -⟩
          · exact absurd hplace (by decide)
          · exact absurd hplace (by decide)
          · exact absurd (hnone.symm.trans hlink) (by simp)
    · rw [List.prefix_nil.mp hroot] at hlink
      have hfile : (linkedSettings []).root.at? [fileName] =
          some (.file fileName (described "above")) := rfl
      exact absurd (hfile.symm.trans hlink) (by simp)

/-- The settings above count for a directory below, and an option for the number in a batch. -/
theorem settings_precedence_sample :
    let fs := linkedSettings []
    fs.root.IsTree ∧ fs.locate (Path.normalize "a") = .ok ["a"] ∧
    IsNearest fs ["a"] [] (described "above") ∧
    loadNearest fs "a" = .ok { program := { description := "above" } } ∧
    (∀ fs', fs.DiffersAt ["b", fileName] fs' → loadNearest fs' "a" = loadNearest fs "a") ∧
    longHeaderSettings.concurrency = 4 ∧
    ∃ job, (runTag longHeaderFiles { longHeaderOptions with concurrency := some 7 }).batch =
      some job ∧ job.paths = ["a.js"] ∧ job.concurrency = 7 := by
  intro fs
  have hnormal : Path.normalize "a" = "a" := by decide +kernel
  have hstart : fs.locate (Path.normalize "a") = .ok ["a"] := by
    rw [hnormal]
    exact locate_linkedSettings []
  obtain ⟨hforce, -⟩ := settings_precedence isTree_linkedSettings (by decide +kernel) hstart rfl
  refine ⟨isTree_linkedSettings, hstart, isNearest_above, ?_, ?_, rfl, ?_⟩
  · rw [hforce.nearest _ _ isNearest_above, described,
      ofBytes_description _ (isPlain_sample _ (by simp))]
  · intro fs' hdiffers
    exact hforce.elsewhere _ _ _ fs' isNearest_above isElsewhere_linkedSettings hdiffers
  · have hhere : longHeaderFiles.locate (Path.normalize ".") = .ok [] := by
      rw [show Path.normalize "." = "." by decide +kernel]
      exact (isDirectory_point longHeaderFiles rfl).1
    obtain ⟨-, -, -, -, -, -, hoptions⟩ :=
      settings_precedence isTree_longHeaderFiles (by decide +kernel) hhere rfl
    obtain ⟨-, hreads⟩ := hoptions { longHeaderOptions with concurrency := some 7 } _ _
      effectiveSettings_longHeader
    obtain ⟨-, -, job, hbatch, -, hpaths, hconcurrency, -⟩ :=
      hreads _ _ (scan_longHeader _) (by simp) (by decide) target_longHeader
    exact ⟨job, hbatch, hpaths, hconcurrency⟩

end Sample

end Command

end ScriptTags
