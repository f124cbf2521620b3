import Mathlib.Algebra.GroupWithZero.Nat
import Mathlib.Logic.Relation
import ScriptTags.Proofs.Batch.Outcome
import ScriptTags.Proofs.Order

/-!
# Schedules of a batch

The files of a batch may be worked on side by side. Each path has a task, which waits for one of a
few permits, reads its file while it holds the permit, and then gives the tags to the collector at
once. Nothing fixes whose turn it is. Every schedule ends with the same report, because the
outcomes stand in the order of the paths and not in the order in which tasks finish, and with the
same tags up to their arrangement, which sorting the lines undoes.
-/

namespace ScriptTags
namespace Batch

open Files

/-- How far the work on a path has come. -/
inductive Phase where
  | waiting
  | reading
  | read (outcome : Outcome)
  | done (outcome : Outcome)

structure Task where
  path : String
  phase : Phase

/-- The tasks in the order of their paths, and the collector that they share. -/
structure Execution where
  tasks : List Task
  collector : Collector

namespace Phase

def outcome? : Phase → Option Outcome
  | .read o | .done o => some o
  | .waiting | .reading => none

/-- The tags that have reached the collector. -/
def merged : Phase → List Tag
  | .done o => o.tags
  | .waiting | .reading | .read _ => []

def turns : Phase → ℕ
  | .waiting => 3
  | .reading => 2
  | .read _ => 1
  | .done _ => 0

end Phase

namespace Execution

def initial (paths : List String) (c : Collector) : Execution :=
  ⟨paths.map fun path => ⟨path, .waiting⟩, c⟩

/-- One turn of one task. The tasks before and after it do not move. -/
inductive Turn (source : Source) (permits : ℕ) : Execution → Execution → Prop
  | start {before after path c}
      (free : (before ++ after).countP (·.phase matches .reading) < permits) :
      Turn source permits ⟨before ++ ⟨path, .waiting⟩ :: after, c⟩
        ⟨before ++ ⟨path, .reading⟩ :: after, c⟩
  | finish {before after path c o} (ends : outcome source path = .ok o) :
      Turn source permits ⟨before ++ ⟨path, .reading⟩ :: after, c⟩
        ⟨before ++ ⟨path, .read o⟩ :: after, c⟩
  | merge {before after path o c d} (collects : o.collect c = .ok d) :
      Turn source permits ⟨before ++ ⟨path, .read o⟩ :: after, c⟩
        ⟨before ++ ⟨path, .done o⟩ :: after, d⟩

def Finished (s : Execution) : Prop := ∀ task ∈ s.tasks, ∃ o, task.phase = .done o

def report (s : Execution) : Report :=
  Batch.report (s.tasks.filterMap fun task => task.phase.outcome?)

def turns (s : Execution) : ℕ := (s.tasks.map fun task => task.phase.turns).sum

variable {source : Source} {limit : ℕ} {s t : Execution}

theorem Turn.turns_eq (h : Turn source limit s t) : s.turns = t.turns + 1 := by
  cases h <;> simp [turns, Phase.turns] <;> omega

/-- No schedule goes on for ever. -/
theorem exists_not_turn (chain : ℕ → Execution) :
    ∃ i, ¬ Turn source limit (chain i) (chain (i + 1)) := by
  by_contra hall
  simp only [not_exists, not_not] at hall
  have hturns : ∀ i, (chain i).turns + i = (chain 0).turns := by
    intro i
    induction i with
    | zero => rfl
    | succ i ih =>
      have := (hall i).turns_eq
      omega
  have := hturns ((chain 0).turns + 1)
  omega

def reading (s : Execution) : ℕ := s.tasks.countP (·.phase matches .reading)

theorem Turn.reading_le (h : Turn source limit s t) (hs : s.reading ≤ limit) :
    t.reading ≤ limit := by
  cases h with
  | start free =>
    rw [List.countP_append] at free
    simp only [reading, List.countP_append, List.countP_cons, if_true]
    omega
  | finish | merge =>
    simp only [reading, List.countP_append, List.countP_cons] at hs ⊢
    simp at hs ⊢
    omega

theorem reading_append (started others : List String) (c : Collector) :
    reading ⟨started.map (⟨·, .reading⟩) ++ others.map (⟨·, .waiting⟩), c⟩ = started.length := by
  have hstarted : (started.map (Task.mk · .reading)).countP (·.phase matches .reading) =
      (started.map (Task.mk · .reading)).length := List.countP_eq_length.mpr (by simp)
  have hothers : (others.map (Task.mk · .waiting)).countP (·.phase matches .reading) = 0 :=
    List.countP_eq_zero.mpr (by simp)
  rw [reading, List.countP_append, hstarted, hothers, List.length_map, Nat.add_zero]

theorem reading_le {paths : List String} {c : Collector}
    (h : Relation.ReflTransGen (Turn source limit) (initial paths c) s) : s.reading ≤ limit := by
  induction h with
  | refl =>
    have hnone : (initial paths c).reading = 0 := reading_append [] paths c
    omega
  | tail _ hturn ih => exact hturn.reading_le ih

/-- The first tasks can take a permit each, one after the other, as long as there are permits. -/
theorem reaches_reading (source : Source) (c : Collector) {paths : List String} {k : ℕ}
    (hpermits : k ≤ limit) (hpaths : k ≤ paths.length) :
    Relation.ReflTransGen (Turn source limit) (initial paths c)
      ⟨(paths.take k).map (⟨·, .reading⟩) ++ (paths.drop k).map (⟨·, .waiting⟩), c⟩ := by
  induction k with
  | zero => exact .refl
  | succ k ih =>
    have hnext : paths.drop k = paths[k] :: paths.drop (k + 1) := List.drop_eq_getElem_cons hpaths
    have hreading := reading_append (paths.take k) (paths.drop (k + 1)) c
    rw [reading, List.length_take_of_le (Nat.le_of_succ_le hpaths)] at hreading
    have hturn := ih (by omega) (by omega)
    rw [hnext, List.map_cons] at hturn
    refine hturn.tail ?_
    rw [List.take_succ_eq_append_getElem hpaths, List.map_append, List.map_cons, List.map_nil,
      List.append_assoc, List.singleton_append]
    exact .start (lt_of_eq_of_lt hreading hpermits)

/-- There can be as many files being read as there are permits, if there are so many files. -/
theorem exists_reading (source : Source) (limit : ℕ) (paths : List String) (c : Collector) :
    ∃ s, Relation.ReflTransGen (Turn source limit) (initial paths c) s ∧
      s.reading = min limit paths.length := by
  refine ⟨_, reaches_reading source c (Nat.min_le_left _ _) (Nat.min_le_right _ _), ?_⟩
  rw [reading_append, List.length_take_of_le (Nat.min_le_right _ _)]

/-- What every turn preserves, when the paths have the outcomes `o` and the collector held `tags`
at the start: outcomes are those of their paths, and the tags of finished tasks, and of no others,
have been collected. -/
structure Consistent (o : String → Outcome) (paths : List String) (tags : List Tag)
    (s : Execution) : Prop where
  paths_eq : s.tasks.map Task.path = paths
  outcome_eq : ∀ task ∈ s.tasks, ∀ out, task.phase.outcome? = some out → out = o task.path
  collected : ∃ held, s.collector = .accumulating held ∧
    held.Perm (tags ++ s.tasks.flatMap fun task => task.phase.merged)

variable {o : String → Outcome} {paths : List String} {tags : List Tag}

theorem consistent_initial (o : String → Outcome) (paths : List String) (tags : List Tag) :
    Consistent o paths tags (initial paths (.accumulating tags)) where
  paths_eq := by simp [initial, Function.comp_def]
  outcome_eq := by simp [initial, Phase.outcome?]
  collected := by
    have hnone : (initial paths (.accumulating tags)).tasks.flatMap (·.phase.merged) = [] := by
      simp [initial, Phase.merged, List.flatMap_eq_nil_iff]
    exact ⟨tags, rfl, by rw [hnone, List.append_nil]⟩

theorem Consistent.turn (hs : Consistent o paths tags s)
    (ho : ∀ path ∈ paths, outcome source path = .ok (o path)) (h : Turn source limit s t) :
    Consistent o paths tags t := by
  obtain ⟨held, hc, hheld⟩ := hs.collected
  have hpaths := hs.paths_eq
  have hout := hs.outcome_eq
  cases h with
  | start free =>
    simp only [List.forall_mem_append, List.forall_mem_cons] at hout
    refine ⟨by simpa using hpaths, ?_, held, hc, by simpa [Phase.merged] using hheld⟩
    simp only [List.forall_mem_append, List.forall_mem_cons]
    exact ⟨hout.1, by simp [Phase.outcome?], hout.2.2⟩
  | @finish before after path c out ends =>
    simp only [List.forall_mem_append, List.forall_mem_cons] at hout
    refine ⟨by simpa using hpaths, ?_, held, hc, by simpa [Phase.merged] using hheld⟩
    have hmem : path ∈ paths := by rw [← hpaths]; simp
    have heq : out = o path := Except.ok.inj (ends.symm.trans (ho path hmem))
    simp only [List.forall_mem_append, List.forall_mem_cons]
    exact ⟨hout.1, by simpa [Phase.outcome?] using heq, hout.2.2⟩
  | @merge before after path out c d collects =>
    simp only [List.forall_mem_append, List.forall_mem_cons] at hout
    change c = .accumulating held at hc
    rw [hc, Outcome.collect_accumulating, Except.ok.injEq] at collects
    refine ⟨by simpa using hpaths, ?_, held ++ out.tags, collects.symm, ?_⟩
    · simp only [List.forall_mem_append, List.forall_mem_cons]
      exact ⟨hout.1, by simpa [Phase.outcome?] using hout.2.1, hout.2.2⟩
    · -- The tags of this task come last in the collector and in the middle of the tasks.
      refine (hheld.append_right out.tags).trans ?_
      simp only [List.flatMap_append, List.flatMap_cons, Phase.merged, List.nil_append,
        List.append_assoc]
      exact (List.perm_append_comm.append_left _).append_left _

theorem Consistent.reaches (hs : Consistent o paths tags s)
    (ho : ∀ path ∈ paths, outcome source path = .ok (o path))
    (h : Relation.ReflTransGen (Turn source limit) s t) : Consistent o paths tags t := by
  induction h with
  | refl => exact hs
  | tail _ hturn ih => exact ih.turn ho hturn

/-- As long as a task is not done, some task can take its turn: one that has been read can merge,
one that holds a permit can finish, and when there is neither, every permit is free. -/
theorem Consistent.exists_turn (hs : Consistent o paths tags s)
    (ho : ∀ path ∈ paths, outcome source path = .ok (o path)) (hlimit : 0 < limit)
    (hunfinished : ¬ s.Finished) : ∃ t, Turn source limit s t := by
  obtain ⟨tasks, c⟩ := s
  obtain ⟨held, hc, -⟩ := hs.collected
  change c = .accumulating held at hc
  by_cases hread : ∃ task ∈ tasks, ∃ out, task.phase = .read out
  · obtain ⟨⟨path, _⟩, hmem, out, rfl⟩ := hread
    obtain ⟨before, after, rfl⟩ := List.append_of_mem hmem
    exact ⟨_, .merge (by rw [hc]; exact out.collect_accumulating held)⟩
  · by_cases hreading : ∃ task ∈ tasks, task.phase = .reading
    · obtain ⟨⟨path, _⟩, hmem, rfl⟩ := hreading
      obtain ⟨before, after, rfl⟩ := List.append_of_mem hmem
      have hpath : path ∈ paths := by rw [← hs.paths_eq]; simp
      exact ⟨_, .finish (ho path hpath)⟩
    · simp only [Finished, not_forall, not_exists] at hunfinished
      obtain ⟨⟨path, phase⟩, hmem, hphase⟩ := hunfinished
      obtain ⟨before, after, rfl⟩ := List.append_of_mem hmem
      have hwaiting : phase = .waiting := by
        cases phase with
        | waiting => rfl
        | reading => exact absurd ⟨_, hmem, rfl⟩ hreading
        | read out => exact absurd ⟨_, hmem, out, rfl⟩ hread
        | done out => exact absurd rfl (hphase out)
      subst hwaiting
      have hfree : (before ++ after).countP (·.phase matches .reading) = 0 := by
        rw [List.countP_eq_zero]
        intro task htask hmatches
        have hother : task ∈ before ++ ⟨path, .waiting⟩ :: after := by
          simp only [List.mem_append, List.mem_cons] at htask ⊢
          exact htask.imp_right Or.inr
        refine hreading ⟨task, hother, ?_⟩
        cases hphase' : task.phase <;> simp_all
      exact ⟨_, .start (hfree ▸ hlimit)⟩

theorem Consistent.phase_of_finished (hs : Consistent o paths tags s) (hfinished : s.Finished)
    {task : Task} (htask : task ∈ s.tasks) : task.phase = .done (o task.path) := by
  obtain ⟨out, hphase⟩ := hfinished task htask
  rw [hphase, hs.outcome_eq task htask out (by rw [hphase]; rfl)]

theorem Consistent.report_of_finished (hs : Consistent o paths tags s)
    (hfinished : s.Finished) : s.report = Batch.report (paths.map o) := by
  have houtcomes : s.tasks.filterMap (·.phase.outcome?) = s.tasks.map fun task => o task.path := by
    rw [← List.filterMap_eq_map]
    apply List.filterMap_congr
    intro task htask
    rw [hs.phase_of_finished hfinished htask]
    rfl
  rw [report, houtcomes, ← hs.paths_eq, List.map_map]
  rfl

theorem Consistent.tags_of_finished (hs : Consistent o paths tags s) (hfinished : s.Finished) :
    ∃ held, s.collector = .accumulating held ∧
      held.Perm (tags ++ (paths.map o).flatMap Outcome.tags) := by
  have hmerged : s.tasks.flatMap (·.phase.merged) = (paths.map o).flatMap Outcome.tags := by
    rw [← hs.paths_eq, List.map_map, List.flatMap_map]
    apply List.flatMap_congr
    intro task htask
    rw [hs.phase_of_finished hfinished htask]
    rfl
  exact hmerged ▸ hs.collected

end Execution

/-- The states that a batch can come to, whoever takes his turn. -/
def Job.Reaches (job : Job) (s : Execution) : Prop :=
  Relation.ReflTransGen (Execution.Turn job.source (permits job.concurrency))
    (.initial job.paths .empty) s

theorem permits_pos (concurrency : Int) : 0 < permits concurrency := by
  unfold permits
  omega

/-- The outcomes of rearranged paths are rearranged, and nothing else in the report changes. -/
theorem report_perm (o : String → Outcome) {paths others : List String}
    (h : others.Perm paths) :
    (report (others.map o)).files.Perm (report (paths.map o)).files ∧
      (report (others.map o)).failures.Perm (report (paths.map o)).failures ∧
      (report (others.map o)).tagCount = (report (paths.map o)).tagCount := by
  have hos := h.map o
  refine ⟨hos.filterMap _, hos.filterMap _, ?_⟩
  simp only [report]
  rw [(hos.flatMap_right Outcome.tags).length_eq]

end Batch

/-- The lines that a flush of the collector gives. -/
def Collector.flushedLines (c : Collector) : Option (List String) :=
  c.flush.toOption.map fun result => result.1.map Tag.render

theorem Collector.flushedLines_accumulating {held tags : List Tag} (h : held.Perm tags) :
    (Collector.accumulating held).flushedLines = some (Text.sort (tags.map Tag.render)) := by
  have hlines := Tag.map_render_sort held
  rw [Text.sort_eq_of_perm (h.map Tag.render)] at hlines
  simp [flushedLines, flush, Except.toOption, hlines]

open Files Batch

/-- Whatever the schedule, the number of permits and the extractors registered before, a batch runs
to its end and gives one report and one list of flushed lines. The lines are those of the tags held
before and of the tags extracted; they do not depend on the order of the paths, which only the
report follows. -/
theorem tagFiles_scheduleIndependent (fs : FileSystem) (paths : List String)
    (hpaths : ∀ path ∈ paths, Path.hasNull path = false) (tags : List Tag) :
    ∃ report lines,
      (∃ c, tagFiles fs paths (.accumulating tags) = .ok (report, c) ∧
        c.flushedLines = some lines) ∧
      (∀ (r : Registry) (concurrency : Int) (s : Execution),
        Relation.ReflTransGen (Execution.Turn (r.setUp.extractPath fs) (permits concurrency))
          (.initial paths (.accumulating tags)) s →
        (¬ s.Finished →
          ∃ t, Execution.Turn (r.setUp.extractPath fs) (permits concurrency) s t) ∧
        (s.Finished → s.report = report ∧ s.collector.flushedLines = some lines)) ∧
      (∀ (r : Registry) (concurrency : Int) (chain : ℕ → Execution),
        ∃ i, ¬ Execution.Turn (r.setUp.extractPath fs) (permits concurrency)
          (chain i) (chain (i + 1))) ∧
      (∀ r : Registry, lines = Text.sort ((tags ++
        (paths.filter (succeeds (r.setUp.extractPath fs))).flatMap
          (found (r.setUp.extractPath fs))).map Tag.render)) ∧
      report = Batch.report (paths.map (outcomeAt fs)) ∧
      ∀ others : List String, others.Perm paths →
        ∃ report' c', tagFiles fs others (.accumulating tags) = .ok (report', c') ∧
          report' = Batch.report (others.map (outcomeAt fs)) ∧
          report'.files.Perm report.files ∧ report'.failures.Perm report.failures ∧
          report'.tagCount = report.tagCount ∧ c'.flushedLines = some lines := by
  have ho : ∀ r : Registry, ∀ path ∈ paths,
      outcome (r.setUp.extractPath fs) path = .ok (outcomeAt fs path) :=
    fun r path hpath => outcome_setUp r fs (hpaths path hpath)
  refine ⟨_, _, ⟨_, tagFiles_eq fs hpaths tags, Collector.flushedLines_accumulating (.refl _)⟩,
    ?_, ?_, ?_, rfl, ?_⟩
  · intro r concurrency s hreaches
    have hs := (Execution.consistent_initial (outcomeAt fs) paths tags).reaches (ho r) hreaches
    refine ⟨hs.exists_turn (ho r) (permits_pos concurrency), ?_⟩
    intro hfinished
    obtain ⟨held, hc, hheld⟩ := hs.tags_of_finished hfinished
    refine ⟨hs.report_of_finished hfinished, ?_⟩
    rw [hc, Collector.flushedLines_accumulating hheld]
  · intro r concurrency chain
    exact Execution.exists_not_turn chain
  · intro r
    rw [flatMap_tags_eq (ho r)]
  · intro others hperm
    have hothers : ∀ path ∈ others, Path.hasNull path = false :=
      fun path hpath => hpaths path (hperm.mem_iff.mp hpath)
    obtain ⟨hfiles, hfailures, hcount⟩ := report_perm (outcomeAt fs) hperm
    refine ⟨_, _, tagFiles_eq fs hothers tags, rfl, hfiles, hfailures, hcount, ?_⟩
    apply Collector.flushedLines_accumulating
    exact ((hperm.map _).flatMap_right _).append_left _

def sampleFiles : FileSystem :=
  ⟨.directory "" [.file "a.js" (Text.bytesOf "function F(){}")], []⟩

theorem extractFile_sample : extractFile sampleFiles "a.js" "a.js" =
    .ok ⟨"a.js", [⟨"F", "a.js", "0/\\<F\\>/;\"", .constructor, 1⟩]⟩ := by
  have hpath : Path.normalize "a.js" = "a.js" := by decide +kernel
  have hroute : Path.route "a.js" = ["a.js"] := by decide +kernel
  have hsize : "a.js".utf8ByteSize = 4 := by decide +kernel
  have hnull : Path.hasNull "a.js" = false := by decide +kernel
  have hread : sampleFiles.read "a.js" = .ok (Text.bytesOf "function F(){}") := by
    simp [FileSystem.read, FileSystem.entry, FileSystem.locate, hroute, hsize,
      FileSystem.follow, FileSystem.start, sampleFiles, Entry.at?, named?, Entry.name,
      maxNameBytes, maxPathBytes]
  have hsound : (Script.read (Text.bytesOf "function F(){}")).hasError = false := by
    decide +kernel
  have hmentions : (Extract.mentions (Script.read (Text.bytesOf "function F(){}"))).map
      (·.tag "a.js") = [⟨"F", "a.js", "0/\\<F\\>/;\"", .constructor, 1⟩] := by
    decide +kernel
  simp [extractFile, hpath, hread, hnull, extractSource, extractTree_of_sound hsound, hmentions]

theorem extractFile_sample_missing : extractFile sampleFiles "b.js" "b.js" =
    .error (.reported (.unreadable "b.js" "No such file or directory")) := by
  have hpath : Path.normalize "b.js" = "b.js" := by decide +kernel
  have hroute : Path.route "b.js" = ["b.js"] := by decide +kernel
  have hsize : "b.js".utf8ByteSize = 4 := by decide +kernel
  have hnull : Path.hasNull "b.js" = false := by decide +kernel
  have hread : sampleFiles.read "b.js" = .error .missing := by
    simp [FileSystem.read, FileSystem.entry, FileSystem.locate, hroute, hsize,
      FileSystem.follow, FileSystem.start, sampleFiles, Entry.at?, named?, Entry.name,
      maxNameBytes, maxPathBytes]
  simp [extractFile, hpath, hnull, hread, FileError.message]

theorem tagFiles_scheduleIndependent_sample :
    (∀ path ∈ ["a.js", "b.js"], Path.hasNull path = false) ∧
      ∃ report c, tagFiles sampleFiles ["b.js", "a.js"] .empty = .ok (report, c) ∧
        c.flushedLines = some ["F\ta.js\t0/\\<F\\>/;\"\tc\tlineno:1"] := by
  have hpaths : ∀ path ∈ ["a.js", "b.js"], Path.hasNull path = false := by decide
  obtain ⟨report, lines, -, -, -, hlines, -, hperm⟩ :=
    tagFiles_scheduleIndependent sampleFiles ["a.js", "b.js"] hpaths []
  obtain ⟨report', c', hrun, -, -, -, -, hflush⟩ :=
    hperm ["b.js", "a.js"] (List.Perm.swap _ _ _)
  refine ⟨hpaths, report', c', hrun, ?_⟩
  rw [hflush, hlines {}]
  have hrender : Tag.render ⟨"F", "a.js", "0/\\<F\\>/;\"", .constructor, 1⟩ =
    "F\ta.js\t0/\\<F\\>/;\"\tc\tlineno:1" := by decide +kernel
  simp [Batch.succeeds, found, Registry.extractPath_setUp, extractFile_sample,
    extractFile_sample_missing, Except.isOk, Except.toBool, Text.sort, hrender]

end ScriptTags
