import ScriptTags.Proofs.Batch.Schedule

/-!
# The account of a batch

Every occurrence of a path in a batch is accounted for once, among the files or among the failures,
and the tags that are counted are the tags that reach the collector. Failures are isolated: leaving
the failing paths out of a batch changes nothing but the list of failures.
-/

namespace ScriptTags
namespace Batch

open Files

abbrev builtIn (fs : FileSystem) : Source := Registry.extractPath (Registry.setUp {}) fs

variable (fs : FileSystem)

theorem outcomeAt_cases (path : String) :
    (∃ e, fs.read (Path.normalize path) = .error e ∧
      outcomeAt fs path = .failed ⟨path, .read, e.message⟩) ∨
    (∃ content reason, fs.read (Path.normalize path) = .ok content ∧
      (Script.read content).hasError = true ∧
      outcomeAt fs path = .failed ⟨path, .parse, reason⟩) ∨
    ∃ content found, fs.read (Path.normalize path) = .ok content ∧
      (Script.read content).hasError = false ∧ outcomeAt fs path = .tagged path ⟨path, found⟩ := by
  unfold outcomeAt
  cases hread : fs.read (Path.normalize path) with
  | error e => exact .inl ⟨e, rfl, rfl⟩
  | ok content =>
    cases herror : (Script.read content).hasError with
    | true => exact .inr (.inl ⟨content, _, rfl, herror, if_pos herror⟩)
    | false =>
      exact .inr (.inr ⟨content, _, rfl, herror, if_neg (Bool.eq_false_iff.mp herror)⟩)

variable {fs}

theorem outcome_builtIn {path : String} (h : Path.hasNull path = false) :
    outcome (builtIn fs) path = .ok (outcomeAt fs path) :=
  outcome_setUp {} fs h

theorem succeeds_builtIn {path : String} (h : Path.hasNull path = false) :
    succeeds (builtIn fs) path = (outcomeAt fs path).file?.isSome := by
  obtain ⟨file, hsource, ho⟩ | ⟨trouble, stage, reason, hsource, ho⟩ :=
    outcome_cases (outcome_builtIn h)
  · rw [ho, succeeds, hsource]
    rfl
  · rw [ho, succeeds, hsource]
    rfl

theorem file?_outcomeAt {path : String} (h : Path.hasNull path = false) :
    (outcomeAt fs path).file? = Option.guard (succeeds (builtIn fs)) path := by
  rw [Option.guard, succeeds_builtIn h]
  obtain ⟨e, -, ho⟩ | ⟨content, reason, -, -, ho⟩ | ⟨content, tags, -, -, ho⟩ :=
    outcomeAt_cases fs path
  all_goals rw [ho]; rfl

theorem failure?_outcomeAt {path : String} (h : Path.hasNull path = false) :
    (outcomeAt fs path).failure?.map Failure.file =
      Option.guard (fun path => !succeeds (builtIn fs) path) path := by
  rw [Option.guard, succeeds_builtIn h]
  obtain ⟨e, -, ho⟩ | ⟨content, reason, -, -, ho⟩ | ⟨content, tags, -, -, ho⟩ :=
    outcomeAt_cases fs path
  all_goals rw [ho]; rfl

section

variable {paths : List String} (hpaths : ∀ path ∈ paths, Path.hasNull path = false)
include hpaths

theorem files_report :
    (report (paths.map (outcomeAt fs))).files = paths.filter (succeeds (builtIn fs)) := by
  rw [report, List.filterMap_map, ← List.filterMap_eq_filter]
  apply List.filterMap_congr
  intro path hpath
  exact file?_outcomeAt (hpaths path hpath)

theorem failures_report :
    (report (paths.map (outcomeAt fs))).failures.map Failure.file =
      paths.filter fun path => !succeeds (builtIn fs) path := by
  rw [report, List.map_filterMap, List.filterMap_map, ← List.filterMap_eq_filter]
  apply List.filterMap_congr
  intro path hpath
  exact failure?_outcomeAt (hpaths path hpath)

theorem flatMap_tags_outcomeAt :
    (paths.map (outcomeAt fs)).flatMap Outcome.tags =
      (paths.filter (succeeds (builtIn fs))).flatMap (found (builtIn fs)) :=
  flatMap_tags_eq fun path hpath => outcome_builtIn (hpaths path hpath)

theorem tagCount_report :
    (report (paths.map (outcomeAt fs))).tagCount =
      ((paths.filter (succeeds (builtIn fs))).flatMap (found (builtIn fs))).length := by
  rw [← flatMap_tags_outcomeAt hpaths, report]

end

end Batch

open Files Batch

end ScriptTags
