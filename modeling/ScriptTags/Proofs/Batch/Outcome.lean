import Mathlib.Data.List.Basic
import ScriptTags.Batch.Registry
import ScriptTags.Proofs.Files.Path
import ScriptTags.Proofs.Mention

/-!
# Outcomes of paths

A path without a null character has exactly one outcome in a batch, and what the file system holds
at the path decides it: a file that cannot be read fails, a file whose tree has an error fails, and
any other file gives tags. No trouble is left that could break a batch off.
-/

namespace ScriptTags

open Files

namespace Registry

theorem get?_register (r : Registry) (language : String) (e : Extractor) :
    (r.register language e).get? language = some e := by
  have hfilter : (r.extractors.filter (·.1 != language)).find? (·.1 == language) = none := by
    rw [List.find?_eq_none]
    intro entry hentry
    simpa using (List.mem_filter.mp hentry).2
  simp [register, get?, List.find?_append, hfilter]

/-- Every known extension belongs to the language of unknown ones. -/
theorem languageOf_eq (path : String) : languageOf path = Language.default := by
  unfold languageOf Language.ofPath?
  cases h : Language.extensions.find? (·.1 == Path.lowerExtension path) with
  | none => rfl
  | some entry =>
    have hmem := List.mem_of_find?_eq_some h
    have hall : ∀ entry ∈ Language.extensions, entry.2 = Language.default := by decide
    exact hall entry hmem

/-- After setting up, every path is read by the built-in extractor, whatever was registered. -/
theorem extractPath_setUp (r : Registry) (fs : FileSystem) (path : String) :
    r.setUp.extractPath fs path = extractFile fs path path := by
  have hget : r.setUp.get? Language.default = some .builtIn := get?_register r _ _
  simp only [extractPath, languageOf_eq, ensure, hget]
  rfl

end Registry

namespace Batch

/-- The outcome of a path by what the file system holds there. -/
def outcomeAt (fs : FileSystem) (path : String) : Outcome :=
  match fs.read (Path.normalize path) with
  | .error e => .failed ⟨path, .read, e.message⟩
  | .ok content =>
    let tree := Script.read content
    if tree.hasError then
      .failed ⟨path, .parse,
        (Error.unparsable path ((Extract.firstErrorLine? tree).map Int.ofNat)).message⟩
    else .tagged path ⟨path, (Extract.mentions tree).map (·.tag path)⟩

theorem outcome_setUp (r : Registry) (fs : FileSystem) {path : String}
    (h : Path.hasNull path = false) :
    outcome (r.setUp.extractPath fs) path = .ok (outcomeAt fs path) := by
  have hnull : Path.hasNull (Path.normalize path) = false := by rw [Path.hasNull_normalize, h]
  rw [outcome, Registry.extractPath_setUp, extractFile]
  unfold outcomeAt
  simp only [hnull, Bool.false_eq_true, if_false]
  cases fs.read (Path.normalize path) with
  | error e => rfl
  | ok content =>
    cases herror : (Script.read content).hasError with
    | true =>
      simp only [extractSource, extractTree_of_hasError herror, herror, if_true]
    | false =>
      simp [extractSource, extractTree_of_sound herror, herror]

/-- Whether a path is extracted. -/
def succeeds (source : Source) (path : String) : Bool := (source path).isOk

/-- The tags of a path that is extracted; a path that fails has none. -/
def found (source : Source) (path : String) : List Tag :=
  match source path with
  | .ok file => file.tags
  | .error _ => []

theorem outcome_cases {source : Source} {path : String} {o : Outcome}
    (h : outcome source path = .ok o) :
    (∃ file, source path = .ok file ∧ o = .tagged path file) ∨
      ∃ trouble stage reason,
        source path = .error trouble ∧ o = .failed ⟨path, stage, reason⟩ := by
  unfold outcome at h
  split at h
  · rename_i file hsource
    exact .inl ⟨file, hsource, (Except.ok.inj h).symm⟩
  · rename_i hsource
    exact .inr ⟨_, _, _, hsource, (Except.ok.inj h).symm⟩
  · rename_i hsource
    exact .inr ⟨_, _, _, hsource, (Except.ok.inj h).symm⟩
  · simp at h

theorem Outcome.tags_eq_found {source : Source} {path : String} {o : Outcome}
    (h : outcome source path = .ok o) : o.tags = found source path := by
  obtain ⟨file, hsource, rfl⟩ | ⟨trouble, stage, reason, hsource, rfl⟩ := outcome_cases h
  · simp [found, hsource, tags]
  · simp [found, hsource, tags]

/-- Paths that fail have no tags, so leaving them out loses none. -/
theorem flatMap_found_filter (source : Source) (paths : List String) :
    (paths.filter (succeeds source)).flatMap (found source) = paths.flatMap (found source) := by
  induction paths with
  | nil => rfl
  | cons path rest ih =>
    cases hsource : source path with
    | ok file => simp [succeeds, hsource, Except.isOk, Except.toBool, ih]
    | error trouble => simp [succeeds, found, hsource, Except.isOk, Except.toBool, ih]

theorem flatMap_tags_eq {source : Source} {o : String → Outcome} {paths : List String}
    (h : ∀ path ∈ paths, outcome source path = .ok (o path)) :
    (paths.map o).flatMap Outcome.tags =
      (paths.filter (succeeds source)).flatMap (found source) := by
  rw [flatMap_found_filter, List.flatMap_map]
  apply List.flatMap_congr
  intro path hpath
  exact Outcome.tags_eq_found (h path hpath)

theorem outcomes_eq {source : Source} {o : String → Outcome} {paths : List String}
    (h : ∀ path ∈ paths, outcome source path = .ok (o path)) :
    outcomes source paths = (paths.map o, none) := by
  induction paths with
  | nil => rfl
  | cons path rest ih =>
    rw [outcomes, h path List.mem_cons_self, ih fun p hp => h p (List.mem_cons_of_mem _ hp)]
    rfl

theorem Outcome.collect_accumulating (o : Outcome) (tags : List Tag) :
    o.collect (.accumulating tags) = .ok (.accumulating (tags ++ o.tags)) := by
  cases o with
  | tagged path file => rfl
  | failed failure => simp [Outcome.collect, Outcome.tags]

theorem foldlM_collect (os : List Outcome) (tags : List Tag) :
    os.foldlM Outcome.collect (.accumulating tags) =
      .ok (.accumulating (tags ++ os.flatMap Outcome.tags)) := by
  induction os generalizing tags with
  | nil => simp [pure, Except.pure]
  | cons o rest ih =>
    rw [List.foldlM_cons, Outcome.collect_accumulating]
    simp [bind, Except.bind, ih]

/-- A batch whose paths all have outcomes ends with a report on them, and the collector holds
their tags after those it held before. -/
theorem run_eq {source : Source} {o : String → Outcome} {paths : List String}
    (h : ∀ path ∈ paths, outcome source path = .ok (o path)) (tags : List Tag) :
    run source paths (.accumulating tags) = .ok (report (paths.map o),
      .accumulating (tags ++ (paths.map o).flatMap Outcome.tags)) := by
  simp only [run, outcomes_eq h, foldlM_collect]

end Batch

theorem tagFiles_eq (fs : FileSystem) {paths : List String}
    (h : ∀ path ∈ paths, Path.hasNull path = false) (tags : List Tag) :
    tagFiles fs paths (.accumulating tags) = .ok (Batch.report (paths.map (Batch.outcomeAt fs)),
      .accumulating (tags ++ (paths.map (Batch.outcomeAt fs)).flatMap Batch.Outcome.tags)) :=
  Batch.run_eq (fun path hpath => Batch.outcome_setUp {} fs (h path hpath)) tags

end ScriptTags
