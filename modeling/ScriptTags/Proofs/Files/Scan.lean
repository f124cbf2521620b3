import Mathlib.Data.List.Nodup
import ScriptTags.Files.Scan
import ScriptTags.Proofs.Files.Follow

/-!
# What a scan finds

The arguments of a scan are taken into account one after the other, and each adds only paths that
are not there yet. A scan fails only for an argument that is too long to be looked up.
-/

namespace ScriptTags.Files.Scan

theorem nodup_insertNew {files : List String} (h : files.Nodup) (path : String) :
    (insertNew files path).Nodup := by
  unfold insertNew
  split_ifs with hmem
  · exact h
  · rw [List.contains_eq_mem, decide_eq_true_eq] at hmem
    exact List.nodup_append.mpr ⟨h, List.nodup_singleton path, by
      intro a ha b hb heq
      rw [List.mem_singleton.mp hb] at heq
      exact hmem (heq ▸ ha)⟩

theorem mem_insertNew {files : List String} {path other : String} :
    other ∈ insertNew files path ↔ other ∈ files ∨ other = path := by
  unfold insertNew
  split_ifs with hmem
  · rw [List.contains_eq_mem, decide_eq_true_eq] at hmem
    exact ⟨.inl, fun h => h.elim id fun heq => heq ▸ hmem⟩
  · rw [List.mem_append, List.mem_singleton]

theorem mem_foldl_insertNew {paths files : List String} {other : String} :
    other ∈ paths.foldl insertNew files ↔ other ∈ files ∨ other ∈ paths := by
  induction paths generalizing files with
  | nil => simp
  | cons path rest ih => rw [List.foldl_cons, ih, mem_insertNew, List.mem_cons, or_assoc]

theorem nodup_foldl_insertNew (paths : List String) {files : List String} (h : files.Nodup) :
    (paths.foldl insertNew files).Nodup := by
  induction paths generalizing files with
  | nil => exact h
  | cons path rest ih => exact ih (nodup_insertNew h path)

variable {fs : FileSystem} {s : Selection}

theorem add_cases {scan next : Scan} {path : String} (h : add fs s scan path = .ok next) :
    (isDirectory fs path = .ok true ∧
      next = ⟨(filesOf fs s path).foldl insertNew scan.files, scan.directories ++ [path]⟩) ∨
    (isDirectory fs path = .ok false ∧ next = ⟨insertNew scan.files path, scan.directories⟩) := by
  unfold add at h
  cases hdirectory : isDirectory fs path with
  | error fault => simp [hdirectory, bind, Except.bind] at h
  | ok found =>
    rw [hdirectory] at h
    cases found with
    | true => exact .inl ⟨rfl, (Except.ok.inj h).symm⟩
    | false => exact .inr ⟨rfl, (Except.ok.inj h).symm⟩

/-- The paths that an argument stands for: those of the files below a directory, or itself. -/
def Covers (fs : FileSystem) (s : Selection) (arg path : String) : Prop :=
  (isDirectory fs arg = .ok true ∧ path ∈ filesOf fs s arg) ∨
    (isDirectory fs arg = .ok false ∧ path = arg)

theorem mem_add {scan next : Scan} {arg : String} (h : add fs s scan arg = .ok next)
    (path : String) : path ∈ next.files ↔ path ∈ scan.files ∨ Covers fs s arg path := by
  obtain ⟨hdirectory, rfl⟩ | ⟨hdirectory, rfl⟩ := add_cases h
  · simp [mem_foldl_insertNew, Covers, hdirectory]
  · simp [mem_insertNew, Covers, hdirectory]

theorem nodup_add {scan next : Scan} {path : String} (h : add fs s scan path = .ok next)
    (hscan : scan.files.Nodup) : next.files.Nodup := by
  obtain ⟨-, rfl⟩ | ⟨-, rfl⟩ := add_cases h
  · exact nodup_foldl_insertNew _ hscan
  · exact nodup_insertNew hscan path

theorem foldlM_add_cons {arg : String} {rest : List String} {scan last : Scan}
    (h : (arg :: rest).foldlM (add fs s) scan = .ok last) :
    ∃ next, add fs s scan arg = .ok next ∧ rest.foldlM (add fs s) next = .ok last := by
  rw [List.foldlM_cons] at h
  cases hadd : add fs s scan arg with
  | error fault => simp [hadd, bind, Except.bind] at h
  | ok next => exact ⟨next, rfl, by simpa only [hadd, bind, Except.bind] using h⟩

theorem nodup_foldlM_add {paths : List String} {scan last : Scan}
    (h : paths.foldlM (add fs s) scan = .ok last) (hscan : scan.files.Nodup) :
    last.files.Nodup := by
  induction paths generalizing scan with
  | nil =>
    simp only [List.foldlM_nil, pure, Except.pure, Except.ok.injEq] at h
    exact h ▸ hscan
  | cons path rest ih =>
    obtain ⟨next, hadd, hrest⟩ := foldlM_add_cons h
    exact ih hrest (nodup_add hadd hscan)

theorem mem_foldlM_add {args : List String} {scan last : Scan}
    (h : args.foldlM (add fs s) scan = .ok last) (path : String) :
    path ∈ last.files ↔ path ∈ scan.files ∨ ∃ arg ∈ args, Covers fs s arg path := by
  induction args generalizing scan with
  | nil =>
    simp only [List.foldlM_nil, pure, Except.pure, Except.ok.injEq] at h
    simp [h]
  | cons arg rest ih =>
    obtain ⟨next, hadd, hrest⟩ := foldlM_add_cons h
    rw [ih hrest, mem_add hadd, List.exists_mem_cons_iff, or_assoc]

theorem mem_ofPaths {args : List String} {scan : Scan} (h : ofPaths fs s args = .ok scan)
    (path : String) : path ∈ scan.files ↔ ∃ arg ∈ args, Covers fs s arg path := by
  rw [mem_foldlM_add h]
  simp

theorem foldlM_add_succeeds {args : List String} {scan last : Scan}
    (h : args.foldlM (add fs s) scan = .ok last) :
    ∀ arg ∈ args, ∃ found, isDirectory fs arg = .ok found := by
  induction args generalizing scan with
  | nil => simp
  | cons arg rest ih =>
    obtain ⟨next, hadd, hrest⟩ := foldlM_add_cons h
    intro other hother
    rcases List.mem_cons.mp hother with rfl | hother
    · obtain ⟨hdirectory, -⟩ | ⟨hdirectory, -⟩ := add_cases hadd <;> exact ⟨_, hdirectory⟩
    · exact ih hrest other hother

theorem foldlM_add_fails {args : List String} {scan : Scan} {fault : Fault}
    (h : args.foldlM (add fs s) scan = .error fault) :
    ∃ before arg after, args = before ++ arg :: after ∧
      (∀ other ∈ before, ∃ found, isDirectory fs other = .ok found) ∧
      isDirectory fs arg = .error fault := by
  induction args generalizing scan with
  | nil => simp [pure, Except.pure] at h
  | cons arg rest ih =>
    rw [List.foldlM_cons] at h
    cases hdirectory : isDirectory fs arg with
    | error other =>
      simp only [add, hdirectory, bind, Except.bind, Except.error.injEq] at h
      exact ⟨[], arg, rest, rfl, by simp, h ▸ hdirectory⟩
    | ok found =>
      have hadd : ∃ next, add fs s scan arg = .ok next := by
        cases found <;> exact ⟨_, by simp [add, hdirectory, bind, Except.bind]; rfl⟩
      obtain ⟨next, hadd⟩ := hadd
      simp only [hadd, bind, Except.bind] at h
      obtain ⟨before, other, after, rfl, hbefore, hfails⟩ := ih h
      refine ⟨arg :: before, other, after, rfl, ?_, hfails⟩
      intro earlier hearlier
      rcases List.mem_cons.mp hearlier with rfl | hearlier
      · exact ⟨found, hdirectory⟩
      · exact hbefore earlier hearlier

/-- A scan succeeds exactly when each of its arguments can be looked up. -/
theorem exists_ofPaths_iff {args : List String} :
    (∃ scan, ofPaths fs s args = .ok scan) ↔
      ∀ arg ∈ args, ∃ found, isDirectory fs arg = .ok found := by
  constructor
  · rintro ⟨scan, hscan⟩
    exact foldlM_add_succeeds hscan
  · intro h
    cases hscan : ofPaths fs s args with
    | ok scan => exact ⟨scan, rfl⟩
    | error fault =>
      obtain ⟨before, arg, after, rfl, -, hfails⟩ := foldlM_add_fails hscan
      obtain ⟨found, hfound⟩ := h arg (by simp)
      exact absurd (hfails.symm.trans hfound) (by simp)

theorem isDirectory_eq_true_iff {arg : String} :
    isDirectory fs arg = .ok true ↔
      Path.hasNull arg = false ∧
        ∃ own entries, fs.entry (Path.normalize arg) = .ok (.directory own entries) := by
  rw [isDirectory, Path.hasNull_normalize]
  cases Path.hasNull arg with
  | true => simp
  | false =>
    cases fs.entry (Path.normalize arg) with
    | ok e => cases e <;> simp
    | error e => cases e <;> simp

theorem isDirectory_eq_error_iff {arg : String} {fault : Fault} :
    isDirectory fs arg = .error fault ↔
      Path.hasNull arg = false ∧ fs.entry (Path.normalize arg) = .error .nameTooLong ∧
        fault = .nameTooLong (Path.normalize arg) := by
  rw [isDirectory, Path.hasNull_normalize]
  cases Path.hasNull arg with
  | true => simp
  | false =>
    cases fs.entry (Path.normalize arg) with
    | ok e => cases e <;> simp
    | error e => cases e <;> simp [eq_comm]

/-- The path is not too long to be looked up. One with a null character is not looked up. -/
def WithinLimits (fs : FileSystem) (path : String) : Prop :=
  Path.hasNull path = true ∨ fs.entry (Path.normalize path) ≠ .error .nameTooLong

theorem withinLimits_iff {path : String} :
    WithinLimits fs path ↔ ∃ found, isDirectory fs path = .ok found := by
  cases hdirectory : isDirectory fs path with
  | ok found =>
    refine iff_of_true ?_ ⟨found, rfl⟩
    by_contra hlong
    rw [WithinLimits, not_or, Bool.not_eq_true, not_not] at hlong
    have hfails := isDirectory_eq_error_iff.mpr ⟨hlong.1, hlong.2, rfl⟩
    exact absurd (hdirectory.symm.trans hfails) (by simp)
  | error fault =>
    obtain ⟨hnull, hlong, -⟩ := isDirectory_eq_error_iff.mp hdirectory
    simp [WithinLimits, hnull, hlong]

theorem isDirectory_write {location : Location} (h : fs.root.HasRoomAt location)
    (content : Text.Bytes) (arg : String) :
    isDirectory (fs.write location content) arg = isDirectory fs arg := by
  obtain ⟨hdirectory, htooLong⟩ := FileSystem.entry_write h content (Path.normalize arg)
  cases hold : isDirectory fs arg with
  | error fault =>
    rw [isDirectory_eq_error_iff] at hold ⊢
    exact ⟨hold.1, htooLong.mpr hold.2.1, hold.2.2⟩
  | ok found =>
    cases hnew : isDirectory (fs.write location content) arg with
    | error fault =>
      rw [isDirectory_eq_error_iff, htooLong, ← isDirectory_eq_error_iff, hold] at hnew
      exact absurd hnew (by simp)
    | ok found' =>
      have hiff : isDirectory (fs.write location content) arg = .ok true ↔
          isDirectory fs arg = .ok true := by
        rw [isDirectory_eq_true_iff, hdirectory, ← isDirectory_eq_true_iff]
      rw [hold, hnew, Except.ok.injEq, Except.ok.injEq] at hiff
      rw [Bool.eq_iff_iff.mpr hiff]

theorem nodup_ofPaths {paths : List String} {scan : Scan} (h : ofPaths fs s paths = .ok scan) :
    scan.files.Nodup :=
  nodup_foldlM_add h List.nodup_nil

end ScriptTags.Files.Scan
