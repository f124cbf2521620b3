import Mathlib.Data.List.Induction
import ScriptTags.Proofs.Files.Links
import ScriptTags.Proofs.Files.Listing

/-!
# What arguments stand for

An argument stands for the files below a directory, or for itself. A scan lists what its arguments
stand for, each path where it occurs first, so that a scan of more arguments goes on where the scan
of the first ones ends. No listed path leads to a directory, and so a scan of the listed paths lists
them again.
-/

namespace ScriptTags.Files.Scan

section Insertion

/-- Paths added to others come after them, less those that are there already. -/
theorem foldl_insertNew_eq (paths files : List String) :
    paths.foldl insertNew files = files ++ (paths.foldl insertNew []).filter (· ∉ files) := by
  induction paths using List.reverseRecOn with
  | nil => simp
  | append_singleton paths path ih =>
    rw [List.foldl_append, List.foldl_append, List.foldl_cons, List.foldl_cons, List.foldl_nil,
      List.foldl_nil, ih]
    generalize paths.foldl insertNew [] = others
    by_cases hfiles : path ∈ files
    · by_cases hothers : path ∈ others <;> simp [insertNew, hfiles, hothers]
    · by_cases hothers : path ∈ others <;> simp [insertNew, hfiles, hothers]

theorem pairwise_foldl_insertNew (paths : List String) :
    (paths.foldl insertNew []).Pairwise fun a b => paths.idxOf a < paths.idxOf b := by
  induction paths using List.reverseRecOn with
  | nil => exact .nil
  | append_singleton paths path ih =>
    have hmem : ∀ other ∈ paths.foldl insertNew [], other ∈ paths := by
      intro other hother
      simpa using mem_foldl_insertNew.mp hother
    have hkept : (paths.foldl insertNew []).Pairwise fun a b =>
        (paths ++ [path]).idxOf a < (paths ++ [path]).idxOf b := by
      refine ih.imp_of_mem ?_
      intro a b ha hb hlt
      rwa [List.idxOf_append_of_mem (hmem a ha), List.idxOf_append_of_mem (hmem b hb)]
    rw [List.foldl_append, List.foldl_cons, List.foldl_nil, insertNew]
    split_ifs with hthere
    · exact hkept
    · refine List.pairwise_append.mpr ⟨hkept, List.pairwise_singleton _ _, ?_⟩
      intro a ha b hb
      obtain rfl := List.mem_singleton.mp hb
      have hnew : b ∉ paths := by
        intro hold
        apply hthere
        rw [List.contains_eq_mem, decide_eq_true_eq, mem_foldl_insertNew]
        exact .inr hold
      rw [List.idxOf_append_of_mem (hmem a ha), List.idxOf_append_of_notMem hnew]
      exact Nat.lt_add_right _ (List.idxOf_lt_length_of_mem (hmem a ha))

theorem foldl_insertNew_of_nodup {paths : List String} (h : paths.Nodup) :
    paths.foldl insertNew [] = paths := by
  induction paths using List.reverseRecOn with
  | nil => rfl
  | append_singleton paths path ih =>
    obtain ⟨hpaths, -, hnew⟩ := List.nodup_append.mp h
    have hfree : path ∉ paths := fun hmem => hnew path hmem path List.mem_cons_self rfl
    rw [List.foldl_append, List.foldl_cons, List.foldl_nil, ih hpaths, insertNew, if_neg]
    simpa using hfree

end Insertion

section Arguments

variable {fs : FileSystem} {s : Selection} {arg : String}

/-- What an argument stands for, in order: the files found below a directory, or the argument as it
is spelled. -/
def standsFor (fs : FileSystem) (s : Selection) (arg : String) : List String :=
  if isDirectory fs arg = .ok true then filesOf fs s arg else [arg]

theorem add_eq (h : WithinLimits fs arg) (scan : Scan) :
    add fs s scan arg = .ok ⟨(standsFor fs s arg).foldl insertNew scan.files,
      scan.directories ++ [arg].filter fun arg => isDirectory fs arg = .ok true⟩ := by
  obtain ⟨found, hfound⟩ := withinLimits_iff.mp h
  cases found <;>
    simp [add, standsFor, hfound, bind, Except.bind, pure, Except.pure]

theorem foldlM_add_eq {args : List String} (h : ∀ arg ∈ args, WithinLimits fs arg) (scan : Scan) :
    args.foldlM (add fs s) scan =
      .ok ⟨(args.flatMap (standsFor fs s)).foldl insertNew scan.files,
        scan.directories ++ args.filter fun arg => isDirectory fs arg = .ok true⟩ := by
  induction args generalizing scan with
  | nil => simp [pure, Except.pure]
  | cons arg rest ih =>
    rw [List.foldlM_cons, add_eq (h arg List.mem_cons_self)]
    refine (ih (fun other hother => h other (.tail _ hother)) _).trans ?_
    rw [List.flatMap_cons, List.foldl_append, List.append_assoc, ← List.filter_append,
      List.singleton_append]

/-- A scan lists what its arguments stand for, without repetitions, and the directories among
them. -/
theorem ofPaths_eq {args : List String} (h : ∀ arg ∈ args, WithinLimits fs arg) :
    ofPaths fs s args = .ok ⟨(args.flatMap (standsFor fs s)).foldl insertNew [],
      args.filter fun arg => isDirectory fs arg = .ok true⟩ :=
  foldlM_add_eq h {}

/-- What a scan is to give: every argument that is no directory, as it is spelled, and every file
found below a directory, each of them once and where it occurs first, and the directories. -/
structure Expands (fs : FileSystem) (s : Selection) (args : List String) (scan : Scan) : Prop where
  nodup : scan.files.Nodup
  mem_files : ∀ path, path ∈ scan.files ↔
    (path ∈ args ∧ isDirectory fs path = .ok false) ∨
      ∃ arg ∈ args, isDirectory fs arg = .ok true ∧ path ∈ filesOf fs s arg
  ordered : scan.files.Pairwise fun a b =>
    (args.flatMap (standsFor fs s)).idxOf a < (args.flatMap (standsFor fs s)).idxOf b
  directories : scan.directories = args.filter fun arg => isDirectory fs arg = .ok true

theorem exists_covers_iff {args : List String} {path : String} :
    (∃ arg ∈ args, Covers fs s arg path) ↔
      (path ∈ args ∧ isDirectory fs path = .ok false) ∨
        ∃ arg ∈ args, isDirectory fs arg = .ok true ∧ path ∈ filesOf fs s arg := by
  constructor
  · rintro ⟨arg, harg, hfound | ⟨hdirectory, rfl⟩⟩
    · exact .inr ⟨arg, harg, hfound⟩
    · exact .inl ⟨harg, hdirectory⟩
  · rintro (⟨harg, hdirectory⟩ | ⟨arg, harg, hfound⟩)
    · exact ⟨path, harg, .inr ⟨hdirectory, rfl⟩⟩
    · exact ⟨arg, harg, .inl hfound⟩

theorem expands_of_ofPaths {args : List String} {scan : Scan}
    (h : ∀ arg ∈ args, WithinLimits fs arg) (hscan : ofPaths fs s args = .ok scan) :
    Expands fs s args scan where
  nodup := nodup_ofPaths hscan
  mem_files path := (mem_ofPaths hscan path).trans exists_covers_iff
  ordered := by
    obtain rfl := Except.ok.inj ((ofPaths_eq h).symm.trans hscan)
    exact pairwise_foldl_insertNew _
  directories := by
    obtain rfl := Except.ok.inj ((ofPaths_eq h).symm.trans hscan)
    rfl

/-- A scan of two lists of arguments gives what the first one gives and then what is new in the
second. -/
theorem ofPaths_append (s : Selection) {args others : List String}
    (h : ∀ arg ∈ args ++ others, WithinLimits fs arg) :
    ∃ scan more, ofPaths fs s args = .ok scan ∧ ofPaths fs s others = .ok more ∧
      Expands fs s args scan ∧ Expands fs s others more ∧
      ofPaths fs s (args ++ others) = .ok
        ⟨scan.files ++ more.files.filter (· ∉ scan.files),
          scan.directories ++ more.directories⟩ := by
  have hargs : ∀ arg ∈ args, WithinLimits fs arg :=
    fun arg harg => h arg (List.mem_append_left others harg)
  have hothers : ∀ arg ∈ others, WithinLimits fs arg :=
    fun arg harg => h arg (List.mem_append_right args harg)
  refine ⟨_, _, ofPaths_eq hargs, ofPaths_eq hothers, expands_of_ofPaths hargs (ofPaths_eq hargs),
    expands_of_ofPaths hothers (ofPaths_eq hothers), ?_⟩
  rw [ofPaths_eq h, List.flatMap_append, List.foldl_append, foldl_insertNew_eq, List.filter_append]

/-- A path is within the limits if it is short, its names are, and those in links are. -/
theorem withinLimits_of_short {path : String}
    (hpath : (Path.normalize path).utf8ByteSize ≤ maxPathBytes)
    (hnames : ∀ name ∈ Path.route (Path.normalize path), name.utf8ByteSize ≤ maxNameBytes)
    (hlinks : ∀ link ∈ fs.root.links, ∀ name ∈ Path.names link.2,
      name.utf8ByteSize ≤ maxNameBytes) : WithinLimits fs path := by
  refine .inr ?_
  rw [Ne, FileSystem.entry_eq_nameTooLong_iff, FileSystem.locate,
    if_neg (Nat.not_lt.mpr hpath)]
  split_ifs
  · simp
  · exact FileSystem.follow_ne_nameTooLong hlinks hnames

theorem withinLimits_linkedFiles : ∀ path ∈ ["site", "lost/", "site/gone.js", "site/lib/a.JS"],
    WithinLimits linkedFiles path := by
  intro path hpath
  apply withinLimits_of_short
  · revert path
    decide +kernel
  · revert path
    decide +kernel
  · decide +kernel

theorem ofPaths_append_sample :
    (∀ arg ∈ ["site", "lost/"] ++ ["site/gone.js", "site"], WithinLimits linkedFiles arg) ∧
    ∃ scan more, ofPaths linkedFiles ⟨[".js"], usuallySkipped⟩ ["site", "lost/"] = .ok scan ∧
      ofPaths linkedFiles ⟨[".js"], usuallySkipped⟩ ["site/gone.js", "site"] = .ok more ∧
      ofPaths linkedFiles ⟨[".js"], usuallySkipped⟩
          (["site", "lost/"] ++ ["site/gone.js", "site"]) = .ok
        ⟨scan.files ++ more.files.filter (· ∉ scan.files),
          scan.directories ++ more.directories⟩ := by
  have hlimits : ∀ arg ∈ ["site", "lost/"] ++ ["site/gone.js", "site"],
      WithinLimits linkedFiles arg := by
    intro arg harg
    apply withinLimits_linkedFiles
    revert arg
    decide
  obtain ⟨scan, more, hscan, hmore, -, -, happend⟩ :=
    ofPaths_append ⟨[".js"], usuallySkipped⟩ hlimits
  exact ⟨hlimits, scan, more, hscan, hmore, happend⟩

end Arguments

section Again

open Entry

variable {fs : FileSystem} {s : Selection}

/-- A file found below a directory is no directory, however its path is spelled. -/
theorem isDirectory_of_mem_filesOf (htree : fs.root.IsTree) {arg path : String}
    (hpath : path ∈ filesOf fs s arg) : isDirectory fs path ≠ .ok true := by
  obtain ⟨there, below, name, harg, ⟨⟨e, he, hplain⟩, -, -⟩, rfl⟩ := (mem_filesOf htree).mp hpath
  have hnames : ∀ other ∈ below ++ [name], Path.IsName other := by
    intro other hother
    apply htree.names_of_at? he
    rw [List.append_assoc]
    exact List.mem_append_right there hother
  intro hdirectory
  obtain ⟨-, own, entries, hentry⟩ := isDirectory_eq_true_iff.mp hdirectory
  cases e with
  | directory => simp [leadsToDirectory] at hplain
  | file itself content =>
    rw [List.append_assoc] at he
    rcases FileSystem.entry_joinAll harg (by simp) hnames he (by simp) with hfile | hlong
    · exact absurd (hfile.symm.trans hentry) (by simp)
    · exact absurd (hlong.symm.trans hentry) (by simp)
  | link itself target =>
    -- A walk looks the link up from its directory. The path passes through that directory, with no
    -- more links to follow from there.
    rw [FileSystem.entry_eq_ok_iff] at hentry
    obtain ⟨last, hlast, hlocated⟩ := hentry
    obtain ⟨_, _, _, hbelow, -, -⟩ := at?_append_cons he
    rcases FileSystem.locate_joinAll_last harg hnames hbelow with hlong | ⟨left, hleft, hfollow⟩
    · exact absurd (hlong.symm.trans hlast) (by simp)
    have hleads := FileSystem.follow_mono (hfollow.symm.trans hlast) hleft
    have hname : itself = name := by
      rw [at?_concat hbelow] at he
      exact name_of_named? he
    rw [Bool.eq_false_iff, Ne, leadsToDirectory_link, hname] at hplain
    exact hplain ⟨last, hleads, own, entries, hlocated⟩

theorem isDirectory_of_mem_files (htree : fs.root.IsTree) {args : List String} {scan : Scan}
    (hscan : ofPaths fs s args = .ok scan) {path : String} (hpath : path ∈ scan.files) :
    isDirectory fs path ≠ .ok true := by
  obtain ⟨arg, -, hcovers⟩ := (mem_ofPaths hscan path).mp hpath
  rcases hcovers with ⟨-, hfound⟩ | ⟨hdirectory, rfl⟩
  · exact isDirectory_of_mem_filesOf htree hfound
  · rw [hdirectory]
    simp

theorem ofPaths_of_plain {paths : List String} (hnodup : paths.Nodup)
    (h : ∀ path ∈ paths, isDirectory fs path = .ok false) :
    ofPaths fs s paths = .ok ⟨paths, []⟩ := by
  have hlimits : ∀ path ∈ paths, WithinLimits fs path :=
    fun path hpath => withinLimits_iff.mpr ⟨false, h path hpath⟩
  have hthemselves : paths.flatMap (standsFor fs s) = paths := by
    have hsame : ∀ path ∈ paths, standsFor fs s path = [path] := by
      intro path hpath
      rw [standsFor, h path hpath]
      simp
    rw [List.flatMap_congr hsame, List.flatMap_singleton']
  have hnone : (paths.filter fun path => isDirectory fs path = .ok true) = [] := by
    rw [List.filter_eq_nil_iff]
    intro path hpath
    rw [h path hpath]
    simp
  rw [ofPaths_eq hlimits, hthemselves, foldl_insertNew_of_nodup hnodup, hnone]

/-- No file of a scan is a directory, and a scan of them gives the same files again, whatever it
selects. -/
theorem ofPaths_files (htree : fs.root.IsTree) (s : Selection) {args : List String}
    (h : ∀ arg ∈ args, WithinLimits fs arg) :
    ∃ scan, ofPaths fs s args = .ok scan ∧
      (∀ path ∈ scan.files, isDirectory fs path ≠ .ok true) ∧
      ((∀ path ∈ scan.files, WithinLimits fs path) →
        ∀ other, ofPaths fs other scan.files = .ok ⟨scan.files, []⟩) := by
  have hscan := ofPaths_eq (s := s) h
  refine ⟨_, hscan, fun path hpath => isDirectory_of_mem_files htree hscan hpath, ?_⟩
  intro hlimits other
  apply ofPaths_of_plain (nodup_ofPaths hscan)
  intro path hpath
  obtain ⟨found, hfound⟩ := withinLimits_iff.mp (hlimits path hpath)
  cases found with
  | true => exact absurd hfound (isDirectory_of_mem_files htree hscan hpath)
  | false => exact hfound

theorem isDirectory_linkedFiles : isDirectory linkedFiles "site" = .ok true := by
  have hentry := FileSystem.entry_eq_ok_iff.mpr ⟨["dist"], locate_linkedFiles, rfl⟩
  rw [← show Path.normalize "site" = "site" by decide +kernel] at hentry
  exact isDirectory_eq_true_iff.mpr ⟨by decide, _, _, hentry⟩

theorem ofPaths_linkedFiles :
    ofPaths linkedFiles ⟨[".js"], usuallySkipped⟩ ["site", "lost/"] =
      .ok ⟨["site/gone.js", "site/lib/a.JS", "lost/"], ["site"]⟩ := by
  have hlost : isDirectory linkedFiles "lost/" = .ok false := by
    have hnormal : Path.normalize "lost/" = "lost" ∧ Path.hasNull "lost" = false ∧
        Path.isAbsolute "lost" = false ∧ Path.route "lost" = ["lost"] := by decide +kernel
    have hmissing : linkedFiles.entry "lost" = .error .missing := by
      rw [FileSystem.entry, FileSystem.locate, if_neg (by decide), if_neg (by decide +kernel),
        FileSystem.start, hnormal.2.2.1, hnormal.2.2.2, FileSystem.follow_missing rfl _ rfl]
      constructor <;> decide +kernel
    simp [isDirectory, hnormal, hmissing]
  have hplain : leadsToDirectory linkedFiles.root ["dist"] (.link "gone.js" "nowhere") = false := by
    rw [leadsToDirectory, follow_brokenLink]
  have hfiles : filesOf linkedFiles ⟨[".js"], usuallySkipped⟩ "site" =
      ["site/gone.js", "site/lib/a.JS"] := by
    rw [filesOf_eq_map locate_linkedFiles rfl]
    simp only [waysBelow, takenNames, subways, List.filter_cons, hplain]
    decide +kernel
  simp [ofPaths, add, isDirectory_linkedFiles, hlost, hfiles, insertNew, bind, Except.bind, pure,
    Except.pure]

theorem ofPaths_files_sample :
    let found := ["site/gone.js", "site/lib/a.JS", "lost/"]
    linkedFiles.root.IsTree ∧ (∀ arg ∈ ["site", "lost/"], WithinLimits linkedFiles arg) ∧
    (∀ path ∈ found, WithinLimits linkedFiles path) ∧
    ofPaths linkedFiles ⟨[".js"], usuallySkipped⟩ ["site", "lost/"] = .ok ⟨found, ["site"]⟩ ∧
    ofPaths linkedFiles ⟨[], []⟩ found = .ok ⟨found, []⟩ := by
  intro found
  have hargs : ∀ arg ∈ ["site", "lost/"], WithinLimits linkedFiles arg := by
    intro arg harg
    apply withinLimits_linkedFiles
    revert arg
    decide
  have hfound : ∀ path ∈ found, WithinLimits linkedFiles path := by
    intro path hpath
    apply withinLimits_linkedFiles
    revert path
    decide
  obtain ⟨scan, hscan, -, hagain⟩ :=
    ofPaths_files isTree_linkedFiles ⟨[".js"], usuallySkipped⟩ hargs
  obtain rfl := Except.ok.inj (hscan.symm.trans ofPaths_linkedFiles)
  exact ⟨isTree_linkedFiles, hargs, hfound, ofPaths_linkedFiles, hagain hfound ⟨[], []⟩⟩

end Again

end ScriptTags.Files.Scan
