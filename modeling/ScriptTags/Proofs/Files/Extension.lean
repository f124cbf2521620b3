import Mathlib.Data.List.TakeWhile
import ScriptTags.Proofs.Files.Expansion

/-!
# Extensions of paths

The extension of a file can be told from its name or from its whole path. A search through the path
looks for the last point and the last slash and then for something other than points between them,
and it comes to the same as taking the name apart. A directory before a name makes no difference,
whatever points it has. What a directory argument stands for can therefore be said of whole paths:
they are the paths of entries that have one of the extensions, and with the usual extensions those
of files in a known language.
-/

namespace ScriptTags.Files

namespace Path

theorem lastName_of_not_mem {path : List Char} (h : '/' ∉ path) : lastName path = path := by
  rw [lastName, pieces_of_not_mem h]
  rfl

theorem lastName_append_slash {directory name : List Char} (h : '/' ∉ name) :
    lastName (directory ++ '/' :: name) = name := by
  rw [lastName, pieces_append_slash, pieces_of_not_mem h, List.getLast?_concat]
  rfl

/-- A directory before a name does not change its extension. -/
theorem extension_join (directory : String) {name : String} (h : '/' ∉ name.toList) :
    extension (join directory name) = extension name := by
  have hname := lastName_of_not_mem h
  obtain ⟨-, hjoin⟩ | ⟨-, base, -, hjoin⟩ := join_cases directory name
  · rw [hjoin]
  · have htoList : (base ++ "/" ++ name).toList = base.toList ++ '/' :: name.toList := by simp
    rw [hjoin, extension, extension, htoList, lastName_append_slash h, hname]

/-! ### The search through a path -/

/-- The place after the last occurrence of a character, or the beginning if there is none. -/
def afterLast (c : Char) (path : List Char) : ℕ := path.length - path.reverse.idxOf c

/-- The extension by a search: it begins at the last point, if that comes after the last slash and
something other than a point stands between the two. -/
def searchExtension (path : List Char) : List Char :=
  let start := afterLast '/' path
  let stop := afterLast '.' path
  if start < stop ∧ ((path.drop start).take (stop - 1 - start)).any (· != '.') then
    path.drop (stop - 1)
  else []

section Search

variable {c : Char} {before after : List Char}

theorem afterLast_of_not_mem (h : c ∉ before) : afterLast c before = 0 := by
  rw [afterLast, List.idxOf_eq_length (by simpa using h), List.length_reverse, Nat.sub_self]

theorem afterLast_append_cons (h : c ∉ after) :
    afterLast c (before ++ c :: after) = before.length + 1 := by
  have hreverse : (before ++ c :: after).reverse = after.reverse ++ c :: before.reverse := by simp
  rw [afterLast, hreverse, List.idxOf_append_of_notMem (by simpa using h), List.idxOf_cons_self,
    List.length_append, List.length_cons, List.length_reverse]
  omega

theorem exists_last {path : List Char} (h : c ∈ path) :
    ∃ before after, path = before ++ c :: after ∧ c ∉ after := by
  obtain ⟨after, before, hreverse, hfree⟩ := List.eq_append_cons_of_mem (List.mem_reverse.mpr h)
  refine ⟨before.reverse, after.reverse, ?_, by simpa using hfree⟩
  rw [← List.reverse_reverse path, hreverse]
  simp

theorem afterLast_append_le (h : c ∉ after) : afterLast c (before ++ after) ≤ before.length := by
  by_cases hbefore : c ∈ before
  · obtain ⟨front, tail, rfl, htail⟩ := exists_last hbefore
    rw [List.append_assoc, List.cons_append, afterLast_append_cons (by simp [htail, h])]
    simp
  · rw [afterLast_of_not_mem (by simp [hbefore, h])]
    exact Nat.zero_le _

theorem exists_lastName (path : List Char) :
    ∃ before name, path = before ++ name ∧ lastName path = name ∧
      afterLast '/' path = before.length := by
  by_cases hslash : '/' ∈ path
  · obtain ⟨directory, name, rfl, hname⟩ := exists_last hslash
    refine ⟨directory ++ ['/'], name, by simp, lastName_append_slash hname, ?_⟩
    rw [afterLast_append_cons hname, List.length_append, List.length_singleton]
  · exact ⟨[], path, rfl, lastName_of_not_mem hslash, afterLast_of_not_mem hslash⟩

theorem extensionOfName_eq_nil {name : List Char} (h : '.' ∉ name.dropWhile (· == '.')) :
    extensionOfName name = [] := by
  have hall : (name.dropWhile (· == '.')).reverse.takeWhile (· != '.') =
      (name.dropWhile (· == '.')).reverse := by
    rw [List.takeWhile_eq_self_iff]
    intro c hc
    rw [bne_iff_ne]
    rintro rfl
    exact h (List.mem_reverse.mp hc)
  rw [extensionOfName, hall, if_pos (List.length_reverse)]

theorem extensionOfName_append {front tail : List Char} (htail : '.' ∉ tail) :
    extensionOfName (front ++ '.' :: tail) =
      if front.any (· != '.') then '.' :: tail else [] := by
  split_ifs with hfront
  · have hstem : (front ++ '.' :: tail).dropWhile (· == '.') =
        front.dropWhile (· == '.') ++ '.' :: tail := by
      have hne : ¬ (front.dropWhile (· == '.')).isEmpty = true := by
        rw [List.isEmpty_iff, List.dropWhile_eq_nil_iff]
        simpa using hfront
      rw [List.dropWhile_append, if_neg hne]
    have hlast : (front.dropWhile (· == '.') ++ '.' :: tail).reverse.takeWhile (· != '.') =
        tail.reverse := by
      have hpoints : ∀ c ∈ tail.reverse, (c != '.') = true := by
        intro c hc
        rw [bne_iff_ne]
        rintro rfl
        exact htail (List.mem_reverse.mp hc)
      rw [List.reverse_append, List.reverse_cons, List.append_assoc,
        List.takeWhile_append_of_pos hpoints]
      simp
    have hlonger : tail.reverse.length ≠
        (front.dropWhile (· == '.') ++ '.' :: tail).length := by
      rw [List.length_reverse, List.length_append, List.length_cons]
      omega
    rw [extensionOfName, hstem, hlast, if_neg hlonger, List.reverse_reverse]
  · have hpoints : ∀ c ∈ front, (c == '.') = true := by
      simpa using hfront
    apply extensionOfName_eq_nil
    rw [List.dropWhile_append_of_pos hpoints, List.dropWhile_cons_of_pos (by simp)]
    exact fun h => htail ((List.dropWhile_sublist _).mem h)

/-- The search finds the extension that the last name has. -/
theorem searchExtension_eq (path : List Char) :
    searchExtension path = extensionOfName (lastName path) := by
  obtain ⟨before, name, rfl, hname, hstart⟩ := exists_lastName path
  rw [hname, searchExtension, hstart]
  by_cases hpoint : '.' ∈ name
  · obtain ⟨front, tail, rfl, htail⟩ := exists_last hpoint
    have hstop : afterLast '.' (before ++ (front ++ '.' :: tail)) =
        before.length + front.length + 1 := by
      rw [← List.append_assoc, afterLast_append_cons htail, List.length_append]
    have hbetween : ((before ++ (front ++ '.' :: tail)).drop before.length).take
        (before.length + front.length + 1 - 1 - before.length) = front := by
      rw [List.drop_left, Nat.add_sub_cancel, Nat.add_sub_cancel_left, List.take_left]
    have hrest : (before ++ (front ++ '.' :: tail)).drop
        (before.length + front.length + 1 - 1) = '.' :: tail := by
      rw [Nat.add_sub_cancel, ← List.append_assoc, ← List.length_append, List.drop_left]
    have hafter : before.length < before.length + front.length + 1 := by omega
    simp only [hstop, hbetween, hrest, hafter, true_and, extensionOfName_append htail]
  · have hstop : afterLast '.' (before ++ name) ≤ before.length := afterLast_append_le hpoint
    have hnone : '.' ∉ name.dropWhile (· == '.') :=
      fun h => hpoint ((List.dropWhile_sublist _).mem h)
    rw [if_neg fun h => absurd h.1 (Nat.not_lt.mpr hstop), extensionOfName_eq_nil hnone]

theorem extension_eq_search (path : String) :
    (extension path).toList = searchExtension path.toList := by
  rw [extension, String.toList_ofList, searchExtension_eq]

end Search

end Path

end ScriptTags.Files

namespace ScriptTags

theorem Language.ofPath?_ne_none_iff {path : String} :
    ofPath? path ≠ none ↔ Files.Path.lowerExtension path ∈ extensions.map (·.1) := by
  rw [ofPath?, Ne, Option.map_eq_none_iff, ← Ne, Option.ne_none_iff_isSome, List.find?_isSome,
    List.mem_map]
  simp only [beq_iff_eq]

namespace Files

namespace Entry

/-- An entry below the directory at a location that is not passed over: it is in one of the
directories that lead down from there, none of which is a usual one to skip or excluded, and it is
no directory itself. -/
structure IsUnpruned (root : Entry) (excluded : List String) (here below : Location)
    (name : String) : Prop where
  found : ∃ e, root.at? (here ++ below ++ [name]) = some e ∧ IsPlain root (here ++ below) e
  passed : ∀ directory ∈ below, directory ∉ usuallySkipped ∧ directory ∉ excluded

theorem isTaken_iff_isUnpruned {root : Entry} {extensions excluded : List String}
    {here below : Location} {name : String} :
    IsTaken root (Selection.ofNames extensions excluded) here below name ↔
      IsUnpruned root excluded here below name ∧
        Path.lowerExtension name ∈ extensions.map Text.lower := by
  have hskips : ∀ directory, (Selection.ofNames extensions excluded).skips directory = false ↔
      directory ∉ usuallySkipped ∧ directory ∉ excluded := by
    intro directory
    rw [Selection.skips, Selection.ofNames, List.contains_eq_mem, decide_eq_false_iff_not,
      List.mem_append, not_or]
  have htakes : (Selection.ofNames extensions excluded).takesFile name = true ↔
      Path.lowerExtension name ∈ extensions.map Text.lower := by
    rw [Selection.takesFile, Selection.ofNames, List.contains_eq_mem, decide_eq_true_eq]
  constructor
  · rintro ⟨⟨e, he, hplain⟩, hpassed, htaken⟩
    exact ⟨⟨⟨e, he, isPlain_iff.mpr hplain⟩, fun d hd => (hskips d).mp (hpassed d hd)⟩,
      htakes.mp htaken⟩
  · rintro ⟨⟨⟨e, he, hplain⟩, hpassed⟩, htaken⟩
    exact ⟨⟨e, he, isPlain_iff.mp hplain⟩, fun d hd => (hskips d).mpr (hpassed d hd),
      htakes.mpr htaken⟩

theorem IsUnpruned.slashFree {root : Entry} (htree : root.IsTree) {excluded : List String}
    {here below : Location} {name : String} (h : IsUnpruned root excluded here below name) :
    '/' ∉ name.toList := by
  obtain ⟨e, he, -⟩ := h.found
  exact (htree.names_of_at? he name (by simp)).slashFree

end Entry

namespace Scan

open Entry

variable {fs : FileSystem} {excluded : List String} {arg : String}

/-- The path of an entry that is not passed over below a directory argument. -/
def IsUnprunedPath (fs : FileSystem) (excluded : List String) (arg path : String) : Prop :=
  ∃ here below name, fs.locate arg = .ok here ∧ IsUnpruned fs.root excluded here below name ∧
    path = Path.joinAll arg (below ++ [name])

/-- The search looks at the extensions of names, which are those of the paths that it gives. -/
theorem mem_filesOf_ofNames (htree : fs.root.IsTree) {extensions : List String} {path : String} :
    path ∈ filesOf fs (Selection.ofNames extensions excluded) arg ↔
      IsUnprunedPath fs excluded arg path ∧
        Path.lowerExtension path ∈ extensions.map Text.lower := by
  have hsame : ∀ {here below name}, IsUnpruned fs.root excluded here below name →
      Path.lowerExtension (Path.joinAll arg (below ++ [name])) = Path.lowerExtension name := by
    intro here below name h
    rw [Path.lowerExtension, Path.lowerExtension, Path.joinAll, List.foldl_append,
      List.foldl_cons, List.foldl_nil, Path.extension_join _ (h.slashFree htree)]
  rw [mem_filesOf htree]
  constructor
  · rintro ⟨here, below, name, hlocate, htaken, rfl⟩
    obtain ⟨hunpruned, hextension⟩ := isTaken_iff_isUnpruned.mp htaken
    rw [hsame hunpruned]
    exact ⟨⟨here, below, name, hlocate, hunpruned, rfl⟩, hextension⟩
  · rintro ⟨⟨here, below, name, hlocate, hunpruned, rfl⟩, hextension⟩
    rw [hsame hunpruned] at hextension
    exact ⟨here, below, name, hlocate, isTaken_iff_isUnpruned.mpr ⟨hunpruned, hextension⟩, rfl⟩

/-- A scan of a directory finds the entries in it that have one of the extensions. -/
theorem ofPaths_ofNames (htree : fs.root.IsTree) (hdirectory : isDirectory fs arg = .ok true)
    (extensions excluded : List String) :
    ∃ scan, ofPaths fs (Selection.ofNames extensions excluded) [arg] = .ok scan ∧
      ∀ path, path ∈ scan.files ↔ IsUnprunedPath fs excluded arg path ∧
        Path.lowerExtension path ∈ extensions.map Text.lower := by
  have hlimits : ∀ other ∈ [arg], WithinLimits fs other := by
    intro other hother
    obtain rfl := List.mem_singleton.mp hother
    exact withinLimits_iff.mpr ⟨true, hdirectory⟩
  refine ⟨_, ofPaths_eq hlimits, ?_⟩
  intro path
  rw [mem_foldl_insertNew, List.flatMap_singleton, standsFor, if_pos hdirectory,
    ← mem_filesOf_ofNames htree]
  simp

/-- The extension that a search goes by is that of the whole path, as a search through the path
finds it too. A directory stands for the entries that have one of the extensions, and with the usual
ones for those in a known language. -/
theorem ofPaths_language (htree : fs.root.IsTree) (hdirectory : isDirectory fs arg = .ok true)
    (excluded : List String) :
    (∀ path, (Path.extension path).toList = Path.searchExtension path.toList) ∧
    (∀ directory name, '/' ∉ name.toList →
      Path.extension (Path.join directory name) = Path.extension name) ∧
    (∃ scan, ofPaths fs (Selection.default excluded) [arg] = .ok scan ∧
      ∀ path, path ∈ scan.files ↔
        IsUnprunedPath fs excluded arg path ∧ Language.ofPath? path ≠ none) ∧
    ∀ extensions, ∃ scan, ofPaths fs (Selection.ofNames extensions excluded) [arg] = .ok scan ∧
      ∀ path, path ∈ scan.files ↔ IsUnprunedPath fs excluded arg path ∧
        Path.lowerExtension path ∈ extensions.map Text.lower := by
  refine ⟨Path.extension_eq_search, fun directory name => Path.extension_join directory, ?_,
    fun extensions => ofPaths_ofNames htree hdirectory extensions excluded⟩
  have hlower : (Language.extensions.map (·.1)).map Text.lower =
      Language.extensions.map (·.1) := by decide +kernel
  obtain ⟨scan, hscan, hfiles⟩ :=
    ofPaths_ofNames htree hdirectory (Language.extensions.map (·.1)) excluded
  refine ⟨scan, hscan, ?_⟩
  intro path
  rw [hfiles, hlower, Language.ofPath?_ne_none_iff]

theorem ofPaths_language_sample :
    linkedFiles.root.IsTree ∧ isDirectory linkedFiles "site" = .ok true ∧
    (∃ scan, ofPaths linkedFiles (Selection.default []) ["site"] = .ok scan ∧
      "site/lib/a.JS" ∈ scan.files) ∧
    ∃ scan, ofPaths linkedFiles (Selection.ofNames [".TS"] []) ["site"] = .ok scan ∧
      "site/lib/a.JS" ∉ scan.files := by
  obtain ⟨-, -, ⟨scan, hscan, hfiles⟩, hselected⟩ :=
    ofPaths_language isTree_linkedFiles isDirectory_linkedFiles []
  obtain ⟨other, hother, hothers⟩ := hselected [".TS"]
  have hunpruned : IsUnprunedPath linkedFiles [] "site" "site/lib/a.JS" := by
    refine ⟨["dist"], ["lib"], "a.JS", locate_linkedFiles, ⟨⟨_, rfl, .file _ _⟩, ?_⟩, ?_⟩
    · decide +kernel
    · decide +kernel
  refine ⟨isTree_linkedFiles, isDirectory_linkedFiles, ⟨scan, hscan, ?_⟩, other, hother, ?_⟩
  · exact (hfiles _).mpr ⟨hunpruned, by decide +kernel⟩
  · intro hmem
    exact absurd ((hothers _).mp hmem).2 (by decide +kernel)

end Scan

end Files

end ScriptTags
