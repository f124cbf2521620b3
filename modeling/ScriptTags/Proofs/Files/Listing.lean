import ScriptTags.Proofs.Files.Rearranged
import ScriptTags.Proofs.Order

/-!
# What a directory stands for

A directory stands for the files that can be reached from it through real directories that are not
passed over. Each of them is listed once: the files of a directory come first, in the order of their
names, and then what its directories hold, in the order of theirs. A list in this order is settled
by its members, so it does not matter in which order the entries of directories are found.
-/

namespace ScriptTags

/-- Sorting by a key that tells all entries apart puts the keys in strict order. -/
theorem Text.mergeSort_strict {α : Type} (key : α → String) {entries : List α}
    (h : (entries.map key).Nodup) :
    (entries.mergeSort fun a b => inOrder (key a) (key b)).Pairwise fun a b =>
      codePoints (key a) < codePoints (key b) := by
  have hsorted : (entries.mergeSort fun a b => inOrder (key a) (key b)).Pairwise
      fun a b => inOrder (key a) (key b) = true :=
    List.pairwise_mergeSort (fun a b c => inOrder_trans (key a) (key b) (key c))
      (fun a b => inOrder_total (key a) (key b)) entries
  have hdistinct : (entries.mergeSort fun a b => inOrder (key a) (key b)).Pairwise
      fun a b => key a ≠ key b := by
    rw [← List.pairwise_map (f := key) (R := fun a b => a ≠ b)]
    exact ((List.mergeSort_perm entries _).map key).nodup_iff.mpr h
  refine (hsorted.and hdistinct).imp ?_
  rintro a b ⟨hle, hne⟩
  exact lt_of_le_of_ne ((inOrder_iff _ _).mp hle) (codePoints_strictMono.injective.ne hne)

namespace Files

open Text (Bytes)

/-- The order of a listing, by the names on the way to each file. -/
inductive Precedes : List String → List String → Prop
  /-- Files of one directory are in the order of their names. -/
  | file {name other : String} (h : Text.codePoints name < Text.codePoints other) :
      Precedes [name] [other]
  /-- A file comes before what stands further below. -/
  | fileFirst {name directory : String} {rest : List String} (hrest : rest ≠ []) :
      Precedes [name] (directory :: rest)
  /-- Directories are in the order of their names. -/
  | directory {directory other : String} {rest rest' : List String} (hrest : rest ≠ [])
      (hrest' : rest' ≠ []) (h : Text.codePoints directory < Text.codePoints other) :
      Precedes (directory :: rest) (other :: rest')
  | within {directory : String} {rest rest' : List String} (h : Precedes rest rest') :
      Precedes (directory :: rest) (directory :: rest')

namespace Precedes

variable {way other : List String}

theorem ne_nil (h : Precedes way other) : way ≠ [] ∧ other ≠ [] := by
  cases h <;> simp

theorem asymm (h : Precedes way other) : ¬ Precedes other way := by
  induction h with
  | file h =>
    intro h'
    cases h' with
    | file h' => exact lt_asymm h h'
    | fileFirst hrest => exact hrest rfl
    | directory hrest => exact hrest rfl
    | within h' => exact h'.ne_nil.1 rfl
  | fileFirst hrest =>
    intro h'
    cases h' with
    | file => exact hrest rfl
    | fileFirst hrest' => exact hrest' rfl
    | directory _ hrest' => exact hrest' rfl
    | within h' => exact h'.ne_nil.2 rfl
  | directory hrest hrest' h =>
    intro h'
    cases h' with
    | file => exact hrest rfl
    | fileFirst => exact hrest' rfl
    | directory _ _ h' => exact lt_asymm h h'
    | within => exact lt_irrefl _ h
  | within h ih =>
    intro h'
    cases h' with
    | file h' => exact lt_irrefl _ h'
    | fileFirst => exact h.ne_nil.2 rfl
    | directory _ _ h' => exact lt_irrefl _ h'
    | within h' => exact ih h'

instance : Std.Irrefl Precedes := ⟨fun _ h => h.asymm h⟩

instance : Std.Antisymm Precedes := ⟨fun _ _ h h' => absurd h' h.asymm⟩

end Precedes

namespace Entry

/-- An entry of the directory at a location that is no directory: a file, or a link that is broken
or leads to something else. -/
inductive IsPlain (root : Entry) (here : Location) : Entry → Prop
  | file (name : String) (content : Bytes) : IsPlain root here (.file name content)
  | link {name target : String}
      (h : ∀ there own entries, FileSystem.follow root maxLinks here [name] = .ok there →
        root.at? there ≠ some (.directory own entries)) : IsPlain root here (.link name target)

/-- A way leads down from the directory at a location: through directories that are none of the
usual ones to skip and not excluded, and then to an entry with one of the extensions. -/
inductive Reaches (root : Entry) (extensions excluded : List String) :
    Location → List String → Prop
  | file {here : Location} {own : String} {entries : List Entry} {e : Entry}
      (hhere : root.at? here = some (.directory own entries)) (he : e ∈ entries)
      (hplain : IsPlain root here e) (htaken : Path.lowerExtension e.name ∈ extensions) :
      Reaches root extensions excluded here [e.name]
  | within {here : Location} {own name : String} {entries below : List Entry} {way : List String}
      (hhere : root.at? here = some (.directory own entries))
      (hbelow : .directory name below ∈ entries) (hskipped : name ∉ usuallySkipped)
      (hexcluded : name ∉ excluded) (hway : Reaches root extensions excluded (here ++ [name]) way) :
      Reaches root extensions excluded here (name :: way)

variable {root : Entry} {here : Location}

theorem isPlain_iff {e : Entry} : IsPlain root here e ↔ leadsToDirectory root here e = false := by
  constructor
  · rintro (_ | h)
    · rfl
    · rw [Bool.eq_false_iff, Ne, leadsToDirectory_link]
      rintro ⟨there, hthere, own, entries, hdirectory⟩
      exact h there own entries hthere hdirectory
  · intro h
    cases e with
    | file name content => exact .file name content
    | link name target =>
      apply IsPlain.link
      intro there own entries hthere hdirectory
      rw [Bool.eq_false_iff, Ne, leadsToDirectory_link] at h
      exact h ⟨there, hthere, own, entries, hdirectory⟩
    | directory => simp [leadsToDirectory] at h

section

variable {extensions excluded : List String}

theorem Reaches.directory {way : List String} (h : Reaches root extensions excluded here way) :
    ∃ own entries, root.at? here = some (.directory own entries) := by
  cases h with
  | file hhere | within hhere => exact ⟨_, _, hhere⟩

/-- The ways of a search are those that lead down from its directory. -/
theorem mem_waysBelow_iff_reaches (htree : root.IsTree) (e : Entry) (hhere : root.at? here = some e)
    {way : List String} :
    way ∈ waysBelow root ⟨extensions, usuallySkipped ++ excluded⟩ here e ↔
      Reaches root extensions excluded here way := by
  induction e using Entry.ind generalizing here way with
  | file | link =>
    simp only [waysBelow, List.not_mem_nil, false_iff]
    intro hreaches
    obtain ⟨own, entries, hdirectory⟩ := hreaches.directory
    exact absurd (hhere.symm.trans hdirectory) (by simp)
  | directory own entries ih =>
    rw [mem_waysBelow_directory]
    simp only [← isPlain_iff, Selection.takesFile, Selection.skips, List.contains_eq_mem,
      decide_eq_true_eq, decide_eq_false_iff_not, List.mem_append, not_or]
    constructor
    · rintro (⟨e, he, hplain, htaken, rfl⟩ |
        ⟨name, below, rest, hmem, ⟨hskipped, hexcluded⟩, hrest, rfl⟩)
      · exact .file hhere he hplain htaken
      · have hfound := (htree.at?_mem hhere).mp hmem
        exact .within hhere hmem hskipped hexcluded ((ih _ hmem hfound).mp hrest)
    · intro hreaches
      cases hreaches with
      | file hhere' he hplain htaken =>
        obtain ⟨rfl, rfl⟩ := directory.inj (Option.some.inj (hhere.symm.trans hhere'))
        exact .inl ⟨_, he, hplain, htaken, rfl⟩
      | within hhere' hmem hskipped hexcluded hway =>
        obtain ⟨rfl, rfl⟩ := directory.inj (Option.some.inj (hhere.symm.trans hhere'))
        have hfound := (htree.at?_mem hhere).mp hmem
        exact .inr ⟨_, _, _, hmem, ⟨hskipped, hexcluded⟩, (ih _ hmem hfound).mpr hway, rfl⟩

end

variable {s : Selection}

theorem map_fst_subways_sublist (entries : List Entry) :
    ((subways root s here entries).map Prod.fst).Sublist (entries.map name) := by
  induction entries with
  | nil => exact .slnil
  | cons e rest ih =>
    cases e with
    | file | link => exact ih.cons _
    | directory own below =>
      rw [subways]
      split_ifs
      · exact ih.cons _
      · exact ih.cons_cons _

theorem ne_nil_of_mem_waysBelow {e : Entry} {way : List String}
    (h : way ∈ waysBelow root s here e) : way ≠ [] := by
  cases e with
  | file | link => simp [waysBelow] at h
  | directory own entries =>
    rcases mem_waysBelow_directory.mp h with ⟨e, -, -, -, rfl⟩ | ⟨name, below, rest, -, -, -, rfl⟩
    · exact List.cons_ne_nil _ _
    · exact List.cons_ne_nil _ _

theorem pairwise_waysBelow {e : Entry} (htree : e.IsTree) :
    (waysBelow root s here e).Pairwise Precedes := by
  induction e using Entry.ind generalizing here with
  | file | link => exact .nil
  | directory own entries ih =>
    obtain ⟨hdistinct, hentries⟩ := isTree_directory_iff.mp htree
    rw [waysBelow, List.pairwise_append]
    refine ⟨?_, ?_, ?_⟩
    · have hnames : ((entries.filter fun e => !leadsToDirectory root here e &&
          s.takesFile e.name).map name).Nodup := hdistinct.sublist (List.filter_sublist.map _)
      rw [List.pairwise_map]
      refine (Text.mergeSort_strict id (by simpa using hnames)).imp ?_
      intro name other h
      exact .file h
    · have hnames : ((subways root s here entries).map Prod.fst).Nodup :=
        hdistinct.sublist (map_fst_subways_sublist entries)
      rw [List.pairwise_flatMap]
      constructor
      · intro d hd
        obtain ⟨name, below, hmem, -, rfl⟩ := mem_subways.mp (List.mem_mergeSort.mp hd)
        rw [List.pairwise_map]
        exact (ih _ hmem (hentries _ hmem).2).imp .within
      · refine (Text.mergeSort_strict Prod.fst hnames).imp_of_mem ?_
        intro d d' hd hd' h way hway way' hway'
        obtain ⟨name, below, -, -, rfl⟩ := mem_subways.mp (List.mem_mergeSort.mp hd)
        obtain ⟨name', below', -, -, rfl⟩ := mem_subways.mp (List.mem_mergeSort.mp hd')
        obtain ⟨rest, hrest, rfl⟩ := List.mem_map.mp hway
        obtain ⟨rest', hrest', rfl⟩ := List.mem_map.mp hway'
        exact .directory (ne_nil_of_mem_waysBelow hrest) (ne_nil_of_mem_waysBelow hrest') h
    · intro way hway way' hway'
      obtain ⟨name, -, rfl⟩ := List.mem_map.mp hway
      obtain ⟨d, hd, hway'⟩ := List.mem_flatMap.mp hway'
      obtain ⟨name', below, -, -, rfl⟩ := mem_subways.mp (List.mem_mergeSort.mp hd)
      obtain ⟨rest, hrest, rfl⟩ := List.mem_map.mp hway'
      exact .fileFirst (ne_nil_of_mem_waysBelow hrest)

theorem waysBelow_rearranged {root' e e' : Entry} (htree : root.IsTree) (h : Rearranged root root')
    (he : root.at? here = some e) (he' : root'.at? here = some e') :
    waysBelow root' s here e' = waysBelow root s here e := by
  have htree' := h.isTree htree
  have hlook := h.looksLike htree
  apply (pairwise_waysBelow (htree'.of_at? he')).eq_of_mem_iff
    (pairwise_waysBelow (htree.of_at? he))
  intro way
  rw [mem_waysBelow htree' e' he', mem_waysBelow htree e he]
  constructor
  · rintro ⟨below, name, htaken, rfl⟩
    exact ⟨below, name, htaken.looksLike hlook.symm, rfl⟩
  · rintro ⟨below, name, htaken, rfl⟩
    exact ⟨below, name, htaken.looksLike hlook, rfl⟩

theorem names_of_mem_waysBelow (htree : root.IsTree) {e : Entry} (he : root.at? here = some e)
    {way : List String} (h : way ∈ waysBelow root s here e) : ∀ name ∈ way, Path.IsName name := by
  obtain ⟨below, last, htaken, rfl⟩ := (mem_waysBelow htree e he).mp h
  obtain ⟨found, hfound, -⟩ := htaken.found
  intro name hname
  apply htree.names_of_at? hfound name
  rw [List.append_assoc]
  exact List.mem_append_right here hname

end Entry

/-- Ways below a directory that are spelled alike are the same. -/
theorem Path.joinAll_injOn {directory : String} {way way' : List String}
    (hway : ∀ name ∈ way, IsName name) (hway' : ∀ name ∈ way', IsName name)
    (h : joinAll directory way = joinAll directory way') : way = way' := by
  have hnames := congrArg names h
  rw [names_joinAll hway, names_joinAll hway'] at hnames
  exact List.append_cancel_left hnames

namespace Scan

open Entry

theorem filesOf_eq_map {fs : FileSystem} {s : Selection} {arg : String} {here : Location}
    {e : Entry} (hlocate : fs.locate arg = .ok here) (he : fs.root.at? here = some e) :
    filesOf fs s arg = (waysBelow fs.root s here e).map (Path.joinAll arg) := by
  simp only [filesOf, hlocate, he]
  exact filesBelow_eq_map fs.root s here arg e

/-- A directory argument stands for the files that can be reached from it, each listed once and in
the order of a listing, whatever the order in which directories have their entries. -/
theorem filesOf_listing {fs : FileSystem} (htree : fs.root.IsTree) {arg : String} {here : Location}
    {own : String} {entries : List Entry} (hlocate : fs.locate arg = .ok here)
    (hhere : fs.root.at? here = some (.directory own entries)) (extensions excluded : List String) :
    let found := filesOf fs ⟨extensions, usuallySkipped ++ excluded⟩ arg
    (∃ ways : List (List String), found = ways.map (Path.joinAll arg) ∧
      (∀ way, way ∈ ways ↔ Reaches fs.root extensions excluded here way) ∧
      ways.Pairwise Precedes) ∧
    found.Nodup ∧
    ∀ root, Rearranged fs.root root →
      filesOf { fs with root := root } ⟨extensions, usuallySkipped ++ excluded⟩ arg = found := by
  intro found
  have hfound : found = _ := filesOf_eq_map hlocate hhere
  have hsorted : (waysBelow fs.root ⟨extensions, usuallySkipped ++ excluded⟩ here
      (.directory own entries)).Pairwise Precedes := pairwise_waysBelow (htree.of_at? hhere)
  refine ⟨⟨_, hfound, fun way => mem_waysBelow_iff_reaches htree _ hhere, hsorted⟩, ?_, ?_⟩
  · rw [hfound]
    refine List.Nodup.map_on ?_ hsorted.nodup
    intro way hway way' hway' hspelled
    exact Path.joinAll_injOn (names_of_mem_waysBelow htree hhere hway)
      (names_of_mem_waysBelow htree hhere hway') hspelled
  · intro root hroot
    have hlook := hroot.looksLike htree
    have hlocate' := (FileSystem.locate_looksLike hlook arg).trans hlocate
    obtain ⟨others, hothers, -⟩ := hlook.directory hhere
    rw [hfound, filesOf_eq_map hlocate' hothers, waysBelow_rearranged htree hroot hhere hothers]

/-- A link to a directory of a name that is usually skipped, with a broken link and a directory
in it. -/
def linkedFiles : FileSystem where
  root := .directory "" [.link "site" "dist", .directory "dist" [.link "gone.js" "nowhere",
    .directory "lib" [.file "a.JS" []]]]
  workingDirectory := []

theorem isTree_linkedFiles : linkedFiles.root.IsTree := by
  have hname : ∀ name ∈ ["site", "dist", "gone.js", "lib", "a.JS"], Path.IsName name := by
    simp only [List.mem_cons, List.not_mem_nil, or_false]
    rintro name (rfl | rfl | rfl | rfl | rfl)
    all_goals refine ⟨⟨?_, ?_⟩, ?_, ?_, ?_⟩ <;> decide +kernel
  have hlib : (directory "lib" [.file "a.JS" []]).IsTree := by
    refine isTree_directory (by decide +kernel) ?_ "lib"
    simp only [List.mem_singleton, forall_eq]
    exact ⟨hname "a.JS" (by simp), isTree_file _ _⟩
  have hdist : (directory "dist" [.link "gone.js" "nowhere",
      .directory "lib" [.file "a.JS" []]]).IsTree := by
    refine isTree_directory (by decide +kernel) ?_ "dist"
    simp only [List.mem_cons, List.not_mem_nil, or_false, forall_eq_or_imp, forall_eq]
    exact ⟨⟨hname "gone.js" (by simp), isTree_link _ (by decide +kernel)⟩,
      hname "lib" (by simp), hlib⟩
  refine isTree_directory (by decide +kernel) ?_ ""
  simp only [List.mem_cons, List.not_mem_nil, or_false, forall_eq_or_imp, forall_eq]
  exact ⟨⟨hname "site" (by simp), isTree_link _ (by decide +kernel)⟩,
    hname "dist" (by simp), hdist⟩

theorem locate_linkedFiles : linkedFiles.locate "site" = .ok ["dist"] := by
  have hroute : Path.route "site" = ["site"] ∧ Path.route "dist" = ["dist"] := by decide +kernel
  have hrelative : Path.isAbsolute "site" = false ∧ Path.isAbsolute "dist" = false := by
    decide +kernel
  have hsize : ¬ maxPathBytes < "site".utf8ByteSize := by decide +kernel
  have hdirectory : FileSystem.follow linkedFiles.root 39 [] ["dist"] = .ok ["dist"] := by
    refine Eq.trans (FileSystem.follow_entry rfl ?_ rfl (by simp) 39 []) (FileSystem.follow_nil 39)
    constructor <;> decide +kernel
  have hlink : FileSystem.follow linkedFiles.root maxLinks [] ["site"] = .ok ["dist"] := by
    refine Eq.trans (FileSystem.follow_link rfl ?_ rfl 39 []) ?_
    · constructor <;> decide +kernel
    · rw [hrelative.2, hroute.2]
      exact hdirectory
  rw [FileSystem.locate, if_neg (by decide), if_neg hsize, FileSystem.start, hrelative.1, hroute.1,
    if_neg (by simp)]
  exact hlink

theorem follow_brokenLink :
    FileSystem.follow linkedFiles.root maxLinks ["dist"] ["gone.js"] = .error .missing := by
  have hroute : Path.route "nowhere" = ["nowhere"] := by decide +kernel
  have hrelative : Path.isAbsolute "nowhere" = false := by decide +kernel
  refine Eq.trans (FileSystem.follow_link rfl ?_ rfl 39 []) ?_
  · constructor <;> decide +kernel
  · rw [hrelative, hroute]
    refine FileSystem.follow_missing rfl ?_ rfl 39 []
    constructor <;> decide +kernel

theorem filesOf_listing_sample :
    linkedFiles.root.IsTree ∧ linkedFiles.locate "site" = .ok ["dist"] ∧
    let found := filesOf linkedFiles ⟨[".js"], usuallySkipped⟩ "site"
    "site/gone.js" ∈ found ∧ "site/lib/a.JS" ∈ found ∧ found.Nodup := by
  refine ⟨isTree_linkedFiles, locate_linkedFiles, ?_⟩
  obtain ⟨⟨ways, hways, hreaches, -⟩, hnodup, -⟩ :=
    filesOf_listing isTree_linkedFiles locate_linkedFiles rfl [".js"] []
  have hgone : ["gone.js"] ∈ ways := by
    refine (hreaches _).mpr (.file (e := .link "gone.js" "nowhere") rfl List.mem_cons_self ?_
      (by decide +kernel))
    -- The link is broken, so nothing is there that it could lead to.
    exact .link fun there own entries hthere =>
      absurd (hthere.symm.trans follow_brokenLink) (by simp)
  have hlib : ["lib", "a.JS"] ∈ ways := by
    have hlib : directory "lib" [.file "a.JS" []] ∈
        [link "gone.js" "nowhere", directory "lib" [.file "a.JS" []]] := by simp
    refine (hreaches _).mpr (.within rfl hlib (by decide +kernel) (by simp) ?_)
    exact .file (e := .file "a.JS" []) rfl List.mem_cons_self (.file _ _) (by decide +kernel)
  rw [List.append_nil] at hways hnodup
  have hspelled : Path.joinAll "site" ["gone.js"] = "site/gone.js" ∧
      Path.joinAll "site" ["lib", "a.JS"] = "site/lib/a.JS" := by decide +kernel
  refine ⟨?_, ?_, hnodup⟩
  · exact hways ▸ hspelled.1 ▸ List.mem_map_of_mem hgone
  · exact hways ▸ hspelled.2 ▸ List.mem_map_of_mem hlib

end Scan

end Files

end ScriptTags
