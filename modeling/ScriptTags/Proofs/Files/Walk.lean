import Mathlib.Data.List.Nodup
import ScriptTags.Proofs.Files.Scan

/-!
# Searching directories

In a proper tree the entries of a directory have different names, and a search finds the files at
the locations below a directory. It spells the ways that lead to them from there. After a file was
written the same files are found, and besides them at most that file, on a path that leads to it.
-/

namespace ScriptTags.Files

open Text (Bytes)

namespace Entry

/-- Induction over trees: a directory is settled once its entries are. -/
@[elab_as_elim]
theorem ind {motive : Entry → Prop} (file : ∀ name content, motive (.file name content))
    (link : ∀ name target, motive (.link name target))
    (directory : ∀ name entries, (∀ e ∈ entries, motive e) → motive (.directory name entries)) :
    ∀ e, motive e
  | .file name content => file name content
  | .link name target => link name target
  | .directory name entries => directory name entries fun e he =>
    have hlt : sizeOf e < sizeOf (Entry.directory name entries) :=
      Nat.lt_of_lt_of_le (List.sizeOf_lt_of_mem he) (by simp)
    ind file link directory e
termination_by e => sizeOf e
decreasing_by exact hlt

/-- A tree as file systems have them: the entries of a directory have proper names, no two of them
the same, and what links hold are paths. -/
structure IsTree (root : Entry) : Prop where
  distinct : ∀ {here own entries}, root.at? here = some (.directory own entries) →
    (entries.map name).Nodup
  named : ∀ {here name e}, root.at? (here ++ [name]) = some e → Path.IsName name
  targets : ∀ {here own target}, root.at? here = some (.link own target) →
    Path.hasNull target = false

theorem isTree_file (name : String) (content : Bytes) : (file name content).IsTree where
  distinct := by
    intro here own entries h
    cases here <;> simp [at?] at h
  named := by
    intro here name e h
    cases here <;> simp [at?] at h
  targets := by
    intro here own target h
    cases here <;> simp [at?] at h

theorem isTree_link (name : String) {target : String} (h : Path.hasNull target = false) :
    (link name target).IsTree where
  distinct := by
    intro here own entries hdirectory
    cases here <;> simp [at?] at hdirectory
  named := by
    intro here name e hfound
    cases here <;> simp [at?] at hfound
  targets := by
    intro here own target' hlink
    cases here with
    | nil =>
      rw [at?, Option.some.injEq, link.injEq] at hlink
      exact hlink.2 ▸ h
    | cons first rest => simp [at?] at hlink

theorem isTree_directory {entries : List Entry} (hdistinct : (entries.map name).Nodup)
    (h : ∀ e ∈ entries, Path.IsName e.name ∧ e.IsTree) (own : String) :
    (directory own entries).IsTree where
  distinct := by
    intro here own' entries' hdirectory
    cases here with
    | nil =>
      rw [at?, Option.some.injEq, directory.injEq] at hdirectory
      exact hdirectory.2 ▸ hdistinct
    | cons first rest =>
      obtain ⟨child, hchild, hrest⟩ := Option.bind_eq_some_iff.mp hdirectory
      exact (h child (List.mem_of_find?_eq_some hchild)).2.distinct hrest
  named := by
    intro here name e hfound
    cases here with
    | nil =>
      obtain ⟨child, hchild, -⟩ := Option.bind_eq_some_iff.mp hfound
      exact name_of_named? hchild ▸ (h child (List.mem_of_find?_eq_some hchild)).1
    | cons first rest =>
      obtain ⟨child, hchild, hrest⟩ := Option.bind_eq_some_iff.mp hfound
      exact (h child (List.mem_of_find?_eq_some hchild)).2.named hrest
  targets := by
    intro here own' target hlink
    cases here with
    | nil => simp [at?] at hlink
    | cons first rest =>
      obtain ⟨child, hchild, hrest⟩ := Option.bind_eq_some_iff.mp hlink
      exact (h child (List.mem_of_find?_eq_some hchild)).2.targets hrest

theorem named?_eq_some_iff {entries : List Entry} (h : (entries.map name).Nodup) {name : String}
    {e : Entry} : named? entries name = some e ↔ e ∈ entries ∧ e.name = name := by
  constructor
  · intro hfound
    exact ⟨List.mem_of_find?_eq_some hfound, name_of_named? hfound⟩
  · rintro ⟨he, rfl⟩
    cases hfound : named? entries e.name with
    | none =>
      rw [named?, List.find?_eq_none] at hfound
      exact absurd (beq_self_eq_true e.name) (hfound e he)
    | some other =>
      rw [List.inj_on_of_nodup_map h (List.mem_of_find?_eq_some hfound) he (name_of_named? hfound)]

theorem IsTree.at?_mem {root : Entry} (h : root.IsTree) {here : Location} {own : String}
    {entries : List Entry} (hdirectory : root.at? here = some (.directory own entries))
    {e : Entry} : e ∈ entries ↔ root.at? (here ++ [e.name]) = some e := by
  rw [at?_concat hdirectory, named?_eq_some_iff (h.distinct hdirectory)]
  simp

theorem IsTree.names_of_at? {root e : Entry} (h : root.IsTree) {location : Location}
    (hfound : root.at? location = some e) : ∀ name ∈ location, Path.IsName name := by
  intro name hname
  obtain ⟨before, after, rfl⟩ := List.append_of_mem hname
  obtain ⟨own, entries, child, hdirectory, hchild, -⟩ := at?_append_cons hfound
  exact h.named ((at?_concat hdirectory name).trans hchild)

section Write

variable {root : Entry} {location : Location}

theorem names_putFile (name : String) (content : Bytes) (entries : List Entry) :
    (putFile name content entries).map Entry.name =
      if entries.any (·.name == name) then entries.map Entry.name
      else entries.map Entry.name ++ [name] := by
  unfold putFile
  split_ifs
  · rw [List.map_map]
    apply List.map_congr_left
    intro e _
    by_cases hname : e.name = name <;> simp [hname]
  · simp

theorem distinct_write (content : Bytes) (location : Location) (root : Entry)
    (h : ∀ here own entries, root.at? here = some (.directory own entries) →
      (entries.map name).Nodup) {here : Location} {own : String} {entries : List Entry}
    (hdirectory : (root.write content location).at? here = some (.directory own entries)) :
    (entries.map name).Nodup := by
  -- The file is written below the directory of the first name; every other one stays as it was.
  induction location generalizing root here with
  | nil => exact h here own entries (by cases root <;> exact hdirectory)
  | cons first rest ih =>
    cases root with
    | file | link => exact h here own entries (by cases rest <;> exact hdirectory)
    | directory itself siblings =>
      cases here with
      | nil =>
        have hsiblings := h [] itself siblings rfl
        cases rest with
        | nil =>
          rw [write, at?, Option.some.injEq, directory.injEq] at hdirectory
          rw [← hdirectory.2, names_putFile]
          split_ifs with hany
          · exact hsiblings
          · refine List.nodup_append.mpr ⟨hsiblings, List.nodup_singleton first, ?_⟩
            simpa using hany
        | cons next rest =>
          rw [write, at?, Option.some.injEq, directory.injEq] at hdirectory
          rw [← hdirectory.2, List.map_map]
          have hnames : name ∘
              (fun e => if e.name == first then write content (next :: rest) e else e) = name := by
            funext e
            by_cases hname : e.name = first <;> simp [hname]
          rwa [hnames]
      | cons other below =>
        cases rest with
        | nil =>
          rw [write, at?, named?_putFile] at hdirectory
          split_ifs at hdirectory with hother
          · cases below <;> simp [at?] at hdirectory
          · exact h (other :: below) own entries hdirectory
        | cons next rest =>
          rw [at?_write_cons, Option.bind_eq_some_iff] at hdirectory
          obtain ⟨child, hchild, hbelow⟩ := hdirectory
          have hchildren : ∀ here own entries, child.at? here = some (.directory own entries) →
              (entries.map name).Nodup := by
            intro here own entries hhere
            exact h (other :: here) own entries (by rw [at?, hchild]; exact hhere)
          split_ifs at hbelow with hother
          · exact ih child hchildren hbelow
          · exact hchildren below own entries hbelow

/-- A place in a tree where a file can be put under a proper name. -/
structure IsPlace (root : Entry) (location : Location) : Prop where
  tree : root.IsTree
  room : root.HasRoomAt location
  named : ∀ here name, location = here ++ [name] → Path.IsName name

theorem IsPlace.isTree_write (h : root.IsPlace location) (content : Bytes) :
    (root.write content location).IsTree where
  distinct := distinct_write content _ root fun _ _ _ => h.tree.distinct
  named := by
    intro here name e hfound
    by_cases hlocation : here ++ [name] = location
    · exact h.named here name hlocation.symm
    · have hsurface := h.room.at?_write_of_ne content hlocation
      rw [hfound, Option.map_some, eq_comm, Option.map_eq_some_iff] at hsurface
      obtain ⟨old, hold, -⟩ := hsurface
      exact h.tree.named hold
  targets := by
    intro here own target hlink
    have hlocation : here ≠ location := by
      rintro rfl
      obtain ⟨file, hfile⟩ := h.room.at?_write content
      exact absurd (hfile.symm.trans hlink) (by simp)
    have hsurface := h.room.at?_write_of_ne content hlocation
    rw [hlink, Option.map_some, eq_comm, Option.map_eq_some_iff] at hsurface
    obtain ⟨old, hold, hlook⟩ := hsurface
    exact h.tree.targets (hold.trans (congrArg some (surface_eq_link hlook)))

end Write

section Search

variable {root : Entry} {s : Selection} {here : Location} {spelled path : String}

mutual

/-- The ways from a directory to the files to take below it, by the names on each. -/
def waysBelow (root : Entry) (s : Selection) (here : Location) : Entry → List (List String)
  | .directory _ entries =>
    (takenNames root s here entries).map ([·]) ++
      ((subways root s here entries).mergeSort fun a b => Text.inOrder a.1 b.1).flatMap fun d =>
        d.2.map (d.1 :: ·)
  | _ => []

/-- The directories among some entries by name, each with the ways to its files. -/
def subways (root : Entry) (s : Selection) (here : Location) :
    List Entry → List (String × List (List String))
  | [] => []
  | e :: rest =>
    match e with
    | .directory name entries =>
      if s.skips name then subways root s here rest
      else
        (name, waysBelow root s (here ++ [name]) (.directory name entries)) ::
          subways root s here rest
    | _ => subways root s here rest

end

mutual

theorem filesBelow_eq_map (root : Entry) (s : Selection) (here : Location) (spelled : String) :
    (e : Entry) →
      filesBelow root s here spelled e = (waysBelow root s here e).map (Path.joinAll spelled)
  | .file _ _ => rfl
  | .link _ _ => rfl
  | .directory own entries => by
    -- Sorting looks at the names of directories only, which are the same in both.
    have hsort := List.map_mergeSort (l := subways root s here entries)
      (r := fun a b => Text.inOrder a.1 b.1) (s := fun a b => Text.inOrder a.1 b.1)
      (f := fun d => (d.1, d.2.map (Path.joinAll (Path.join spelled d.1)))) fun _ _ _ _ => rfl
    rw [filesBelow, waysBelow, subdirectories_eq_map, ← hsort, List.map_append, List.map_map,
      List.flatMap_map, List.map_flatMap]
    simp only [List.map_map]
    rfl

theorem subdirectories_eq_map (root : Entry) (s : Selection) (here : Location) (spelled : String) :
    (entries : List Entry) →
      subdirectories root s here spelled entries =
        (subways root s here entries).map fun d =>
          (d.1, d.2.map (Path.joinAll (Path.join spelled d.1)))
  | [] => rfl
  | .file _ _ :: rest => subdirectories_eq_map root s here spelled rest
  | .link _ _ :: rest => subdirectories_eq_map root s here spelled rest
  | .directory name entries :: rest => by
    rw [subdirectories, subways]
    split_ifs
    · exact subdirectories_eq_map root s here spelled rest
    · rw [filesBelow_eq_map root s (here ++ [name]) (Path.join spelled name)
        (.directory name entries), subdirectories_eq_map root s here spelled rest, List.map_cons]

end

theorem mem_subways {entries : List Entry} {found : String × List (List String)} :
    found ∈ subways root s here entries ↔
      ∃ name below, .directory name below ∈ entries ∧ s.skips name = false ∧
        found = (name, waysBelow root s (here ++ [name]) (.directory name below)) := by
  induction entries with
  | nil => simp [subways]
  | cons e rest ih =>
    cases e with
    | file | link => simpa [subways] using ih
    | directory name below =>
      rw [subways]
      cases hskips : s.skips name with
      | true =>
        rw [if_pos rfl, ih]
        constructor
        · rintro ⟨other, others, hmem, hother⟩
          exact ⟨other, others, .tail _ hmem, hother⟩
        · rintro ⟨other, others, hmem, hother, hfound⟩
          rcases List.mem_cons.mp hmem with heq | hmem
          · rw [(directory.inj heq).1, hskips] at hother
            exact absurd hother (by simp)
          · exact ⟨other, others, hmem, hother, hfound⟩
      | false =>
        rw [if_neg (by simp), List.mem_cons, ih]
        constructor
        · rintro (rfl | ⟨other, others, hmem, hother⟩)
          · exact ⟨name, below, List.mem_cons_self, hskips, rfl⟩
          · exact ⟨other, others, .tail _ hmem, hother⟩
        · rintro ⟨other, others, hmem, hother, hfound⟩
          rcases List.mem_cons.mp hmem with heq | hmem
          · obtain ⟨rfl, rfl⟩ := directory.inj heq
            exact .inl hfound
          · exact .inr ⟨other, others, hmem, hother, hfound⟩

theorem mem_waysBelow_directory {own : String} {entries : List Entry} {way : List String} :
    way ∈ waysBelow root s here (.directory own entries) ↔
      (∃ e ∈ entries, leadsToDirectory root here e = false ∧ s.takesFile e.name = true ∧
        way = [e.name]) ∨
      ∃ name below rest, .directory name below ∈ entries ∧ s.skips name = false ∧
        rest ∈ waysBelow root s (here ++ [name]) (.directory name below) ∧ way = name :: rest := by
  rw [waysBelow, List.mem_append]
  refine or_congr ?_ ?_
  · simp only [takenNames, Text.sort, List.mem_map, List.mem_mergeSort, List.mem_filter,
      Bool.and_eq_true, Bool.not_eq_true']
    constructor
    · rintro ⟨_, ⟨e, ⟨he, hleads, htakes⟩, rfl⟩, rfl⟩
      exact ⟨e, he, hleads, htakes, rfl⟩
    · rintro ⟨e, he, hleads, htakes, rfl⟩
      exact ⟨e.name, ⟨e, ⟨he, hleads, htakes⟩, rfl⟩, rfl⟩
  · simp only [List.mem_flatMap, List.mem_mergeSort, mem_subways, List.mem_map]
    constructor
    · rintro ⟨_, ⟨name, below, hmem, hskips, rfl⟩, rest, hrest, rfl⟩
      exact ⟨name, below, rest, hmem, hskips, hrest, rfl⟩
    · rintro ⟨name, below, rest, hmem, hskips, hrest, rfl⟩
      exact ⟨_, ⟨name, below, hmem, hskips, rfl⟩, rest, hrest, rfl⟩

/-- A search from a directory takes the entry of the given name, which the given directories lead
to. -/
structure IsTaken (root : Entry) (s : Selection) (here below : Location) (name : String) :
    Prop where
  found : ∃ e, root.at? (here ++ below ++ [name]) = some e ∧
    leadsToDirectory root (here ++ below) e = false
  passed : ∀ directory ∈ below, s.skips directory = false
  taken : s.takesFile name = true

theorem isTaken_cons {below : Location} {first name : String} :
    IsTaken root s here (first :: below) name ↔
      s.skips first = false ∧ IsTaken root s (here ++ [first]) below name := by
  constructor
  · rintro ⟨hfound, hpassed, htaken⟩
    refine ⟨hpassed first List.mem_cons_self, ?_, fun d hd => hpassed d (.tail _ hd), htaken⟩
    simpa using hfound
  · rintro ⟨hskips, hfound, hpassed, htaken⟩
    refine ⟨?_, ?_, htaken⟩
    · simpa using hfound
    · intro d hd
      rcases List.mem_cons.mp hd with rfl | hd
      · exact hskips
      · exact hpassed d hd

theorem IsTaken.directory {below : Location} {name : String} (h : IsTaken root s here below name) :
    ∃ own entries, root.at? here = some (.directory own entries) := by
  obtain ⟨⟨e, he, -⟩, -, -⟩ := h
  rw [List.append_assoc] at he
  obtain ⟨first, rest, hrest⟩ := List.exists_cons_of_ne_nil (List.append_ne_nil_of_right_ne_nil
    below (List.cons_ne_nil name []))
  rw [hrest] at he
  obtain ⟨own, entries, -, hdirectory, -, -⟩ := at?_append_cons he
  exact ⟨own, entries, hdirectory⟩

theorem mem_waysBelow (htree : root.IsTree) (e : Entry) (hhere : root.at? here = some e)
    {way : List String} :
    way ∈ waysBelow root s here e ↔
      ∃ below name, IsTaken root s here below name ∧ way = below ++ [name] := by
  induction e using Entry.ind generalizing here way with
  | file | link =>
    simp only [waysBelow, List.not_mem_nil, false_iff, not_exists, not_and]
    intro below name htaken
    obtain ⟨own, entries, hdirectory⟩ := htaken.directory
    exact absurd (hhere.symm.trans hdirectory) (by simp)
  | directory own entries ih =>
    rw [mem_waysBelow_directory]
    constructor
    · rintro (⟨e, he, hleads, htakes, rfl⟩ | ⟨name, below, rest, hmem, hskips, hrest, rfl⟩)
      · have hfound := (htree.at?_mem hhere).mp he
        exact ⟨[], e.name,
          ⟨⟨e, by simpa using hfound, by simpa using hleads⟩, by simp, htakes⟩, rfl⟩
      · have hfound := (htree.at?_mem hhere).mp hmem
        obtain ⟨others, last, htaken, rfl⟩ := (ih _ hmem hfound).mp hrest
        exact ⟨name :: others, last, isTaken_cons.mpr ⟨hskips, htaken⟩, rfl⟩
    · rintro ⟨below, name, htaken, rfl⟩
      cases below with
      | nil =>
        obtain ⟨⟨e, he, hleads⟩, -, htakes⟩ := htaken
        rw [List.append_nil] at he hleads
        have hname : e.name = name := name_of_named? ((at?_concat hhere name).symm.trans he)
        subst hname
        exact .inl ⟨e, (htree.at?_mem hhere).mpr he, hleads, htakes, rfl⟩
      | cons first rest =>
        obtain ⟨hskips, htaken⟩ := isTaken_cons.mp htaken
        obtain ⟨itself, others, hchild⟩ := htaken.directory
        have hname : itself = first := name_of_named? ((at?_concat hhere first).symm.trans hchild)
        subst hname
        have hmem := (htree.at?_mem (e := .directory itself others) hhere).mpr hchild
        exact .inr ⟨itself, others, rest ++ [name], hmem, hskips,
          (ih _ hmem hchild).mpr ⟨rest, name, htaken, rfl⟩, rfl⟩

theorem mem_filesBelow (htree : root.IsTree) (e : Entry) (hhere : root.at? here = some e) :
    path ∈ filesBelow root s here spelled e ↔
      ∃ below name, IsTaken root s here below name ∧
        path = Path.joinAll spelled (below ++ [name]) := by
  simp only [filesBelow_eq_map, List.mem_map, mem_waysBelow htree e hhere]
  constructor
  · rintro ⟨_, ⟨below, name, htaken, rfl⟩, rfl⟩
    exact ⟨below, name, htaken, rfl⟩
  · rintro ⟨below, name, htaken, rfl⟩
    exact ⟨_, ⟨below, name, htaken, rfl⟩, rfl⟩

end Search

section Write

variable {root : Entry} {location : Location} {s : Selection}

theorem leadsToDirectory_link (root : Entry) (here : Location) (name target : String) :
    leadsToDirectory root here (.link name target) = true ↔
      ∃ there, FileSystem.follow root maxLinks here [name] = .ok there ∧
        ∃ own entries, root.at? there = some (.directory own entries) := by
  cases hfollow : FileSystem.follow root maxLinks here [name] with
  | error => simp [leadsToDirectory, hfollow]
  | ok there =>
    cases hthere : root.at? there with
    | none => simp [leadsToDirectory, hfollow, hthere]
    | some e => cases e <;> simp [leadsToDirectory, hfollow, hthere]

theorem leadsToDirectory_write (h : root.HasRoomAt location) (content : Bytes) (here : Location)
    {e e' : Entry} (hlook : e'.surface = e.surface) :
    leadsToDirectory (root.write content location) here e' = leadsToDirectory root here e := by
  cases e with
  | file => rw [surface_eq_file hlook]; rfl
  | directory =>
    obtain ⟨others, rfl⟩ := surface_eq_directory hlook
    rfl
  | link name target =>
    rw [surface_eq_link hlook, Bool.eq_iff_iff, leadsToDirectory_link, leadsToDirectory_link]
    simp only [h.directory_write_iff content]
    obtain hsame | ⟨hmissing, hfound | hfound⟩ :=
      FileSystem.follow_write h content maxLinks here [name]
    · rw [hsame]
    · -- The link leads to the file now, which is no directory.
      have hroom : ¬ ∃ own entries, root.at? location = some (.directory own entries) := by
        rintro ⟨own, entries, hdirectory⟩
        exact h.ne_of_directory hdirectory rfl
      simp [hmissing, hfound, hroom]
    · simp [hmissing, hfound]

/-- After a file was written a search takes what it took before, and at most the file besides. -/
theorem isTaken_write (h : root.HasRoomAt location) (content : Bytes) (here below : Location)
    (name : String) :
    (IsTaken root s here below name → IsTaken (root.write content location) s here below name) ∧
    (IsTaken (root.write content location) s here below name →
      IsTaken root s here below name ∨ here ++ below ++ [name] = location) := by
  by_cases hlocation : here ++ below ++ [name] = location
  · refine ⟨?_, fun _ => .inr hlocation⟩
    rintro ⟨-, hpassed, htaken⟩
    obtain ⟨file, hfile⟩ := h.at?_write content
    exact ⟨⟨.file file content, by rw [hlocation, hfile], rfl⟩, hpassed, htaken⟩
  · have hsurface := h.at?_write_of_ne content hlocation
    constructor
    · rintro ⟨⟨e, he, hleads⟩, hpassed, htaken⟩
      rw [he, Option.map_some, Option.map_eq_some_iff] at hsurface
      obtain ⟨e', he', hlook⟩ := hsurface
      exact ⟨⟨e', he', by rw [leadsToDirectory_write h content _ hlook, hleads]⟩, hpassed, htaken⟩
    · rintro ⟨⟨e', he', hleads⟩, hpassed, htaken⟩
      rw [he', Option.map_some, eq_comm, Option.map_eq_some_iff] at hsurface
      obtain ⟨e, he, hlook⟩ := hsurface
      rw [leadsToDirectory_write h content _ hlook.symm] at hleads
      exact .inl ⟨⟨e, he, hleads⟩, hpassed, htaken⟩

end Write

end Entry

namespace FileSystem

open Entry

/-- In a tree a file is written under a proper name: one of those followed, or one in a link. -/
theorem isName_of_followToWrite {root : Entry} (htree : root.IsTree) {links : ℕ} {here : Location}
    {slash : Bool} {names : List String}
    (hnames : ∀ name ∈ names, Path.IsPiece name ∧ Path.hasNull name = false) {location : Location}
    (h : followToWrite root links here slash names = .ok location) {there : Location}
    {last : String} (hlocation : location = there ++ [last]) : Path.IsName last := by
  have hself {here : Location} {name : String} {rest : List String}
      (hnames : ∀ other ∈ name :: rest, Path.IsPiece other ∧ Path.hasNull other = false)
      (hhere : name ≠ ".") (habove : name ≠ "..")
      (h : (Except.ok (here ++ [name]) : Except FileError Location) = .ok location) :
      Path.IsName last := by
    rw [Except.ok.injEq, hlocation] at h
    obtain rfl := List.singleton_injective (List.append_inj' h rfl).2
    obtain ⟨hpiece, hnull⟩ := hnames name List.mem_cons_self
    exact ⟨hpiece, hnull, hhere, habove⟩
  fun_induction followToWrite root links here slash names with
  | case1 | case2 | case5 | case7 | case8 | case12 | case13 | case14 => simp at h
  | case3 _ _ _ _ _ _ _ _ ih => exact ih (fun other hother => hnames other (.tail _ hother)) h
  | case4 _ _ _ _ _ _ _ _ _ ih => exact ih (fun other hother => hnames other (.tail _ hother)) h
  | case6 _ _ _ _ _ _ _ _ _ hhere habove => exact hself hnames hhere habove h
  | case9 here _ name _ _ _ hdirectory _ _ _ _ itself target hlink _ ih =>
    refine ih ?_ (by simpa using h)
    intro other hother
    have hnull : Path.hasNull target = false :=
      htree.targets ((at?_concat hdirectory name).trans hlink)
    rcases List.mem_append.mp hother with hother | hother
    · exact ⟨Path.isPiece_of_mem_names hother, Path.hasNull_of_mem_names hnull hother⟩
    · exact hnames other (.tail _ hother)
  | case10 _ _ _ _ _ _ _ _ _ _ _ _ _ _ _ ih =>
    exact ih (fun other hother => hnames other (.tail _ hother)) h
  | case11 _ _ _ _ _ _ _ _ _ hhere habove => exact hself hnames hhere habove h

theorem isPlace_of_locateToWrite {fs : FileSystem} (htree : fs.root.IsTree) {path : String}
    (hnull : Path.hasNull path = false) {location : Location}
    (h : fs.locateToWrite path = .ok location) : fs.root.IsPlace location where
  tree := htree
  room := hasRoomAt_of_locateToWrite h
  named here name hlocation := by
    unfold locateToWrite at h
    split_ifs at h
    refine isName_of_followToWrite htree ?_ h hlocation
    intro other hother
    exact ⟨Path.isPiece_of_mem_names hother, Path.hasNull_of_mem_names hnull hother⟩

end FileSystem

namespace Scan

open Entry

variable {fs : FileSystem} {s : Selection} {location : Location}

theorem mem_filesOf (htree : fs.root.IsTree) {arg path : String} :
    path ∈ filesOf fs s arg ↔
      ∃ there below name, fs.locate arg = .ok there ∧ IsTaken fs.root s there below name ∧
        path = Path.joinAll arg (below ++ [name]) := by
  unfold filesOf
  cases fs.locate arg with
  | error => simp
  | ok there =>
    cases hthere : fs.root.at? there with
    | none =>
      simp only [hthere, List.not_mem_nil, Except.ok.injEq, false_iff, not_exists, not_and]
      rintro _ below name rfl htaken
      obtain ⟨own, entries, hdirectory⟩ := htaken.directory
      exact absurd (hthere.symm.trans hdirectory) (by simp)
    | some e =>
      simp only [hthere, mem_filesBelow htree e hthere]
      simp

/-- What is found below an argument after a file was written: what was found before, and at most
the file, by the names on the way to it. -/
theorem mem_filesOf_write (h : fs.root.IsPlace location) (content : Bytes) (arg path : String) :
    (path ∈ filesOf fs s arg → path ∈ filesOf (fs.write location content) s arg) ∧
    (path ∈ filesOf (fs.write location content) s arg → path ∈ filesOf fs s arg ∨
      ∃ here below, fs.locate arg = .ok here ∧ below ≠ [] ∧ here ++ below = location ∧
        path = Path.joinAll arg below) := by
  have htree : (fs.write location content).root.IsTree := h.isTree_write content
  rw [mem_filesOf h.tree, mem_filesOf htree]
  have hlocate := FileSystem.locate_write h.room content arg
  constructor
  · rintro ⟨there, below, name, hthere, htaken, rfl⟩
    obtain hsame | ⟨hmissing, -⟩ := hlocate
    · exact ⟨there, below, name, hsame.trans hthere, (isTaken_write h.room content _ _ _).1 htaken,
        rfl⟩
    · exact absurd (hthere.symm.trans hmissing) (by simp)
  · rintro ⟨there, below, name, hthere, htaken, rfl⟩
    obtain hsame | ⟨-, hfound | hfound⟩ := hlocate
    · obtain htaken | hlocation := (isTaken_write h.room content _ _ _).2 htaken
      · exact .inl ⟨there, below, name, hsame.symm.trans hthere, htaken, rfl⟩
      · exact .inr ⟨there, below ++ [name], hsame.symm.trans hthere, by simp,
          by simpa using hlocation, rfl⟩
    · obtain rfl := Except.ok.inj (hthere.symm.trans hfound)
      obtain ⟨own, entries, hdirectory⟩ := htaken.directory
      obtain ⟨file, hfile⟩ := h.room.at?_write content
      exact absurd (hfile.symm.trans hdirectory) (by simp)
    · exact absurd (hthere.symm.trans hfound) (by simp)

/-- The path by which a search finds the written file leads to it, unless it is too long. -/
theorem read_joinAll (h : fs.root.IsPlace location) {arg : String} {here below : Location}
    (harg : fs.locate arg = .ok here) (hne : below ≠ []) (hlocation : here ++ below = location)
    (content : Bytes) :
    let path := Path.joinAll arg below
    Path.hasNull path = Path.hasNull arg ∧
      ((fs.write location content).read (Path.normalize path) = .ok content ∨
        (fs.write location content).read (Path.normalize path) = .error .nameTooLong) := by
  intro path
  obtain ⟨file, hfile⟩ := h.room.at?_write content
  have hnames : ∀ name ∈ below, Path.IsName name := by
    intro name hmem
    exact (h.isTree_write content).names_of_at? hfile name
      (hlocation ▸ List.mem_append_right here hmem)
  refine ⟨Path.hasNull_joinAll hnames, ?_⟩
  have harg' : (fs.write location content).locate arg = .ok here := by
    obtain hsame | ⟨hmissing, -⟩ := FileSystem.locate_write h.room content arg
    · exact hsame.trans harg
    · exact absurd (harg.symm.trans hmissing) (by simp)
  have hentry := FileSystem.entry_joinAll (e := .file file content) harg' hne hnames
    (by rw [hlocation]; exact hfile) (by simp)
  unfold FileSystem.read
  obtain hentry | hentry := hentry
  · exact .inl (by rw [hentry])
  · exact .inr (by rw [hentry])

/-- A scan after a file was written finds what it found before, and besides it only paths that lead
to the file. -/
theorem ofPaths_write (h : fs.root.IsPlace location) {args : List String} {scan : Scan}
    (hscan : ofPaths fs s args = .ok scan) (content : Bytes) :
    ∃ scan', ofPaths (fs.write location content) s args = .ok scan' ∧ scan.files ⊆ scan'.files ∧
      ∀ path ∈ scan'.files, path ∉ scan.files → Path.hasNull path = false ∧
        ∀ other, (fs.write location other).read (Path.normalize path) = .ok other ∨
          (fs.write location other).read (Path.normalize path) = .error .nameTooLong := by
  have hdirectory := isDirectory_write h.room content
  obtain ⟨scan', hscan'⟩ : ∃ scan', ofPaths (fs.write location content) s args = .ok scan' := by
    rw [exists_ofPaths_iff]
    simp only [hdirectory]
    exact exists_ofPaths_iff.mp ⟨scan, hscan⟩
  refine ⟨scan', hscan', ?_, ?_⟩
  · intro path hpath
    obtain ⟨arg, harg, hcovers⟩ := (mem_ofPaths hscan path).mp hpath
    refine (mem_ofPaths hscan' path).mpr ⟨arg, harg, ?_⟩
    rw [Covers, hdirectory]
    exact hcovers.imp_left fun hdirectory =>
      ⟨hdirectory.1, (mem_filesOf_write h content arg path).1 hdirectory.2⟩
  · intro path hpath hnew
    obtain ⟨arg, harg, hcovers⟩ := (mem_ofPaths hscan' path).mp hpath
    rw [Covers, hdirectory] at hcovers
    have hold : ¬ Covers fs s arg path :=
      fun hcovers => hnew ((mem_ofPaths hscan path).mpr ⟨arg, harg, hcovers⟩)
    obtain ⟨harg, hfound⟩ | hself := hcovers
    · obtain hfound | ⟨here, below, hhere, hne, hlocation, rfl⟩ :=
        (mem_filesOf_write h content arg path).2 hfound
      · exact absurd (.inl ⟨harg, hfound⟩) hold
      · have hread := read_joinAll h hhere hne hlocation
        refine ⟨?_, fun other => (hread other).2⟩
        rw [(hread []).1]
        exact (isDirectory_eq_true_iff.mp harg).1
    · exact absurd (.inr hself) hold

end Scan

end ScriptTags.Files
