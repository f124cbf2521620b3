import Mathlib.Data.List.Basic
import ScriptTags.Proofs.Files.Path
import ScriptTags.Proofs.Files.Tree

/-!
# Following paths

A path is followed name by name, so what it leads to is decided by what is found at the locations
on the way. Where a file is written, something is found that may not have been there before; paths
to other places lead where they did.
-/

namespace ScriptTags.Files

open Text (Bytes)

namespace Entry

theorem at?_concat {root : Entry} {here : Location} {own : String} {entries : List Entry}
    (h : root.at? here = some (.directory own entries)) (name : String) :
    root.at? (here ++ [name]) = named? entries name := by
  rw [at?_append, h, Option.bind_some, at?]
  cases named? entries name <;> rfl

theorem at?_append_cons {root e : Entry} {here : Location} {name : String} {rest : Location}
    (h : root.at? (here ++ name :: rest) = some e) :
    ∃ own entries child, root.at? here = some (.directory own entries) ∧
      named? entries name = some child ∧ child.at? rest = some e := by
  rw [at?_append, Option.bind_eq_some_iff] at h
  obtain ⟨directory, hdirectory, hbelow⟩ := h
  obtain ⟨own, entries, child, rfl, hchild, hrest⟩ := at?_cons hbelow
  exact ⟨own, entries, child, hdirectory, hchild, hrest⟩

section

variable {root : Entry} {location : Location}

theorem HasRoomAt.at?_self (h : root.HasRoomAt location) :
    root.at? location = none ∨ ∃ name content, root.at? location = some (.file name content) := by
  obtain ⟨here, name, own, entries, rfl, hdirectory, hfree⟩ := h
  rw [at?_concat hdirectory]
  cases hfound : named? entries name with
  | none => exact .inl rfl
  | some e =>
    obtain ⟨content, rfl⟩ := hfree e hfound
    exact .inr ⟨name, content, rfl⟩

theorem HasRoomAt.ne_of_directory (h : root.HasRoomAt location) {here : Location} {own : String}
    {entries : List Entry} (hdirectory : root.at? here = some (.directory own entries)) :
    here ≠ location := by
  rintro rfl
  obtain hself | ⟨name, content, hself⟩ := h.at?_self
  · exact absurd (hself.symm.trans hdirectory) (by simp)
  · exact absurd (hself.symm.trans hdirectory) (by simp)

theorem surface_eq_directory {e : Entry} {own : String} {entries : List Entry}
    (h : e.surface = (directory own entries).surface) : ∃ others, e = .directory own others := by
  cases e with
  | file | link => simp [surface] at h
  | directory name others =>
    simp only [surface, directory.injEq, and_true] at h
    exact ⟨others, by rw [h]⟩

theorem surface_eq_file {e : Entry} {name : String} {content : Bytes}
    (h : e.surface = (file name content).surface) : e = .file name content := by
  cases e <;> simp_all [surface]

theorem surface_eq_link {e : Entry} {name target : String}
    (h : e.surface = (link name target).surface) : e = .link name target := by
  cases e <;> simp_all [surface]

/-- After writing, every directory is still there, with entries that look as before except for the
file. -/
theorem HasRoomAt.directory_write (h : root.HasRoomAt location) (content : Bytes)
    {here : Location} {own : String} {entries : List Entry}
    (hdirectory : root.at? here = some (.directory own entries)) :
    ∃ others, (root.write content location).at? here = some (.directory own others) ∧
      ∀ name, here ++ [name] ≠ location →
        (named? others name).map surface = (named? entries name).map surface := by
  have hsurface := h.at?_write_of_ne content (h.ne_of_directory hdirectory)
  rw [hdirectory, Option.map_some, Option.map_eq_some_iff] at hsurface
  obtain ⟨e, he, hlook⟩ := hsurface
  obtain ⟨others, rfl⟩ := surface_eq_directory hlook
  refine ⟨others, he, ?_⟩
  intro name hname
  rw [← at?_concat he, ← at?_concat hdirectory]
  exact h.at?_write_of_ne content hname

theorem HasRoomAt.directory_write_iff (h : root.HasRoomAt location) (content : Bytes)
    (here : Location) :
    (∃ own entries, (root.write content location).at? here = some (.directory own entries)) ↔
      ∃ own entries, root.at? here = some (.directory own entries) := by
  constructor
  · rintro ⟨own, entries, hdirectory⟩
    have hne : here ≠ location := by
      rintro rfl
      obtain ⟨name, hfile⟩ := h.at?_write content
      exact absurd (hfile.symm.trans hdirectory) (by simp)
    have hsurface := h.at?_write_of_ne content hne
    rw [hdirectory, Option.map_some, eq_comm, Option.map_eq_some_iff] at hsurface
    obtain ⟨e, he, hlook⟩ := hsurface
    obtain ⟨others, rfl⟩ := surface_eq_directory hlook
    exact ⟨own, others, he⟩
  · rintro ⟨own, entries, hdirectory⟩
    obtain ⟨others, hothers, -⟩ := h.directory_write content hdirectory
    exact ⟨own, others, hothers⟩

end

end Entry

namespace FileSystem

open Entry

section

variable {root : Entry} {here : Location} {own name : String} {entries : List Entry}

theorem follow_nil (links : ℕ) : follow root links here [] = .ok here := by
  rw [follow]

theorem follow_here (h : root.at? here = some (.directory own entries)) (links : ℕ)
    (rest : List String) : follow root links here ("." :: rest) = follow root links here rest := by
  rw [follow, h]
  simp

theorem follow_above (h : root.at? here = some (.directory own entries)) (links : ℕ)
    (rest : List String) :
    follow root links here (".." :: rest) = follow root links here.dropLast rest := by
  rw [follow, h]
  simp

/-- A name that is looked up among the entries of a directory. -/
structure IsLookedUp (name : String) : Prop where
  notHere : name ≠ "."
  notAbove : name ≠ ".."
  short : ¬ maxNameBytes < name.utf8ByteSize

theorem follow_tooLong (h : root.at? here = some (.directory own entries)) (hhere : name ≠ ".")
    (habove : name ≠ "..") (hlong : maxNameBytes < name.utf8ByteSize) (links : ℕ)
    (rest : List String) : follow root links here (name :: rest) = .error .nameTooLong := by
  rw [follow, h]
  simp [hhere, habove, hlong]

theorem follow_missing (h : root.at? here = some (.directory own entries)) (hname : IsLookedUp name)
    (hmissing : named? entries name = none) (links : ℕ) (rest : List String) :
    follow root links here (name :: rest) = .error .missing := by
  rw [follow, h]
  simp [hname.notHere, hname.notAbove, hname.short, hmissing]

theorem follow_link {itself target : String} (h : root.at? here = some (.directory own entries))
    (hname : IsLookedUp name) (hlink : named? entries name = some (.link itself target))
    (links : ℕ) (rest : List String) :
    follow root (links + 1) here (name :: rest) =
      follow root links (if Path.isAbsolute target then [] else here)
        (Path.route target ++ rest) := by
  rw [follow, h]
  simp [hname.notHere, hname.notAbove, hname.short, hlink]

theorem follow_lastLink {itself target : String} (h : root.at? here = some (.directory own entries))
    (hname : IsLookedUp name) (hlink : named? entries name = some (.link itself target))
    (rest : List String) : follow root 0 here (name :: rest) = .error .tooManyLinks := by
  rw [follow, h]
  simp [hname.notHere, hname.notAbove, hname.short, hlink]

theorem follow_entry {e : Entry} (h : root.at? here = some (.directory own entries))
    (hname : IsLookedUp name) (hentry : named? entries name = some e)
    (hlink : ∀ itself target, e ≠ .link itself target) (links : ℕ) (rest : List String) :
    follow root links here (name :: rest) = follow root links (here ++ [name]) rest := by
  rw [follow, h]
  simp only [hname.notHere, hname.notAbove, hname.short, hentry, if_false]

theorem follow_file {file : Entry} (h : root.at? here = some file)
    (hfile : ∀ own entries, file ≠ .directory own entries) (links : ℕ) (rest : List String) :
    follow root links here (name :: rest) = .error .notDirectory := by
  rw [follow, h]
  split
  · rename_i hsome
    exact absurd (Option.some.inj hsome) (hfile _ _)
  · rfl
  · rename_i hnone
    exact absurd hnone (by simp)

theorem follow_nowhere (h : root.at? here = none) (links : ℕ) (rest : List String) :
    follow root links here (name :: rest) = .error .missing := by
  rw [follow, h]

theorem directory_of_follow {links : ℕ} {rest : List String} {there : Location}
    (h : follow root links here (name :: rest) = .ok there) :
    ∃ own entries, root.at? here = some (.directory own entries) := by
  cases hhere : root.at? here with
  | none => simp [follow_nowhere hhere] at h
  | some e =>
    cases e with
    | directory own entries => exact ⟨own, entries, rfl⟩
    | file | link => simp [follow_file hhere] at h

/-- Names are followed one after the other: the first of them fail whatever comes after, or lead to
a place from which the rest is followed, with no more links left. -/
theorem follow_append (root : Entry) (links : ℕ) (here : Location) (first : List String) :
    (∃ e, ∀ rest, follow root links here (first ++ rest) = .error e) ∨
      ∃ left ≤ links, ∃ there, ∀ rest,
        follow root links here (first ++ rest) = follow root left there rest := by
  fun_induction follow root links here first with
  | case1 links here => exact .inr ⟨links, Nat.le_refl links, here, fun _ => rfl⟩
  | case2 links here first _ _ hdirectory ih =>
    simpa only [List.cons_append, follow_here hdirectory] using ih
  | case3 links here first _ _ hdirectory _ ih =>
    simpa only [List.cons_append, follow_above hdirectory] using ih
  | case4 links here name first _ _ hdirectory hhere habove hlong =>
    exact .inl ⟨_, fun rest => follow_tooLong hdirectory hhere habove hlong links _⟩
  | case5 links here name first _ _ hdirectory hhere habove hshort hmissing =>
    exact .inl ⟨_, fun rest => follow_missing hdirectory ⟨hhere, habove, hshort⟩ hmissing links _⟩
  | case6 here name first _ _ hdirectory hhere habove hshort _ _ hlink =>
    exact .inl ⟨_, fun rest => follow_lastLink hdirectory ⟨hhere, habove, hshort⟩ hlink _⟩
  | case7 here name first _ _ hdirectory hhere habove hshort _ target hlink links ih =>
    simp only [List.cons_append, follow_link hdirectory ⟨hhere, habove, hshort⟩ hlink]
    simp only [dite_eq_ite, List.append_assoc] at ih
    refine ih.imp_right ?_
    rintro ⟨left, hleft, there, hleads⟩
    exact ⟨left, Nat.le_succ_of_le hleft, there, hleads⟩
  | case8 links here name first _ _ hdirectory hhere habove hshort e hlink hentry ih =>
    simpa only [List.cons_append, follow_entry hdirectory ⟨hhere, habove, hshort⟩ hentry
      (fun itself target he => hlink itself target he)] using ih
  | case9 links here name first e hfile hsome =>
    exact .inl ⟨_, fun rest => follow_file hsome hfile links _⟩
  | case10 links here name first hnone =>
    exact .inl ⟨_, fun rest => follow_nowhere hnone links _⟩

theorem follow_mono {links more : ℕ} {names : List String} {there : Location}
    (h : follow root links here names = .ok there) (hle : links ≤ more) :
    follow root more here names = .ok there := by
  fun_induction follow root links here names generalizing more with
  | case1 links here => rwa [follow_nil]
  | case2 links here rest _ _ hdirectory ih =>
    rw [follow_here hdirectory]
    exact ih h hle
  | case3 links here rest _ _ hdirectory _ ih =>
    rw [follow_above hdirectory]
    exact ih h hle
  | case4 | case5 | case6 | case9 | case10 => simp at h
  | case7 here name rest _ _ hdirectory hhere habove hshort _ target hlink links ih =>
    obtain ⟨more, rfl⟩ := Nat.exists_eq_succ_of_ne_zero (Nat.ne_zero_of_lt hle)
    rw [follow_link hdirectory ⟨hhere, habove, hshort⟩ hlink]
    simpa using ih (by simpa using h) (Nat.le_of_succ_le_succ hle)
  | case8 links here name rest _ _ hdirectory hhere habove hshort e hlink hentry ih =>
    rw [follow_entry hdirectory ⟨hhere, habove, hshort⟩ hentry
      (fun itself target he => hlink itself target he)]
    exact ih h hle

/-- A path that leads somewhere leads there without its single points too. -/
theorem follow_filter {links : ℕ} {names : List String} {there : Location}
    (h : follow root links here names = .ok there) :
    follow root links here (names.filter (· != ".")) = .ok there := by
  induction names generalizing links here with
  | nil => exact h
  | cons name rest ih =>
    by_cases hname : name = "."
    · obtain ⟨own, entries, hdirectory⟩ := directory_of_follow h
      rw [hname, follow_here hdirectory] at h
      simpa [hname] using ih h
    · -- The first name is followed by itself, so that the rest can be shortened behind it.
      have hfilter : (name :: rest).filter (· != ".") = [name] ++ rest.filter (· != ".") := by
        simp [hname]
      rw [← List.singleton_append] at h
      obtain ⟨e, hfails⟩ | ⟨left, -, next, hleads⟩ := follow_append root links here [name]
      · exact absurd (h.symm.trans (hfails rest)) (by simp)
      · rw [hleads] at h
        rw [hfilter, hleads]
        exact ih h

/-- The names from a directory to an entry below it lead to that entry, unless one of them is too
long. -/
theorem follow_down {e : Entry} {below : List String} (hnames : ∀ name ∈ below, Path.IsName name)
    (h : root.at? (here ++ below) = some e) (hlink : ∀ itself target, e ≠ .link itself target)
    (links : ℕ) :
    follow root links here below = .ok (here ++ below) ∨
      follow root links here below = .error .nameTooLong := by
  induction below generalizing here with
  | nil => exact .inl (by rw [follow_nil, List.append_nil])
  | cons name rest ih =>
    have hname := hnames name List.mem_cons_self
    obtain ⟨own, entries, child, hdirectory, hchild, hrest⟩ := at?_append_cons h
    by_cases hlong : maxNameBytes < name.utf8ByteSize
    · exact .inr (follow_tooLong hdirectory hname.notHere hname.notAbove hlong links rest)
    · have hchildLink : ∀ itself target, child ≠ .link itself target := by
        rintro itself target rfl
        cases rest with
        | nil => exact hlink itself target (Option.some.inj hrest).symm
        | cons => simp [at?] at hrest
      rw [follow_entry hdirectory ⟨hname.notHere, hname.notAbove, hlong⟩ hchild hchildLink,
        List.append_cons here name rest]
      refine ih (fun other hother => hnames other (.tail _ hother)) ?_
      rw [at?_append, at?_concat hdirectory, hchild]
      exact hrest

end

section

variable {root : Entry} {location : Location}

/-- The entry of a name after writing: the file if it is written there, and otherwise one that looks
as before. -/
theorem named?_write (h : root.HasRoomAt location) (content : Bytes) {here : Location}
    {own : String} {entries : List Entry}
    (hdirectory : root.at? here = some (.directory own entries)) :
    ∃ others, (root.write content location).at? here = some (.directory own others) ∧
      ∀ name, (here ++ [name] = location ∧
          (∃ file, named? others name = some (.file file content)) ∧
          ∀ e, named? entries name = some e → ∃ file old, e = .file file old) ∨
        (named? others name).map surface = (named? entries name).map surface := by
  obtain ⟨others, hothers, hlook⟩ := h.directory_write content hdirectory
  refine ⟨others, hothers, ?_⟩
  intro name
  by_cases hlocation : here ++ [name] = location
  · refine .inl ⟨hlocation, ?_, ?_⟩
    · rw [← at?_concat hothers, hlocation]
      exact h.at?_write content
    · intro e he
      rw [← at?_concat hdirectory, hlocation] at he
      obtain hself | ⟨file, old, hself⟩ := h.at?_self
      · exact absurd (hself.symm.trans he) (by simp)
      · exact ⟨file, old, Option.some.inj (he.symm.trans hself)⟩
  · exact .inr (hlook name hlocation)

theorem named?_write_link (h : root.HasRoomAt location) (content : Bytes) {here : Location}
    {own name itself target : String} {entries : List Entry}
    (hdirectory : root.at? here = some (.directory own entries))
    (hlink : named? entries name = some (.link itself target)) :
    ∃ others, (root.write content location).at? here = some (.directory own others) ∧
      named? others name = some (.link itself target) := by
  obtain ⟨others, hothers, hlook⟩ := named?_write h content hdirectory
  refine ⟨others, hothers, ?_⟩
  obtain ⟨-, -, hold⟩ | hsame := hlook name
  · obtain ⟨file, old, hfile⟩ := hold _ hlink
    exact absurd hfile (by simp)
  · rw [hlink, Option.map_some, Option.map_eq_some_iff] at hsame
    obtain ⟨e, he, hsurface⟩ := hsame
    rw [he, surface_eq_link hsurface]

/-- A path followed after a file was written leads where it led before. Only a path that led to
nothing may now lead to the file, or fail because the file is no directory. -/
theorem follow_write (h : root.HasRoomAt location) (content : Bytes) (links : ℕ) (here : Location)
    (names : List String) :
    follow (root.write content location) links here names = follow root links here names ∨
      follow root links here names = .error .missing ∧
        (follow (root.write content location) links here names = .ok location ∨
          follow (root.write content location) links here names = .error .notDirectory) := by
  fun_induction follow root links here names with
  | case1 links here => exact .inl (follow_nil links)
  | case2 links here rest _ _ hdirectory ih =>
    obtain ⟨others, hothers, -⟩ := h.directory_write content hdirectory
    rwa [follow_here hothers]
  | case3 links here rest _ _ hdirectory _ ih =>
    obtain ⟨others, hothers, -⟩ := h.directory_write content hdirectory
    rwa [follow_above hothers]
  | case4 links here name rest _ _ hdirectory hhere habove hlong =>
    obtain ⟨others, hothers, -⟩ := h.directory_write content hdirectory
    exact .inl (follow_tooLong hothers hhere habove hlong links rest)
  | case5 links here name rest _ entries hdirectory hhere habove hshort hmissing =>
    obtain ⟨others, hothers, hlook⟩ := named?_write h content hdirectory
    have hname : IsLookedUp name := ⟨hhere, habove, hshort⟩
    obtain ⟨hlocation, ⟨file, hfile⟩, -⟩ | hsame := hlook name
    · -- The name that was missing is now that of the file, which has nothing below it.
      refine .inr ⟨rfl, ?_⟩
      rw [follow_entry hothers hname hfile (by simp)]
      cases rest with
      | nil => exact .inl (hlocation ▸ follow_nil links)
      | cons next rest =>
        exact .inr (follow_file ((at?_concat hothers name).trans hfile) (by simp) links rest)
    · rw [hmissing, Option.map_none, Option.map_eq_none_iff] at hsame
      exact .inl (follow_missing hothers hname hsame links rest)
  | case6 here name rest _ entries hdirectory hhere habove hshort itself target hlink =>
    obtain ⟨others, hothers, hsame⟩ := named?_write_link h content hdirectory hlink
    exact .inl (follow_lastLink hothers ⟨hhere, habove, hshort⟩ hsame rest)
  | case7 here name rest _ entries hdirectory hhere habove hshort itself target hlink links ih =>
    obtain ⟨others, hothers, hsame⟩ := named?_write_link h content hdirectory hlink
    rw [follow_link hothers ⟨hhere, habove, hshort⟩ hsame links rest]
    simpa using ih
  | case8 links here name rest _ entries hdirectory hhere habove hshort e hlink hentry ih =>
    obtain ⟨others, hothers, hlook⟩ := named?_write h content hdirectory
    have hname : IsLookedUp name := ⟨hhere, habove, hshort⟩
    obtain ⟨-, ⟨file, hfile⟩, -⟩ | hsame := hlook name
    · rwa [follow_entry hothers hname hfile (by simp)]
    · rw [hentry, Option.map_some, Option.map_eq_some_iff] at hsame
      obtain ⟨e', he', hsurface⟩ := hsame
      rwa [follow_entry hothers hname he' ?_]
      rintro itself target rfl
      exact hlink itself target (surface_eq_link hsurface.symm)
  | case9 links here name rest e hfile hsome =>
    by_cases hlocation : here = location
    · obtain ⟨file, hwritten⟩ := h.at?_write content
      rw [hlocation]
      exact .inl (follow_file hwritten (by simp) links rest)
    · have hsurface := h.at?_write_of_ne content hlocation
      rw [hsome, Option.map_some, Option.map_eq_some_iff] at hsurface
      obtain ⟨e', he', hsame⟩ := hsurface
      refine .inl (follow_file he' ?_ links rest)
      rintro own entries rfl
      obtain ⟨others, rfl⟩ := surface_eq_directory hsame.symm
      exact hfile own others rfl
  | case10 links here name rest hnone =>
    by_cases hlocation : here = location
    · obtain ⟨file, hwritten⟩ := h.at?_write content
      rw [hlocation]
      exact .inr ⟨rfl, .inr (follow_file hwritten (by simp) links rest)⟩
    · have hsurface := h.at?_write_of_ne content hlocation
      rw [hnone, Option.map_none, Option.map_eq_none_iff] at hsurface
      exact .inl (follow_nowhere hsurface links rest)

theorem followToWrite_write (content : Bytes) {links : ℕ} {here : Location} {slash : Bool}
    {names : List String} (h : followToWrite root links here slash names = .ok location) :
    followToWrite (root.write content location) links here slash names = .ok location := by
  have hroom := hasRoomAt_of_followToWrite h
  fun_induction followToWrite root links here slash names with
  | case1 | case2 | case5 | case7 | case8 | case12 | case13 | case14 => simp at h
  | case3 links here slash rest _ _ hdirectory hslash ih =>
    obtain ⟨others, hothers, -⟩ := hroom.directory_write content hdirectory
    rw [followToWrite, hothers]
    simpa [hslash] using ih h
  | case4 links here slash rest _ _ hdirectory hslash _ ih =>
    obtain ⟨others, hothers, -⟩ := hroom.directory_write content hdirectory
    rw [followToWrite, hothers]
    simpa [hslash] using ih h
  | case6 links here slash name rest _ entries hdirectory hslash hhere habove hshort hmissing
      hrest =>
    obtain rfl := List.isEmpty_iff.mp hrest
    obtain ⟨others, hothers, hlook⟩ := named?_write hroom content hdirectory
    have hend : slash = false := by simpa using hslash
    obtain ⟨-, ⟨file, hfile⟩, -⟩ | hsame := hlook name
    · rw [followToWrite, hothers]
      simpa [hend, hhere, habove, hshort, hfile] using h
    · rw [hmissing, Option.map_none, Option.map_eq_none_iff] at hsame
      rw [followToWrite, hothers]
      simpa [hend, hhere, habove, hshort, hsame] using h
  | case9 here slash name rest _ entries hdirectory hslash hhere habove hshort itself target hlink
      links ih =>
    obtain ⟨others, hothers, hsame⟩ := named?_write_link hroom content hdirectory hlink
    rw [followToWrite, hothers]
    simpa [hslash, hhere, habove, hshort, hsame] using ih (by simpa using h)
  | case10 links here slash name rest _ entries hdirectory hslash hhere habove hshort own below
      hentry ih =>
    obtain ⟨others, hothers, hlook⟩ := named?_write hroom content hdirectory
    obtain ⟨-, -, hold⟩ | hsame := hlook name
    · obtain ⟨file, old, hfile⟩ := hold _ hentry
      exact absurd hfile (by simp)
    · rw [hentry, Option.map_some, Option.map_eq_some_iff] at hsame
      obtain ⟨e, he, hsurface⟩ := hsame
      obtain ⟨others', rfl⟩ := surface_eq_directory hsurface
      rw [followToWrite, hothers]
      simpa [hslash, hhere, habove, hshort, he] using ih h
  | case11 links here slash name rest _ entries hdirectory hslash hhere habove hshort own old
      hentry hrest =>
    obtain rfl := List.isEmpty_iff.mp hrest
    obtain ⟨others, hothers, hlook⟩ := named?_write hroom content hdirectory
    have hend : slash = false := by simpa using hslash
    obtain ⟨-, ⟨file, hfile⟩, -⟩ | hsame := hlook name
    · rw [followToWrite, hothers]
      simpa [hend, hhere, habove, hshort, hfile] using h
    · rw [hentry, Option.map_some, Option.map_eq_some_iff] at hsame
      obtain ⟨e, he, hsurface⟩ := hsame
      obtain rfl := surface_eq_file hsurface
      rw [followToWrite, hothers]
      simpa [hend, hhere, habove, hshort, he] using h

end

section

variable {fs : FileSystem} {location : Location}

theorem entry_eq_ok_iff {path : String} {e : Entry} :
    fs.entry path = .ok e ↔ ∃ there, fs.locate path = .ok there ∧ fs.root.at? there = some e := by
  unfold entry
  cases fs.locate path with
  | error => simp
  | ok there => cases hthere : fs.root.at? there <;> simp [hthere]

theorem entry_eq_nameTooLong_iff {path : String} :
    fs.entry path = .error .nameTooLong ↔ fs.locate path = .error .nameTooLong := by
  unfold entry
  cases fs.locate path with
  | error => simp
  | ok there => cases hthere : fs.root.at? there <;> simp [hthere]

theorem locate_write (h : fs.root.HasRoomAt location) (content : Bytes) (path : String) :
    (fs.write location content).locate path = fs.locate path ∨
      fs.locate path = .error .missing ∧
        ((fs.write location content).locate path = .ok location ∨
          (fs.write location content).locate path = .error .notDirectory) := by
  unfold locate
  split_ifs
  · exact .inl rfl
  · exact .inl rfl
  · exact follow_write h content maxLinks (fs.start path) (Path.route path)

theorem locateToWrite_write {path : String} (h : fs.locateToWrite path = .ok location)
    (content : Bytes) : (fs.write location content).locateToWrite path = .ok location := by
  unfold locateToWrite at h ⊢
  split_ifs at h ⊢
  exact followToWrite_write content h

/-- Writing a file keeps apart what leads to a directory, what is too long, and the rest. -/
theorem entry_write (h : fs.root.HasRoomAt location) (content : Bytes) (path : String) :
    ((∃ own entries, (fs.write location content).entry path = .ok (.directory own entries)) ↔
      ∃ own entries, fs.entry path = .ok (.directory own entries)) ∧
    ((fs.write location content).entry path = .error .nameTooLong ↔
      fs.entry path = .error .nameTooLong) := by
  simp only [entry_eq_nameTooLong_iff, entry_eq_ok_iff]
  have hdirectories : ∀ there, (∃ own entries,
      (fs.write location content).root.at? there = some (.directory own entries)) ↔
        ∃ own entries, fs.root.at? there = some (.directory own entries) :=
    h.directory_write_iff content
  obtain hsame | ⟨hmissing, hfound | hfound⟩ := locate_write h content path
  · rw [hsame]
    refine ⟨?_, Iff.rfl⟩
    constructor
    · rintro ⟨own, entries, there, hthere, hdirectory⟩
      obtain ⟨own, entries, hdirectory⟩ := (hdirectories there).mp ⟨own, entries, hdirectory⟩
      exact ⟨own, entries, there, hthere, hdirectory⟩
    · rintro ⟨own, entries, there, hthere, hdirectory⟩
      obtain ⟨own, entries, hdirectory⟩ := (hdirectories there).mpr ⟨own, entries, hdirectory⟩
      exact ⟨own, entries, there, hthere, hdirectory⟩
  · -- The path leads to the file, which is no directory.
    obtain ⟨name, hfile⟩ := h.at?_write content
    have hwritten : (fs.write location content).root.at? location = some (.file name content) :=
      hfile
    simp [hmissing, hfound, hwritten]
  · simp [hmissing, hfound]

/-- A path below a directory is followed from there, with no more links than at the start, unless
the path is too long. -/
theorem locate_joinAll {directory : String} {there : Location} {below : List String}
    (hdirectory : fs.locate directory = .ok there) (hne : below ≠ [])
    (hnames : ∀ name ∈ below, Path.IsName name) :
    fs.locate (Path.normalize (Path.joinAll directory below)) = .error .nameTooLong ∨
      ∃ left ≤ maxLinks, fs.locate (Path.normalize (Path.joinAll directory below)) =
        follow fs.root left there below := by
  have hbelow : below.filter (· != ".") = below := by
    rw [List.filter_eq_self]
    intro name hname
    exact bne_iff_ne.mpr (hnames name hname).notHere
  have hkept : (Path.names (Path.joinAll directory below)).filter (· != ".") =
      (Path.names directory).filter (· != ".") ++ below := by
    rw [Path.names_joinAll hnames, List.filter_append, hbelow]
  obtain ⟨hnonempty, habsolute, hroute⟩ := Path.route_normalize
    (hkept ▸ List.append_ne_nil_of_right_ne_nil _ hne)
  rw [hkept] at hroute
  have hstart : fs.start (Path.normalize (Path.joinAll directory below)) = fs.start directory := by
    rw [start, habsolute, Path.isAbsolute_joinAll hnames, start]
  have hroot : follow fs.root maxLinks (fs.start directory)
      ((Path.names directory).filter (· != ".")) = .ok there := by
    unfold locate at hdirectory
    split_ifs at hdirectory
    have hfilter := follow_filter hdirectory
    rw [Path.route, List.filter_append] at hfilter
    split_ifs at hfilter <;> simpa using hfilter
  rw [locate, if_neg hnonempty, hstart, hroute]
  split_ifs
  · exact .inl rfl
  · obtain ⟨e, hfails⟩ | ⟨left, hleft, next, hleads⟩ := follow_append fs.root maxLinks
      (fs.start directory) ((Path.names directory).filter (· != "."))
    · have := hfails []
      rw [List.append_nil, hroot] at this
      exact absurd this (by simp)
    · have hnext := hleads []
      rw [List.append_nil, hroot, follow_nil, Except.ok.injEq] at hnext
      exact .inr ⟨left, hleft, by rw [hleads, hnext]⟩

/-- The last name of a path below a directory is looked up where the others lead down to, with no
more links than at the start, unless the path is too long. -/
theorem locate_joinAll_last {directory name own : String} {there : Location} {below : List String}
    {entries : List Entry} (hdirectory : fs.locate directory = .ok there)
    (hnames : ∀ other ∈ below ++ [name], Path.IsName other)
    (hbelow : fs.root.at? (there ++ below) = some (.directory own entries)) :
    fs.locate (Path.normalize (Path.joinAll directory (below ++ [name]))) = .error .nameTooLong ∨
      ∃ left ≤ maxLinks, fs.locate (Path.normalize (Path.joinAll directory (below ++ [name]))) =
        follow fs.root left (there ++ below) [name] := by
  rcases locate_joinAll hdirectory (by simp) hnames with hlong | ⟨left, hleft, hpath⟩
  · exact .inl hlong
  have hdown := follow_down (fun other hother => hnames other (List.mem_append_left _ hother))
    hbelow (by simp) left
  rw [hpath]
  rcases follow_append fs.root left there below with ⟨e, hfails⟩ | ⟨fewer, hfewer, next, hleads⟩
  · have hnone := hfails []
    rw [List.append_nil] at hnone
    rw [hfails]
    rcases hdown with hdown | hdown
    · exact absurd (hdown.symm.trans hnone) (by simp)
    · exact .inl (hnone.symm.trans hdown)
  · have hnext := hleads []
    rw [List.append_nil, follow_nil] at hnext
    rcases hdown with hdown | hdown
    · obtain rfl := Except.ok.inj (hdown.symm.trans hnext)
      exact .inr ⟨fewer, Nat.le_trans hfewer hleft, hleads [name]⟩
    · exact absurd (hdown.symm.trans hnext) (by simp)

/-- The path of an entry below a directory leads to it, unless it or a name in it is too long. -/
theorem entry_joinAll {directory : String} {there : Location} {below : List String} {e : Entry}
    (hdirectory : fs.locate directory = .ok there) (hne : below ≠ [])
    (hnames : ∀ name ∈ below, Path.IsName name) (h : fs.root.at? (there ++ below) = some e)
    (hlink : ∀ itself target, e ≠ .link itself target) :
    fs.entry (Path.normalize (Path.joinAll directory below)) = .ok e ∨
      fs.entry (Path.normalize (Path.joinAll directory below)) = .error .nameTooLong := by
  rw [entry_eq_ok_iff, entry_eq_nameTooLong_iff]
  obtain hlong | ⟨left, -, hleads⟩ := locate_joinAll hdirectory hne hnames
  · exact .inr hlong
  · rw [hleads]
    obtain hfollow | hfollow := follow_down hnames h hlink left
    · exact .inl ⟨_, hfollow, h⟩
    · exact .inr hfollow

theorem Wrote.read_of_ne {fs' : FileSystem} {content old : Bytes}
    (h : fs.Wrote location content fs') {name own : String} (hname : IsEntryName name)
    (hold : fs.root.at? (fs.workingDirectory ++ [name]) = some (.file own old))
    (hne : fs.workingDirectory ++ [name] ≠ location) : fs'.read name = .ok old := by
  have hsurface := h.elsewhere _ hne
  rw [hold, Option.map_some, Option.map_eq_some_iff] at hsurface
  obtain ⟨e, he, hlook⟩ := hsurface
  rw [surface_eq_file hlook, ← h.workingDirectory] at he
  exact hname.read he

end

end FileSystem

end ScriptTags.Files
