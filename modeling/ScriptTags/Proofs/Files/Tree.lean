import Mathlib.Data.List.Basic
import ScriptTags.Files.Tree

/-!
# Files at locations

A path that can be written leads to a place in an existing directory, where there is a file or
nothing. Writing puts the file there, and what is found at every other location stays as it was. A
path that is a single name leads to the entry of that name in the working directory.
-/

namespace ScriptTags.Files

open Text (Bytes)

theorem name_of_named? {entries : List Entry} {name : String} {e : Entry}
    (h : named? entries name = some e) : e.name = name := by
  simpa using List.find?_some h

theorem named?_map {f : Entry → Entry} (hf : ∀ e, (f e).name = e.name) (entries : List Entry)
    (name : String) : named? (entries.map f) name = (named? entries name).map f := by
  rw [named?, List.find?_map]
  simp only [Function.comp_def, hf]
  rfl

namespace Entry

/-- An entry as it is seen from outside: a directory without its entries. -/
def surface : Entry → Entry
  | .directory name _ => .directory name []
  | e => e

@[simp] theorem name_write (content : Bytes) (location : Location) (e : Entry) :
    (e.write content location).name = e.name := by
  rcases location with _ | ⟨name, _ | ⟨next, rest⟩⟩ <;> cases e <;> rfl

@[simp] theorem name_file (name : String) (content : Bytes) : (file name content).name = name := rfl

theorem named?_putFile (name : String) (content : Bytes) (entries : List Entry) (other : String) :
    named? (putFile name content entries) other =
      if other = name then some (.file name content) else named? entries other := by
  have hkeeps : ∀ e : Entry, (if e.name == name then file name content else e).name = e.name := by
    intro e
    split_ifs with h
    · exact (beq_iff_eq.mp h).symm
    · rfl
  by_cases hany : entries.any (·.name == name)
  · rw [putFile, if_pos hany, named?_map hkeeps]
    cases hfound : named? entries other with
    | none =>
      have hnone : ∀ e ∈ entries, e.name ≠ other := by simpa [named?] using hfound
      obtain ⟨e, he, hname⟩ := List.any_eq_true.mp hany
      rw [if_neg fun h => hnone e he ((beq_iff_eq.mp hname).trans h.symm)]
      rfl
    | some e =>
      rw [← name_of_named? hfound]
      simp only [Option.map_some, beq_iff_eq, apply_ite some]
  · have hnone : named? entries name = none := by
      rw [named?, List.find?_eq_none]
      intro e he hname
      exact hany (List.any_eq_true.mpr ⟨e, he, hname⟩)
    rw [putFile, if_neg hany, named?, List.find?_append, ← named?]
    by_cases h : other = name
    · simp [h, hnone]
    · rw [if_neg h]
      cases named? entries other with
      | none => simpa using Ne.symm h
      | some e => rfl

theorem putFile_putFile (name : String) (first second : Bytes) (entries : List Entry) :
    putFile name second (putFile name first entries) = putFile name second entries := by
  by_cases hany : entries.any (·.name == name)
  · have hstill : (putFile name first entries).any (·.name == name) := by
      rw [putFile, if_pos hany, List.any_map]
      obtain ⟨e, he, hname⟩ := List.any_eq_true.mp hany
      exact List.any_eq_true.mpr ⟨e, he, by simp [beq_iff_eq.mp hname]⟩
    rw [putFile, if_pos hstill, putFile, if_pos hany, putFile, if_pos hany, List.map_map]
    apply List.map_congr_left
    intro e _
    by_cases hname : e.name = name <;> simp [hname]
  · have hnone : ∀ e ∈ entries, e.name ≠ name := by simpa using hany
    have hmap :
        (entries.map fun e => if e.name == name then file name second else e) = entries := by
      refine (List.map_congr_left fun e he => ?_).trans (List.map_id entries)
      simp [hnone e he]
    rw [putFile, putFile, if_neg hany, if_pos (by simp), List.map_append, hmap, putFile,
      if_neg hany]
    simp

theorem write_write (root : Entry) (location : Location) (first second : Bytes) :
    (root.write first location).write second location = root.write second location := by
  induction location generalizing root with
  | nil => cases root <;> rfl
  | cons name rest ih =>
    cases root with
    | file | link => cases rest <;> rfl
    | directory own entries =>
      cases rest with
      | nil => rw [write, write, write, putFile_putFile]
      | cons next rest =>
        rw [write, write, write, List.map_map]
        congr 1
        apply List.map_congr_left
        intro e _
        by_cases hname : e.name = name <;> simp [hname, ih]

/-- A file can be put at the location: its directory is there and has a file of that name or
nothing. -/
def HasRoomAt (root : Entry) (location : Location) : Prop :=
  ∃ here name own entries, location = here ++ [name] ∧
    root.at? here = some (.directory own entries) ∧
    ∀ e, named? entries name = some e → ∃ content, e = .file name content

theorem at?_cons {name : String} {rest : Location} {root e : Entry}
    (h : root.at? (name :: rest) = some e) :
    ∃ own entries child, root = .directory own entries ∧ named? entries name = some child ∧
      child.at? rest = some e := by
  cases root with
  | file | link => simp [at?] at h
  | directory own entries =>
    rw [at?, Option.bind_eq_some_iff] at h
    obtain ⟨child, hchild, hrest⟩ := h
    exact ⟨own, entries, child, rfl, hchild, hrest⟩

theorem at?_append (root : Entry) (here rest : Location) :
    root.at? (here ++ rest) = (root.at? here).bind (at? rest) := by
  induction here generalizing root with
  | nil => rfl
  | cons name here ih =>
    cases root with
    | file | link => rfl
    | directory own entries =>
      rw [List.cons_append, at?, at?]
      cases named? entries name with
      | none => rfl
      | some child => exact ih child

theorem at?_write_cons (content : Bytes) (name next : String) (rest : Location) (own : String)
    (entries : List Entry) (other : String) (below : Location) :
    (write content (name :: next :: rest) (.directory own entries)).at? (other :: below) =
      (named? entries other).bind fun e =>
        (if other = name then write content (next :: rest) e else e).at? below := by
  have hkeeps : ∀ e : Entry,
      (if e.name == name then write content (next :: rest) e else e).name = e.name := by
    intro e
    split_ifs
    · exact name_write _ _ e
    · rfl
  rw [write, at?, named?_map hkeeps]
  cases hfound : named? entries other with
  | none => rfl
  | some e =>
    rw [← name_of_named? hfound]
    simp

theorem HasRoomAt.at?_write {root : Entry} {location : Location} (h : root.HasRoomAt location)
    (content : Bytes) :
    ∃ name, (root.write content location).at? location = some (.file name content) := by
  obtain ⟨here, name, own, entries, rfl, hdirectory, -⟩ := h
  refine ⟨name, ?_⟩
  induction here generalizing root with
  | nil =>
    rw [at?, Option.some.injEq] at hdirectory
    subst hdirectory
    simp [write, at?, named?_putFile]
  | cons first here ih =>
    obtain ⟨parent, siblings, child, rfl, hchild, hbelow⟩ := at?_cons hdirectory
    obtain ⟨next, rest, hrest⟩ := List.exists_cons_of_ne_nil (List.append_ne_nil_of_right_ne_nil
      here (List.cons_ne_nil name []))
    rw [List.cons_append, hrest, at?_write_cons, hchild, Option.bind_some, if_pos rfl, ← hrest]
    exact ih hbelow

theorem HasRoomAt.at?_write_of_ne {root : Entry} {location : Location} (h : root.HasRoomAt location)
    (content : Bytes) {other : Location} (hother : other ≠ location) :
    ((root.write content location).at? other).map surface = (root.at? other).map surface := by
  obtain ⟨here, name, own, entries, rfl, hdirectory, hfree⟩ := h
  induction here generalizing root other with
  | nil =>
    rw [at?, Option.some.injEq] at hdirectory
    subst hdirectory
    cases other with
    | nil => rfl
    | cons first below =>
      rw [List.nil_append, write, at?, at?, named?_putFile]
      by_cases hfirst : first = name
      · -- Nothing is below the file, neither before nor after.
        obtain ⟨next, rest, rfl⟩ := List.exists_cons_of_ne_nil (l := below) fun hnil =>
          hother (by rw [hfirst, hnil]; rfl)
        rw [if_pos hfirst, hfirst]
        cases hfound : named? entries name with
        | none => rfl
        | some e =>
          obtain ⟨old, rfl⟩ := hfree e hfound
          rfl
      · rw [if_neg hfirst]
  | cons first here ih =>
    obtain ⟨parent, siblings, child, rfl, hchild, hbelow⟩ := at?_cons hdirectory
    obtain ⟨next, rest, hrest⟩ := List.exists_cons_of_ne_nil (List.append_ne_nil_of_right_ne_nil
      here (List.cons_ne_nil name []))
    rw [List.cons_append, hrest]
    cases other with
    | nil => rfl
    | cons second below =>
      rw [at?_write_cons, at?]
      by_cases hsecond : second = first
      · subst hsecond
        rw [hchild, Option.bind_some, Option.bind_some, if_pos rfl, ← hrest]
        exact ih (fun hsame => hother (by rw [hsame, List.cons_append])) hbelow
      · simp only [if_neg hsecond]

end Entry

namespace FileSystem

/-- What writing a file is to do. -/
structure Wrote (fs : FileSystem) (location : Location) (content : Bytes) (fs' : FileSystem) :
    Prop where
  workingDirectory : fs'.workingDirectory = fs.workingDirectory
  written : ∃ name, fs'.root.at? location = some (.file name content)
  elsewhere : ∀ other, other ≠ location →
    (fs'.root.at? other).map Entry.surface = (fs.root.at? other).map Entry.surface

theorem write_write (fs : FileSystem) (location : Location) (first second : Bytes) :
    (fs.write location first).write location second = fs.write location second := by
  simp only [write, Entry.write_write]

theorem wrote_write {fs : FileSystem} {location : Location} (h : fs.root.HasRoomAt location)
    (content : Bytes) : fs.Wrote location content (fs.write location content) where
  workingDirectory := rfl
  written := h.at?_write content
  elsewhere _ hother := h.at?_write_of_ne content hother

theorem hasRoomAt_of_followToWrite {root : Entry} {links : ℕ} {here : Location} {slash : Bool}
    {names : List String} {location : Location}
    (h : followToWrite root links here slash names = .ok location) : root.HasRoomAt location := by
  fun_induction followToWrite root links here slash names with
  | case1 | case2 | case5 | case7 | case8 | case12 | case13 | case14 => simp at h
  | case3 _ _ _ _ _ _ _ _ ih => exact ih h
  | case4 _ _ _ _ _ _ _ _ _ ih => exact ih h
  | case6 _ here _ name _ own entries hdirectory _ _ _ _ hfree =>
    rw [Except.ok.injEq] at h
    refine ⟨here, name, own, entries, h.symm, hdirectory, ?_⟩
    simp [hfree]
  | case9 _ _ _ _ _ _ _ _ _ _ _ _ _ _ _ ih => exact ih (by simpa using h)
  | case10 _ _ _ _ _ _ _ _ _ _ _ _ _ _ _ ih => exact ih h
  | case11 _ here _ name _ own entries hdirectory _ _ _ _ _ content hfound =>
    rw [Except.ok.injEq] at h
    refine ⟨here, name, own, entries, h.symm, hdirectory, ?_⟩
    intro e he
    rw [hfound, Option.some.injEq] at he
    subst he
    exact ⟨content, by rw [← name_of_named? hfound]; rfl⟩

theorem hasRoomAt_of_locateToWrite {fs : FileSystem} {path : String} {location : Location}
    (h : fs.locateToWrite path = .ok location) : fs.root.HasRoomAt location := by
  unfold locateToWrite at h
  split_ifs at h
  exact hasRoomAt_of_followToWrite h

/-- A name that leads from the working directory to the entry of that name. -/
structure IsEntryName (name : String) : Prop where
  route : Path.route name = [name]
  relative : Path.isAbsolute name = false
  nonempty : name ≠ ""
  short : name.utf8ByteSize ≤ maxNameBytes
  notHere : name ≠ "."
  notAbove : name ≠ ".."

namespace IsEntryName

variable {fs : FileSystem} {name own : String} {content : Bytes}

theorem names (hname : IsEntryName name) :
    Path.names name = [name] ∧ Path.endsWithSlash name = false := by
  have hroute := hname.route
  unfold Path.route at hroute
  split_ifs at hroute with hslash
  · have hlast := congrArg List.getLast? hroute
    simp only [List.getLast?_concat, List.getLast?_singleton, Option.some.injEq] at hlast
    exact absurd hlast.symm hname.notHere
  · exact ⟨by rwa [List.append_nil] at hroute, by simpa using hslash⟩

theorem not_tooLong (hname : IsEntryName name) : ¬ maxPathBytes < name.utf8ByteSize := by
  have := hname.short
  simp only [maxNameBytes, maxPathBytes] at this ⊢
  omega

theorem at?_workingDirectory
    (h : fs.root.at? (fs.workingDirectory ++ [name]) = some (.file own content)) :
    ∃ parent entries, fs.root.at? fs.workingDirectory = some (.directory parent entries) ∧
      named? entries name = some (.file own content) := by
  rw [Entry.at?_append, Option.bind_eq_some_iff] at h
  obtain ⟨directory, hdirectory, hfile⟩ := h
  obtain ⟨parent, entries, child, rfl, hchild, hself⟩ := Entry.at?_cons hfile
  rw [Entry.at?, Option.some.injEq] at hself
  exact ⟨parent, entries, hdirectory, hself ▸ hchild⟩

theorem entry (hname : IsEntryName name)
    (h : fs.root.at? (fs.workingDirectory ++ [name]) = some (.file own content)) :
    fs.entry name = .ok (.file own content) := by
  obtain ⟨parent, entries, hdirectory, hfile⟩ := at?_workingDirectory h
  have hlocate : fs.locate name = .ok (fs.workingDirectory ++ [name]) := by
    rw [locate, if_neg hname.nonempty, if_neg hname.not_tooLong, start, hname.relative,
      hname.route]
    simp [follow, hdirectory, hname.notHere, hname.notAbove, hname.short, hfile]
  simp only [FileSystem.entry, hlocate, h]

theorem read (hname : IsEntryName name)
    (h : fs.root.at? (fs.workingDirectory ++ [name]) = some (.file own content)) :
    fs.read name = .ok content := by
  simp only [FileSystem.read, hname.entry h]

theorem locateToWrite (hname : IsEntryName name)
    (h : fs.root.at? (fs.workingDirectory ++ [name]) = some (.file own content)) :
    fs.locateToWrite name = .ok (fs.workingDirectory ++ [name]) := by
  obtain ⟨parent, entries, hdirectory, hfile⟩ := at?_workingDirectory h
  rw [FileSystem.locateToWrite, if_neg hname.nonempty, if_neg hname.not_tooLong, start,
    hname.relative, hname.names.1, hname.names.2]
  simp [followToWrite, hdirectory, hname.notHere, hname.notAbove, hname.short, hfile]

theorem locateToWrite_new (hname : IsEntryName name) {entries : List Entry}
    (hdirectory : fs.root.at? fs.workingDirectory = some (.directory own entries))
    (hnew : named? entries name = none) :
    fs.locateToWrite name = .ok (fs.workingDirectory ++ [name]) := by
  rw [FileSystem.locateToWrite, if_neg hname.nonempty, if_neg hname.not_tooLong, start,
    hname.relative, hname.names.1, hname.names.2]
  simp [followToWrite, hdirectory, hname.notHere, hname.notAbove, hname.short, hnew]

end IsEntryName

theorem Wrote.read {fs fs' : FileSystem} {name : String} {content : Bytes}
    (h : fs.Wrote (fs.workingDirectory ++ [name]) content fs') (hname : IsEntryName name) :
    fs'.read name = .ok content := by
  obtain ⟨own, hwritten⟩ := h.written
  rw [← h.workingDirectory] at hwritten
  exact hname.read hwritten

end FileSystem

end ScriptTags.Files
