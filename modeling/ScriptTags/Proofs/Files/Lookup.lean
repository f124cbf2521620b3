import ScriptTags.Proofs.Files.Follow

/-!
# What is looked at on the way

Following names looks at one location after the other. So names lead to the same place in two trees
that have the same at all of these locations, whatever they have elsewhere. From above a location
nothing below it is reached without looking at it.
-/

namespace ScriptTags.Files

namespace Entry

/-- Both trees have the same at a location, apart from what is below it. -/
def SameAt (root root' : Entry) (here : Location) : Prop :=
  (root'.at? here).map surface = (root.at? here).map surface

variable {root root' e : Entry} {here : Location}

theorem SameAt.of_some (h : SameAt root root' here) (he : root.at? here = some e) :
    ∃ e', root'.at? here = some e' ∧ e'.surface = e.surface := by
  rw [SameAt, he, Option.map_some, Option.map_eq_some_iff] at h
  exact h

theorem SameAt.of_none (h : SameAt root root' here) (hnone : root.at? here = none) :
    root'.at? here = none := by
  rwa [SameAt, hnone, Option.map_none, Option.map_eq_none_iff] at h

theorem SameAt.directory (h : SameAt root root' here) {own : String} {entries : List Entry}
    (hdirectory : root.at? here = some (.directory own entries)) :
    ∃ others, root'.at? here = some (.directory own others) := by
  obtain ⟨e, he, hsurface⟩ := h.of_some hdirectory
  obtain ⟨others, rfl⟩ := surface_eq_directory hsurface
  exact ⟨others, he⟩

theorem SameAt.link (h : SameAt root root' here) {itself target : String}
    (hlink : root.at? here = some (.link itself target)) :
    root'.at? here = some (.link itself target) := by
  obtain ⟨e, he, hsurface⟩ := h.of_some hlink
  rw [he, surface_eq_link hsurface]

end Entry

namespace FileSystem

open Entry

/-- Following names looks at a location, if so many links may be followed. -/
inductive LooksAt (root : Entry) (place : Location) : ℕ → Location → List String → Prop
  /-- The location where names begin is looked at. -/
  | start {links here names} (hplace : place = here) : LooksAt root place links here names
  /-- A name is looked up in a directory. -/
  | entry {links here name rest own entries}
      (hdirectory : root.at? here = some (.directory own entries)) (hhere : name ≠ ".")
      (habove : name ≠ "..") (hplace : place = here ++ [name]) :
      LooksAt root place links here (name :: rest)
  | here {links here name rest own entries}
      (hdirectory : root.at? here = some (.directory own entries)) (hname : name = ".")
      (h : LooksAt root place links here rest) : LooksAt root place links here (name :: rest)
  | above {links here name rest own entries}
      (hdirectory : root.at? here = some (.directory own entries)) (hname : name = "..")
      (h : LooksAt root place links here.dropLast rest) :
      LooksAt root place links here (name :: rest)
  | down {links here name rest e} (hhere : name ≠ ".") (habove : name ≠ "..")
      (hentry : root.at? (here ++ [name]) = some e)
      (hlink : ∀ itself target, e ≠ .link itself target)
      (h : LooksAt root place links (here ++ [name]) rest) :
      LooksAt root place links here (name :: rest)
  | link {links here name rest itself target} (hhere : name ≠ ".") (habove : name ≠ "..")
      (hlink : root.at? (here ++ [name]) = some (.link itself target))
      (h : LooksAt root place links (if Path.isAbsolute target then [] else here)
        (Path.route target ++ rest)) : LooksAt root place (links + 1) here (name :: rest)

variable {root root' : Entry} {links : ℕ} {here : Location} {names : List String}

/-- Names lead to the same place in trees that have the same at all locations on the way. -/
theorem follow_congr (h : ∀ place, LooksAt root place links here names → SameAt root root' place) :
    follow root' links here names = follow root links here names := by
  fun_induction follow root links here names with
  | case1 links here => exact follow_nil links
  | case2 links here rest _ _ hdirectory ih =>
    obtain ⟨others, hothers⟩ := (h here (.start rfl)).directory hdirectory
    rw [follow_here hothers]
    exact ih fun place hplace => h place (.here hdirectory rfl hplace)
  | case3 links here rest _ _ hdirectory _ ih =>
    obtain ⟨others, hothers⟩ := (h here (.start rfl)).directory hdirectory
    rw [follow_above hothers]
    exact ih fun place hplace => h place (.above hdirectory rfl hplace)
  | case4 links here name rest _ _ hdirectory hhere habove hlong =>
    obtain ⟨others, hothers⟩ := (h here (.start rfl)).directory hdirectory
    exact follow_tooLong hothers hhere habove hlong links rest
  | case5 links here name rest _ entries hdirectory hhere habove hshort hmissing =>
    obtain ⟨others, hothers⟩ := (h here (.start rfl)).directory hdirectory
    have hnone := (h _ (.entry hdirectory hhere habove rfl)).of_none
      ((at?_concat hdirectory name).trans hmissing)
    rw [at?_concat hothers] at hnone
    exact follow_missing hothers ⟨hhere, habove, hshort⟩ hnone links rest
  | case6 here name rest _ entries hdirectory hhere habove hshort itself target hlink =>
    obtain ⟨others, hothers⟩ := (h here (.start rfl)).directory hdirectory
    have hsame := (h _ (.entry hdirectory hhere habove rfl)).link
      ((at?_concat hdirectory name).trans hlink)
    rw [at?_concat hothers] at hsame
    exact follow_lastLink hothers ⟨hhere, habove, hshort⟩ hsame rest
  | case7 here name rest _ entries hdirectory hhere habove hshort itself target hlink links ih =>
    obtain ⟨others, hothers⟩ := (h here (.start rfl)).directory hdirectory
    have hfound := (at?_concat hdirectory name).trans hlink
    have hsame := (h _ (.entry hdirectory hhere habove rfl)).link hfound
    rw [at?_concat hothers] at hsame
    rw [follow_link hothers ⟨hhere, habove, hshort⟩ hsame links rest]
    simp only [dite_eq_ite] at ih ⊢
    exact ih fun place hplace => h place (.link hhere habove hfound hplace)
  | case8 links here name rest _ entries hdirectory hhere habove hshort e hlink hentry ih =>
    obtain ⟨others, hothers⟩ := (h here (.start rfl)).directory hdirectory
    have hfound := (at?_concat hdirectory name).trans hentry
    obtain ⟨e', he', hsurface⟩ := (h _ (.entry hdirectory hhere habove rfl)).of_some hfound
    rw [at?_concat hothers] at he'
    rw [follow_entry hothers ⟨hhere, habove, hshort⟩ he' ?_]
    · exact ih fun place hplace => h place (.down hhere habove hfound hlink hplace)
    · rintro itself target rfl
      exact hlink itself target (surface_eq_link hsurface.symm)
  | case9 links here name rest e hfile hsome =>
    obtain ⟨e', he', hsurface⟩ := (h here (.start rfl)).of_some hsome
    refine follow_file he' ?_ links rest
    rintro own entries rfl
    obtain ⟨others, rfl⟩ := surface_eq_directory hsurface.symm
    exact hfile own others rfl
  | case10 links here name rest hnone =>
    exact follow_nowhere ((h here (.start rfl)).of_none hnone) links rest

theorem looksAt_of_follow {there : Location} (h : follow root links here names = .ok there) :
    LooksAt root there links here names := by
  fun_induction follow root links here names with
  | case1 links here => exact .start (Except.ok.inj h).symm
  | case2 links here rest _ _ hdirectory ih => exact .here hdirectory rfl (ih h)
  | case3 links here rest _ _ hdirectory _ ih => exact .above hdirectory rfl (ih h)
  | case4 | case5 | case6 | case9 | case10 => simp at h
  | case7 here name rest _ entries hdirectory hhere habove hshort itself target hlink links ih =>
    simp only [dite_eq_ite] at ih h
    exact .link hhere habove ((at?_concat hdirectory name).trans hlink) (ih h)
  | case8 links here name rest _ entries hdirectory hhere habove hshort e hlink hentry ih =>
    exact .down hhere habove ((at?_concat hdirectory name).trans hentry) hlink (ih h)

/-- What is below a location is not reached from above without looking at the location. -/
theorem LooksAt.of_below {place other : Location} (h : LooksAt root other links here names)
    (hother : place <+: other) (hhere : ¬ place <+: here) :
    LooksAt root place links here names := by
  induction h with
  | start hplace => exact absurd (hplace ▸ hother) hhere
  | @entry links here name rest own entries hdirectory hpoint habove hplace =>
    rw [hplace, List.prefix_concat_iff] at hother
    rcases hother with hself | hother
    · exact .entry hdirectory hpoint habove hself
    · exact absurd hother hhere
  | here hdirectory hname _ ih => exact .here hdirectory hname (ih hhere)
  | @above links here name rest own entries hdirectory hname _ ih =>
    refine .above hdirectory hname (ih ?_)
    exact fun habove => hhere (habove.trans (List.dropLast_prefix here))
  | @down links here name rest e hpoint habove hentry hlink _ ih =>
    by_cases hself : place <+: here ++ [name]
    · obtain ⟨own, entries, -, hdirectory, -⟩ := at?_append_cons hentry
      rcases List.prefix_concat_iff.mp hself with hself | hself
      · exact .entry hdirectory hpoint habove hself
      · exact absurd hself hhere
    · exact .down hpoint habove hentry hlink (ih hself)
  | @link links here name rest itself target hpoint habove hlink _ ih =>
    refine .link hpoint habove hlink (ih ?_)
    split_ifs
    · intro hroot
      rw [List.prefix_nil.mp hroot] at hhere
      exact hhere List.nil_prefix
    · exact hhere

/-- On the way down to a directory the locations above it are looked at, and then the last name is
looked up there. -/
theorem LooksAt.of_down {place below : Location} {name own : String} {entries : List Entry}
    (hnames : ∀ other ∈ below, Path.IsName other)
    (hbelow : root.at? (here ++ below) = some (.directory own entries))
    (h : LooksAt root place links here (below ++ [name])) :
    place <+: here ++ below ∨ LooksAt root place links (here ++ below) [name] := by
  induction below generalizing here with
  | nil =>
    rw [List.append_nil]
    exact .inr h
  | cons first rest ih =>
    have hfirst := hnames first List.mem_cons_self
    have hrest : ∀ other ∈ rest, Path.IsName other :=
      fun other hother => hnames other (.tail _ hother)
    obtain ⟨_, _, child, hhere, hchild, hdown⟩ := at?_append_cons hbelow
    rw [List.append_cons] at hbelow ⊢
    cases h with
    | start hplace =>
      rw [hplace, List.append_assoc]
      exact .inl (List.prefix_append _ _)
    | entry _ _ _ hplace =>
      rw [hplace]
      exact .inl (List.prefix_append _ _)
    | here _ hname => exact absurd hname hfirst.notHere
    | above _ hname => exact absurd hname hfirst.notAbove
    | down _ _ _ _ h => exact ih hrest hbelow h
    | link _ _ hlink =>
      -- What is above a directory is no link.
      rw [at?_concat hhere, hchild] at hlink
      rw [Option.some.inj hlink] at hdown
      cases rest <;> simp [at?] at hdown

/-- A single name is looked up, and then the path of the link if there is one. -/
theorem LooksAt.of_last {place : Location} {name : String} (hname : Path.IsName name)
    (h : LooksAt root place links here [name]) :
    place = here ∨ place = here ++ [name] ∨ ∃ left itself target, links = left + 1 ∧
      root.at? (here ++ [name]) = some (.link itself target) ∧
      LooksAt root place left (if Path.isAbsolute target then [] else here)
        (Path.route target) := by
  cases h with
  | start hplace => exact .inl hplace
  | entry _ _ _ hplace => exact .inr (.inl hplace)
  | here _ hpoint => exact absurd hpoint hname.notHere
  | above _ habove => exact absurd habove hname.notAbove
  | down _ _ _ _ h =>
    cases h with
    | start hplace => exact .inr (.inl hplace)
  | link _ _ hlink h =>
    rw [List.append_nil] at h
    exact .inr (.inr ⟨_, _, _, rfl, hlink, h⟩)

end FileSystem

section Differs

open Entry

variable {fs fs' : FileSystem} {place : Location} {path : String}

/-- Two file systems differ in nothing but what stands at a location, or below it. -/
structure FileSystem.DiffersAt (fs : FileSystem) (place : Location) (fs' : FileSystem) : Prop where
  workingDirectory : fs'.workingDirectory = fs.workingDirectory
  elsewhere : ∀ other, ¬ place <+: other → SameAt fs.root fs'.root other

namespace FileSystem

theorem DiffersAt.locate (h : fs.DiffersAt place fs') (hstart : ¬ place <+: fs.start path)
    (hlooks : ¬ LooksAt fs.root place maxLinks (fs.start path) (Path.route path)) :
    fs'.locate path = fs.locate path ∧
      ∀ there, fs.locate path = .ok there → ¬ place <+: there := by
  have hsame : fs'.start path = fs.start path := by
    rw [start, start, h.workingDirectory]
  have hpast : ∀ other, LooksAt fs.root other maxLinks (fs.start path) (Path.route path) →
      ¬ place <+: other :=
    fun other hother hbelow => hlooks (hother.of_below hbelow hstart)
  constructor
  · rw [FileSystem.locate, FileSystem.locate, hsame,
      follow_congr fun other hother => h.elsewhere other (hpast other hother)]
  · intro there hthere
    unfold FileSystem.locate at hthere
    split_ifs at hthere
    exact hpast there (looksAt_of_follow hthere)

theorem DiffersAt.entry (h : fs.DiffersAt place fs') (hstart : ¬ place <+: fs.start path)
    (hlooks : ¬ LooksAt fs.root place maxLinks (fs.start path) (Path.route path)) :
    (fs'.entry path).map surface = (fs.entry path).map surface := by
  obtain ⟨hlocate, hpast⟩ := h.locate hstart hlooks
  rw [FileSystem.entry, FileSystem.entry, hlocate]
  cases hthere : fs.locate path with
  | error e => rfl
  | ok there =>
    have hsame := h.elsewhere there (hpast there hthere)
    cases hfound : fs.root.at? there with
    | none => simp only [hsame.of_none hfound, hfound]
    | some e =>
      obtain ⟨e', he', hsurface⟩ := hsame.of_some hfound
      simp only [he', hfound, Except.map, hsurface]

end FileSystem

end Differs

end ScriptTags.Files
