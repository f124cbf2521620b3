import Mathlib.Data.List.Induction
import ScriptTags.Proofs.Files.Lookup
import ScriptTags.Proofs.Files.Walk
import ScriptTags.Proofs.Settings.File
import ScriptTags.Proofs.Settings.Resolve

/-!
# The nearest settings file

The settings of a directory are those of the nearest directory, among itself and those above it, in
which the name of settings files leads to a file. Another settings file makes no difference, unless
a link that stands for a nearer one looks at it.
-/

namespace ScriptTags

namespace Files.FileSystem

variable {location : Location}

theorem filter_names_pathOf (h : ∀ name ∈ location, Path.IsName name) :
    (Path.names (pathOf location)).filter (· != ".") = location := by
  rw [pathOf, Path.names_slash_append,
    Path.names_intercalate fun name hname => (h name hname).toIsPiece, List.filter_eq_self]
  intro name hname
  exact bne_iff_ne.mpr (h name hname).notHere

theorem normalize_pathOf (h : ∀ name ∈ location, Path.IsName name) :
    Path.normalize (pathOf location) = pathOf location := by
  have hanchor : Path.anchor (pathOf location) = "/" := by
    have hrest := Path.isAbsolute_intercalate fun name hname => (h name hname).toIsPiece
    simp only [Path.anchor, pathOf, String.toList_append]
    unfold Path.isAbsolute at hrest
    cases htext : ("/".intercalate location).toList with
    | nil => simp
    | cons c rest =>
      rw [htext] at hrest
      have hc : (c == '/') = false := by simpa using hrest
      simp [hc]
  rw [Path.normalize, filter_names_pathOf h, hanchor]
  exact if_neg (by simp)

theorem route_pathOf (h : ∀ name ∈ location, Path.IsName name) (hne : location ≠ []) :
    Path.route (pathOf location) = location := by
  have hkept := filter_names_pathOf h
  obtain ⟨-, -, hroute⟩ := Path.route_normalize (hkept.symm ▸ hne)
  rwa [normalize_pathOf h, hkept] at hroute

theorem hasNull_pathOf (h : ∀ name ∈ location, Path.IsName name) :
    Path.hasNull (pathOf location) = false := by
  have hslash : Char.ofNat 0 ≠ '/' := by decide
  rw [Path.hasNull, List.contains_eq_mem, decide_eq_false_iff_not, pathOf, String.toList_append,
    List.mem_append, Path.mem_intercalate hslash]
  rintro (hnull | ⟨name, hname, hnull⟩)
  · exact absurd hnull (by decide)
  · have := (h name hname).nullFree
    rw [Path.hasNull, List.contains_eq_mem, decide_eq_false_iff_not] at this
    exact this hnull

theorem start_pathOf (fs : FileSystem) (location : Location) : fs.start (pathOf location) = [] := by
  simp [start, pathOf, Path.isAbsolute]

end Files.FileSystem

namespace Settings

open Files FileSystem

theorem isName_fileName : Path.IsName fileName := by
  refine ⟨⟨?_, ?_⟩, ?_, ?_, ?_⟩ <;> decide

theorem isName_of_mem_pathIn {directory : Location} (h : ∀ name ∈ directory, Path.IsName name) :
    ∀ name ∈ directory ++ [fileName], Path.IsName name := by
  intro name hname
  rcases List.mem_append.mp hname with hname | hname
  · exact h name hname
  · rw [List.mem_singleton.mp hname]
    exact isName_fileName

variable {fs fs' : FileSystem} {location directory place : Location} {content : Text.Bytes}
  {start : String}

theorem isFile_eq_true_iff {path : String} :
    isFile fs path = .ok true ↔ ∃ name content, fs.entry path = .ok (.file name content) := by
  unfold isFile
  cases fs.entry path with
  | ok e => cases e <;> simp
  | error e => cases e <;> simp

/-- The nearest directory with settings: the name of settings files leads to a file there, and to
none in the directories before it. -/
structure IsNearest (fs : FileSystem) (location directory : Location) (content : Text.Bytes) :
    Prop extends Comes fs location directory where
  settings : ∃ name, fs.entry (pathIn directory) = .ok (.file name content)

/-- No directory on the way up has settings. -/
def HasNone (fs : FileSystem) (location : Location) : Prop :=
  ∀ directory, directory <+: location → isFile fs (pathIn directory) = .ok false

/-- There is a nearest directory with settings, or none at all, or a path on the way is too long. -/
theorem isNearest_or_hasNone (fs : FileSystem) (location : Location) :
    (∃ directory content, IsNearest fs location directory content) ∨ HasNone fs location ∨
      ∃ directory, Comes fs location directory ∧
        fs.entry (pathIn directory) = .error .nameTooLong := by
  have hself : ∀ location, isFile fs (pathIn location) ≠ .ok false →
      (∃ content, IsNearest fs location location content) ∨
        Comes fs location location ∧ fs.entry (pathIn location) = .error .nameTooLong := by
    intro location hstops
    cases hfile : isFile fs (pathIn location) with
    | error fault => exact .inr ⟨comes_self fs location, (isFile_eq_error_iff.mp hfile).1⟩
    | ok found =>
      cases found with
      | false => exact absurd hfile hstops
      | true =>
        obtain ⟨name, content, hentry⟩ := isFile_eq_true_iff.mp hfile
        exact .inl ⟨content, comes_self fs location, name, hentry⟩
  induction location using List.reverseRecOn with
  | nil =>
    by_cases hfile : isFile fs (pathIn []) = .ok false
    · refine .inr (.inl ?_)
      intro directory habove
      rw [List.prefix_nil.mp habove]
      exact hfile
    · rcases hself [] hfile with ⟨content, hnearest⟩ | hlong
      · exact .inl ⟨[], content, hnearest⟩
      · exact .inr (.inr ⟨[], hlong⟩)
  | append_singleton location name ih =>
    by_cases hfile : isFile fs (pathIn (location ++ [name])) = .ok false
    · rcases ih with ⟨directory, content, hnearest⟩ | hnone | ⟨directory, hcomes, hlong⟩
      · exact .inl ⟨directory, content, hnearest.toComes.concat hfile, hnearest.settings⟩
      · refine .inr (.inl ?_)
        intro directory habove
        rcases List.prefix_concat_iff.mp habove with rfl | habove
        · exact hfile
        · exact hnone directory habove
      · exact .inr (.inr ⟨directory, hcomes.concat hfile, hlong⟩)
    · rcases hself _ hfile with ⟨content, hnearest⟩ | hlong
      · exact .inl ⟨_, content, hnearest⟩
      · exact .inr (.inr ⟨_, hlong⟩)

theorem IsNearest.loadNearest (h : IsNearest fs location directory content)
    (hnames : ∀ name ∈ location, Path.IsName name) (hstart : searchStart fs start = .ok location) :
    loadNearest fs start = ofBytes (pathIn directory) content := by
  have hdirectory : ∀ name ∈ directory, Path.IsName name :=
    fun name hname => hnames name (h.above.subset hname)
  obtain ⟨name, hentry⟩ := h.settings
  have hfile : isFile fs (pathIn directory) = .ok true := isFile_eq_true_iff.mpr ⟨_, _, hentry⟩
  have hcomes := h.toComes
  rw [← List.reverse_reverse location] at hcomes
  have hfind : find fs start = .ok (some (pathIn directory)) := by
    simp only [find, hstart, bind, Except.bind]
    exact hcomes.findAbove.2 hfile
  have hread : fs.read (pathIn directory) = .ok content := by rw [FileSystem.read, hentry]
  have hnormal : Path.normalize (pathIn directory) = pathIn directory :=
    normalize_pathOf (isName_of_mem_pathIn hdirectory)
  have hnull : Path.hasNull (pathIn directory) = false :=
    hasNull_pathOf (isName_of_mem_pathIn hdirectory)
  simp only [Settings.loadNearest, hfind, load, hnormal, hnull, hread, Bool.false_eq_true, if_false]

theorem HasNone.findAbove {names : List String} (h : HasNone fs names.reverse) :
    findAbove fs names = .ok none := by
  induction names with
  | nil =>
    have hroot := h [] (List.prefix_refl [])
    simp [Settings.findAbove, hroot, bind, Except.bind, pure, Except.pure]
  | cons name above ih =>
    rw [List.reverse_cons] at h
    rw [findAbove_cons (h _ (List.prefix_refl _))]
    exact ih fun directory habove => h directory (habove.trans (List.prefix_append _ _))

theorem HasNone.loadNearest (h : HasNone fs location)
    (hstart : searchStart fs start = .ok location) : loadNearest fs start = .ok {} := by
  rw [← List.reverse_reverse location] at h
  have hfind : find fs start = .ok none := by
    simp only [find, hstart, bind, Except.bind]
    exact h.findAbove
  simp only [Settings.loadNearest, hfind]

section Elsewhere

/-- Another settings file than the nearest one and those that would be nearer. It is not where a
link stands or leads on the way to the start, and no link that stands for settings before or in the
nearest directory looks at it. -/
structure IsElsewhere (fs : FileSystem) (start : String) (location directory place : Location) :
    Prop where
  named : ∃ other, place = other ++ [fileName] ∧ ¬ (directory <+: other ∧ other <+: location)
  plain : ∀ own entries, fs.root.at? place ≠ some (.directory own entries)
  notPassed : ¬ LooksAt fs.root place maxLinks (fs.start (Path.normalize start))
    (Path.route (Path.normalize start))
  notLinked : ∀ nearer itself target, directory <+: nearer → nearer <+: location →
    fs.root.at? (nearer ++ [fileName]) = some (.link itself target) →
    ¬ LooksAt fs.root place (maxLinks - 1) (if Path.isAbsolute target then [] else nearer)
      (Path.route target)

theorem IsElsewhere.not_prefix (h : IsElsewhere fs start location directory place)
    {here : Location} {own : String} {entries : List Entry}
    (hhere : fs.root.at? here = some (.directory own entries)) : ¬ place <+: here := by
  rintro ⟨rest, rfl⟩
  cases rest with
  | nil =>
    rw [List.append_nil] at hhere
    exact h.plain own entries hhere
  | cons name rest =>
    obtain ⟨own', entries', -, hplace, -⟩ := Entry.at?_append_cons hhere
    exact h.plain own' entries' hplace

theorem directory_of_prefix {root : Entry} {here there : Location} {own : String}
    {entries : List Entry} (h : root.at? there = some (.directory own entries))
    (habove : here <+: there) : ∃ own entries, root.at? here = some (.directory own entries) := by
  obtain ⟨rest, rfl⟩ := habove
  cases rest with
  | nil =>
    rw [List.append_nil] at h
    exact ⟨own, entries, h⟩
  | cons name rest =>
    obtain ⟨own', entries', -, hhere, -⟩ := Entry.at?_append_cons h
    exact ⟨own', entries', hhere⟩

/-- The path of settings that are not farther than the nearest does not look at others. -/
theorem IsElsewhere.not_looksAt (h : IsElsewhere fs start location directory place)
    (htree : fs.root.IsTree) {own : String} {entries : List Entry}
    (hlocation : fs.root.at? location = some (.directory own entries)) {nearer : Location}
    (hdirectory : directory <+: nearer) (hnearer : nearer <+: location) :
    ¬ LooksAt fs.root place maxLinks (fs.start (pathIn nearer)) (Path.route (pathIn nearer)) := by
  obtain ⟨own', entries', hhere⟩ := directory_of_prefix hlocation hnearer
  have hnames := htree.names_of_at? hhere
  have hroute : Path.route (pathIn nearer) = nearer ++ [fileName] :=
    route_pathOf (isName_of_mem_pathIn hnames) (by simp)
  rw [pathIn, start_pathOf, ← pathIn, hroute]
  intro hlooks
  rcases LooksAt.of_down hnames (by rwa [List.nil_append]) hlooks with hbelow | hlast
  · exact h.not_prefix hhere hbelow
  · rw [List.nil_append] at hlast
    rcases hlast.of_last isName_fileName with
      hplace | hplace | ⟨left, itself, target, hleft, hlink, hpath⟩
    · exact h.not_prefix hhere (hplace ▸ List.prefix_refl _)
    · obtain ⟨other, hother, hfar⟩ := h.named
      obtain ⟨rfl, -⟩ := List.append_inj' (hother.symm.trans hplace) rfl
      exact hfar ⟨hdirectory, hnearer⟩
    · have hleft : left = maxLinks - 1 := by omega
      exact h.notLinked nearer itself target hdirectory hnearer hlink (hleft ▸ hpath)

theorem isFile_congr {path : String}
    (h : (fs'.entry path).map Entry.surface = (fs.entry path).map Entry.surface) :
    isFile fs' path = isFile fs path := by
  unfold isFile
  cases hnew : fs'.entry path with
  | error e =>
    cases hold : fs.entry path with
    | error e' => simp_all [Except.map]
    | ok e' => simp [hnew, hold, Except.map] at h
  | ok e =>
    cases hold : fs.entry path with
    | error e' => simp [hnew, hold, Except.map] at h
    | ok e' =>
      rw [hnew, hold, Except.map, Except.map, Except.ok.injEq] at h
      cases e <;> cases e' <;> simp_all [Entry.surface]

/-- Settings that are elsewhere are not looked at: whatever becomes of them, the nearest ones stay
the nearest. -/
theorem IsNearest.of_differsAt (h : IsNearest fs location directory content)
    (hother : IsElsewhere fs start location directory place) (hdiffers : fs.DiffersAt place fs')
    (htree : fs.root.IsTree) {own : String} {entries : List Entry}
    (hlocation : fs.root.at? location = some (.directory own entries)) :
    IsNearest fs' location directory content := by
  have hsame : ∀ nearer, directory <+: nearer → nearer <+: location →
      (fs'.entry (pathIn nearer)).map Entry.surface =
        (fs.entry (pathIn nearer)).map Entry.surface := by
    intro nearer hdirectory hnearer
    refine hdiffers.entry ?_ (hother.not_looksAt htree hlocation hdirectory hnearer)
    rw [pathIn, start_pathOf, List.prefix_nil]
    obtain ⟨other, rfl, -⟩ := hother.named
    simp
  refine ⟨⟨h.above, ?_⟩, ?_⟩
  · intro nearer hdirectory hnearer hne
    rw [isFile_congr (hsame nearer hdirectory hnearer)]
    exact h.passed nearer hdirectory hnearer hne
  · obtain ⟨name, hentry⟩ := h.settings
    have hself := hsame directory (List.prefix_refl _) h.above
    rw [hentry] at hself
    cases hnew : fs'.entry (pathIn directory) with
    | error e => simp [hnew, Except.map] at hself
    | ok e =>
      rw [hnew, Except.map, Except.map, Except.ok.injEq] at hself
      exact ⟨name, by rw [Entry.surface_eq_file hself]⟩

/-- Settings elsewhere change neither the settings in force nor the trouble with them. -/
theorem IsNearest.loadNearest_eq (h : IsNearest fs location directory content)
    (hother : IsElsewhere fs start location directory place) (hdiffers : fs.DiffersAt place fs')
    (htree : fs.root.IsTree) (hnull : Path.hasNull start = false)
    (hstart : fs.locate (Path.normalize start) = .ok location) {own : String} {entries : List Entry}
    (hlocation : fs.root.at? location = some (.directory own entries)) :
    Settings.loadNearest fs' start = Settings.loadNearest fs start := by
  have hnames := htree.names_of_at? hlocation
  have hbegin : ¬ place <+: fs.start (Path.normalize start) := by
    have hfollow := hstart
    unfold FileSystem.locate at hfollow
    split_ifs at hfollow
    cases hroute : Path.route (Path.normalize start) with
    | nil =>
      rw [hroute, follow_nil, Except.ok.injEq] at hfollow
      exact hfollow ▸ hother.not_prefix hlocation
    | cons name rest =>
      rw [hroute] at hfollow
      obtain ⟨own', entries', hhere⟩ := directory_of_follow hfollow
      exact hother.not_prefix hhere
  have hstart' := (hdiffers.locate hbegin hother.notPassed).1.trans hstart
  have hnearest := h.of_differsAt hother hdiffers htree hlocation
  rw [h.loadNearest hnames (searchStart_of_locate hnull hstart),
    hnearest.loadNearest hnames (searchStart_of_locate hnull hstart')]

end Elsewhere

/-- What decides which settings are in force for a start that leads to a location. -/
structure InForce (fs : FileSystem) (start : String) (location : Location) : Prop where
  nearest : ∀ directory content, IsNearest fs location directory content →
    Settings.loadNearest fs start = ofBytes (pathIn directory) content
  elsewhere : ∀ directory content place fs', IsNearest fs location directory content →
    IsElsewhere fs start location directory place → fs.DiffersAt place fs' →
    Settings.loadNearest fs' start = Settings.loadNearest fs start
  defaults : HasNone fs location → Settings.loadNearest fs start = .ok {}
  /-- One of these is the case, as long as no path is too long. -/
  exhaustive : (∃ directory content, IsNearest fs location directory content) ∨
    HasNone fs location ∨
    ∃ directory, Comes fs location directory ∧ fs.entry (pathIn directory) = .error .nameTooLong

theorem inForce (htree : fs.root.IsTree) (hnull : Path.hasNull start = false)
    (hstart : fs.locate (Path.normalize start) = .ok location) {own : String} {entries : List Entry}
    (hlocation : fs.root.at? location = some (.directory own entries)) :
    InForce fs start location where
  nearest _ _ h := h.loadNearest (htree.names_of_at? hlocation) (searchStart_of_locate hnull hstart)
  elsewhere _ _ _ _ h hother hdiffers :=
    h.loadNearest_eq hother hdiffers htree hnull hstart hlocation
  defaults h := h.loadNearest (searchStart_of_locate hnull hstart)
  exhaustive := isNearest_or_hasNone fs location

end Settings

end ScriptTags
