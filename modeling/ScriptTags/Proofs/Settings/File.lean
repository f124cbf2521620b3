import Mathlib.Data.List.Basic
import ScriptTags.Proofs.Files.Path
import ScriptTags.Settings.File

/-!
# Reading settings files

Bytes that are no text, and numbers that are too long, break the reading of a settings file off; all
other problems with a file are reported with its path. The search for a settings file stops at the
nearest directory that has one, or at the nearest one whose path is too long to be looked up.
-/

namespace ScriptTags.Settings

open Files

/-- The bytes that break the reading of settings off, and how. -/
inductive Breaks (content : Text.Bytes) : Fault → Prop where
  | undecodable {e} (h : Text.Utf8.decode? content = .error e) : Breaks content (.undecodable e)
  | longNumber {text digits} (hdecode : Text.Utf8.decode? content = .ok text)
      (h : Toml.parse text = .error (.longNumber digits)) :
    Breaks content (.longNumber (some digits))

/-- An error in a settings file names it. -/
def Reports (path : String) (e : Error) : Prop :=
  (∃ reason, e = .badSettings path reason) ∨ ∃ issues, e = .invalidSettings path issues

/-- Why the file that a path leads to breaks the reading of settings off. -/
inductive FileBreaks (fs : FileSystem) (path : String) : Fault → Prop where
  | null (h : Path.hasNull path = true) : FileBreaks fs path .nullInPath
  | content {content fault} (hnull : Path.hasNull path = false)
      (hread : fs.read (Path.normalize path) = .ok content) (h : Breaks content fault) :
    FileBreaks fs path fault

section Search

variable {fs : FileSystem}

theorem isFile_eq_error_iff {path : String} {fault : Fault} :
    isFile fs path = .error fault ↔
      fs.entry path = .error .nameTooLong ∧ fault = .nameTooLong path := by
  unfold isFile
  cases fs.entry path with
  | ok e => cases e <;> simp
  | error e => cases e <;> simp [eq_comm]

/-- The search for settings comes to a directory: it is on the way up from a location, and no
directory before it has settings. -/
structure Comes (fs : FileSystem) (location directory : Location) : Prop where
  above : directory <+: location
  passed : ∀ nearer, directory <+: nearer → nearer <+: location → nearer ≠ directory →
    isFile fs (pathIn nearer) = .ok false

theorem comes_self (fs : FileSystem) (location : Location) : Comes fs location location where
  above := List.prefix_refl location
  passed _ hnearer hlocation hne :=
    absurd (hlocation.eq_of_length_le hnearer.length_le) hne

theorem Comes.concat {location directory : Location} {name : String}
    (h : Comes fs location directory)
    (hpassed : isFile fs (pathIn (location ++ [name])) = .ok false) :
    Comes fs (location ++ [name]) directory where
  above := h.above.trans (List.prefix_append location [name])
  passed nearer hnearer hlocation hne := by
    rcases List.prefix_concat_iff.mp hlocation with rfl | hlocation
    · exact hpassed
    · exact h.passed nearer hnearer hlocation hne

theorem findAbove_cons {name : String} {above : List String}
    (h : isFile fs (pathIn (above.reverse ++ [name])) = .ok false) :
    findAbove fs (name :: above) = findAbove fs above := by
  simp [findAbove, h, bind, Except.bind]

theorem Comes.findAbove {names : List String} {directory : Location}
    (h : Comes fs names.reverse directory) :
    (∀ fault, isFile fs (pathIn directory) = .error fault →
      findAbove fs names = .error fault) ∧
    (isFile fs (pathIn directory) = .ok true →
      findAbove fs names = .ok (some (pathIn directory))) := by
  induction names with
  | nil =>
    obtain rfl := List.prefix_nil.mp h.above
    constructor
    · intro fault hfile
      simp [Settings.findAbove, hfile, bind, Except.bind]
    · intro hfile
      simp [Settings.findAbove, hfile, bind, Except.bind, pure, Except.pure]
  | cons name above ih =>
    rw [List.reverse_cons] at h
    by_cases hself : directory = above.reverse ++ [name]
    · subst hself
      constructor
      · intro fault hfile
        simp [Settings.findAbove, hfile, bind, Except.bind]
      · intro hfile
        simp [Settings.findAbove, hfile, bind, Except.bind, pure, Except.pure]
    · have habove : directory <+: above.reverse :=
        (List.prefix_concat_iff.mp h.above).resolve_left hself
      have hpassed := h.passed _ h.above (List.prefix_refl _) (Ne.symm hself)
      rw [findAbove_cons hpassed]
      refine ih ⟨habove, ?_⟩
      intro nearer hnearer hlocation hne
      exact h.passed nearer hnearer (hlocation.trans (List.prefix_append _ _)) hne

end Search

end ScriptTags.Settings
