import ScriptTags.Proofs.Command.Frame
import ScriptTags.Proofs.Settings.File

/-!
# What breaks a command off

Problems with settings and with scripts are reported, and the command ends with an exit code. A
fault is not: it ends the program. There are few causes of faults, and each of them is in the file
system or among the arguments: bytes and numbers in a settings file that are no settings, null
characters in paths, and paths that are too long to be looked up.
-/

namespace ScriptTags
namespace Command

open Files Batch

/-- Why the settings of a command break it off. -/
inductive SettingsBreak (fs : FileSystem) : Option String → Fault → Prop where
  | given {path fault} (h : Settings.FileBreaks fs path fault) :
    SettingsBreak fs (some path) fault
  | search {directory} (hcomes : Settings.Comes fs fs.workingDirectory directory)
      (h : fs.entry (Settings.pathIn directory) = .error .nameTooLong) :
    SettingsBreak fs none (.nameTooLong (Settings.pathIn directory))
  | nearest {directory fault} (hcomes : Settings.Comes fs fs.workingDirectory directory)
      (hfile : Settings.isFile fs (Settings.pathIn directory) = .ok true)
      (h : Settings.FileBreaks fs (Settings.pathIn directory) fault) :
    SettingsBreak fs none fault

/-- What breaks a command off, and with which fault. -/
inductive Breaks (fs : FileSystem) : Command → Fault → Prop where
  | settings {o fault} (h : SettingsBreak fs o.config fault) : Breaks fs (.tag o) fault
  | argument {o settings source before arg after}
      (hsettings : effectiveSettings fs o.config = .ok (settings, source))
      (hpaths : o.paths = before ++ arg :: after)
      (hbefore : ∀ other ∈ before, ∃ found, Scan.isDirectory fs other = .ok found)
      (hnull : Path.hasNull arg = false)
      (hlong : fs.entry (Path.normalize arg) = .error .nameTooLong) :
    Breaks fs (.tag o) (.nameTooLong (Path.normalize arg))
  | output {o settings source scan}
      (hsettings : effectiveSettings fs o.config = .ok (settings, source))
      (hscan : scanFor fs settings o = .ok scan) (hfiles : scan.files ≠ [])
      (hdash : outputFor settings o ≠ "-") (hnull : Path.hasNull (outputFor settings o) = true) :
    Breaks fs (.tag o) .nullInPath
  | script {o settings source scan target}
      (hsettings : effectiveSettings fs o.config = .ok (settings, source))
      (hscan : scanFor fs settings o = .ok scan) (hfiles : scan.files ≠ [])
      (htarget : Target.ofOutput fs (outputFor settings o) = .ok target)
      (hnull : ∃ path ∈ scan.files, Path.hasNull path = true) :
    Breaks fs (.tag o) .nullInPath
  | shownSettings {key config fault} (h : SettingsBreak fs config fault) :
    Breaks fs (.showSettings key config) fault
  | shownNumber {key config settings source}
      (hsettings : effectiveSettings fs config = .ok (settings, source))
      (hkey : key = none ∨ key = some "concurrency")
      (hlong : Text.Decimal.maxDigits < (Nat.toDigits 10 settings.concurrency).length) :
    Breaks fs (.showSettings key config) (.longNumber none)

section

variable {fs : FileSystem} {o : TagOptions} {ending : Ending}

end

section

variable {fs : FileSystem} {key config : Option String} {ending : Ending}

end

end Command

end ScriptTags
