import ScriptTags.Proofs.Command.Stages

/-!
# What commands leave unchanged

Only the command that writes tags changes a file, and only the one that its output leads to. The
output is opened after everything that may fail has been done, so a command that stops before it
writes leaves every file as it was.
-/

namespace ScriptTags
namespace Command

open Files

/-- The place that the command may write to: a file that its output, told or set, leads to. -/
def MayWrite (fs : FileSystem) (o : TagOptions) (location : Location) : Prop :=
  ∃ settings source, effectiveSettings fs o.config = .ok (settings, source) ∧
    outputFor settings o ≠ "-" ∧ fs.locateToWrite (outputFor settings o) = .ok location

/-- Why the command stops before it writes. -/
inductive Stops (fs : FileSystem) (o : TagOptions) : Prop where
  | badSettings {trouble} (h : effectiveSettings fs o.config = .error trouble)
  | badScan {settings source fault}
      (hsettings : effectiveSettings fs o.config = .ok (settings, source))
      (h : scanFor fs settings o = .error fault)
  | noFiles {settings source scan}
      (hsettings : effectiveSettings fs o.config = .ok (settings, source))
      (hscan : scanFor fs settings o = .ok scan) (h : scan.files = [])
  | badOutput {settings source trouble}
      (hsettings : effectiveSettings fs o.config = .ok (settings, source))
      (h : Target.ofOutput fs (outputFor settings o) = .error trouble)

@[simp] theorem exit_stopped (fs : FileSystem) (notices : List String) (trouble : Trouble) :
    (stopped fs notices trouble).exit = 1 := by
  cases trouble <;> rfl

@[simp] theorem files_stopped (fs : FileSystem) (notices : List String) (trouble : Trouble) :
    (stopped fs notices trouble).files = fs := by
  cases trouble <;> rfl

theorem Target.received_cases {fs fs' : FileSystem} {output text : String} {target : Target}
    (htarget : ofOutput fs output = .ok target) (h : target.Received fs text fs') :
    fs' = fs ∨ ∃ location, output ≠ "-" ∧ fs.locateToWrite output = .ok location ∧
      fs.Wrote location (Text.bytesOf text) fs' := by
  obtain ⟨-, rfl⟩ | ⟨location, hdash, -, hlocation, rfl⟩ := ofOutput_cases htarget
  · exact .inl h
  · exact .inr ⟨location, hdash, hlocation, h⟩

variable {fs : FileSystem} {o : TagOptions} {ending : Ending}

theorem TagRun.files_cases (h : TagRun fs o ending) :
    ending.files = fs ∨
      ∃ location content, MayWrite fs o location ∧ fs.Wrote location content ending.files := by
  have hreceived {settings source target text fs'}
      (hsettings : effectiveSettings fs o.config = .ok (settings, source))
      (htarget : Target.ofOutput fs (outputFor settings o) = .ok target)
      (h : target.Received fs text fs') :
      fs' = fs ∨ ∃ location content, MayWrite fs o location ∧ fs.Wrote location content fs' := by
    obtain hsame | ⟨location, hdash, hlocation, hwrote⟩ := Target.received_cases htarget h
    · exact .inl hsame
    · exact .inr ⟨location, _, ⟨settings, source, hsettings, hdash, hlocation⟩, hwrote⟩
  cases h with
  | badSettings | badScan | noFiles | badOutput => exact .inl (files_stopped _ _ _)
  | broken _ hsettings _ _ htarget _ =>
    simp only [files_stopped]
    exact hreceived hsettings htarget (Target.received_write htarget _)
  | written hsettings _ _ htarget _ hdelivered =>
    exact hreceived hsettings htarget hdelivered.received

/-- With a reason to stop, the stages at which something is written are not reached. -/
theorem TagRun.of_stops (h : TagRun fs o ending) (hstops : Stops fs o) :
    ending.exit = 1 ∧ ending.files = fs := by
  cases h with
  | badSettings | badScan | noFiles | badOutput =>
    exact ⟨exit_stopped _ _ _, files_stopped _ _ _⟩
  | broken _ hsettings hscan hfiles htarget _ | written hsettings hscan hfiles htarget _ _ =>
    exfalso
    cases hstops with
    | badSettings h => exact absurd (hsettings.symm.trans h) (by simp)
    | badScan hother h =>
      obtain ⟨rfl, rfl⟩ := Prod.mk.inj (Except.ok.inj (hsettings.symm.trans hother))
      exact absurd (hscan.symm.trans h) (by simp)
    | noFiles hother hscan' h =>
      obtain ⟨rfl, rfl⟩ := Prod.mk.inj (Except.ok.inj (hsettings.symm.trans hother))
      obtain rfl := Except.ok.inj (hscan.symm.trans hscan')
      exact hfiles h
    | badOutput hother h =>
      obtain ⟨rfl, rfl⟩ := Prod.mk.inj (Except.ok.inj (hsettings.symm.trans hother))
      exact absurd (htarget.symm.trans h) (by simp)

theorem SettingsRun.files_eq {key config : Option String} (h : SettingsRun fs key config ending) :
    ending.files = fs := by
  cases h with
  | badSettings => exact files_stopped _ _ _
  | longNumber | shown | unknown => rfl

/-- Command lines change at most one file. All but those that write tags change none; those change
at most the file that their output leads to, and none at all if they stop before they write, which
they then report by the exit code. -/
theorem runLine_frame (fs : FileSystem) (args : List String) :
    ((∀ o, parse args ≠ .ok (.tag o)) → (runLine fs args).files = fs) ∧
    ∀ o, parse args = .ok (.tag o) →
      ((runLine fs args).files = fs ∨ ∃ location content, MayWrite fs o location ∧
        fs.Wrote location content (runLine fs args).files) ∧
      (Stops fs o → (runLine fs args).exit = 1 ∧ (runLine fs args).files = fs) := by
  constructor
  · intro hother
    unfold runLine
    split
    · rename_i command hcommand
      cases command with
      | tag o => exact absurd hcommand (hother o)
      | showSettings key config => exact (settingsRun fs key config).files_eq
      | version => rfl
    · rfl
    · rfl
    · exact files_stopped _ _ _
  · intro o hargs
    have hrun : TagRun fs o (runLine fs args) := by
      simp only [runLine, hargs]
      exact tagRun fs o
    exact ⟨hrun.files_cases, hrun.of_stops⟩

end Command

end ScriptTags
