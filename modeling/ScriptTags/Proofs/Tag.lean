import ScriptTags.Proofs.Record.Issues
import ScriptTags.Tag.Basic

/-!
# Checking a tag

Each field of a tag is checked by itself, and the address is compared with the line number once all
of them are acceptable. So a tag that does not stand where its address says is the only issue with
its table.
-/

namespace ScriptTags

open Record

theorem Kind.reports_check (v : Value) : (Kind.check v).Reports Problem.IsOwn := by
  unfold Kind.check
  split
  · split
    · exact Check.reports_accepted _
    · exact Check.reports_refuse trivial
  · exact Check.reports_refuse trivial

namespace Tag

/-- The check of the fields of a tag by themselves. -/
def checkFields (fields : Value.Fields) : Check Tag :=
  (((((fields.required "name" Value.checkNonempty).map Tag.mk).app
    (fields.required "file" Value.checkString)).app
    (fields.required "address" Value.checkString)).app
    (fields.required "kind" Kind.check)).app
    (fields.required "lineno" Value.checkPositive)

theorem check_eq (v : Value) :
    check v = (v.checkTable "TagEntry").bind fun fields => (checkFields fields).bind checkAddress :=
  rfl

/-- Every field of the tag is given by the table, where it is acceptable by itself. -/
structure GivenBy (t : Tag) (fields : Value.Fields) : Prop where
  name : fields.required "name" Value.checkNonempty = .accepted t.name
  file : fields.required "file" Value.checkString = .accepted t.file
  address : fields.required "address" Value.checkString = .accepted t.address
  kind : fields.required "kind" Kind.check = .accepted t.kind
  lineno : fields.required "lineno" Value.checkPositive = .accepted t.lineno

theorem checkFields_eq_accepted {fields : Value.Fields} {t : Tag} :
    checkFields fields = .accepted t ↔ t.GivenBy fields := by
  simp only [checkFields, Check.app_eq_accepted, Check.map_eq_accepted]
  constructor
  · rintro ⟨_, lineno, ⟨_, kind, ⟨_, address, ⟨_, file, ⟨name, hname, rfl⟩, hfile, rfl⟩, haddress,
      rfl⟩, hkind, rfl⟩, hlineno, rfl⟩
    exact ⟨hname, hfile, haddress, hkind, hlineno⟩
  · rintro ⟨hname, hfile, haddress, hkind, hlineno⟩
    exact ⟨_, _, ⟨_, _, ⟨_, _, ⟨_, _, ⟨_, hname, rfl⟩, hfile, rfl⟩, haddress, rfl⟩, hkind, rfl⟩,
      hlineno, rfl⟩

theorem reports_checkFields (fields : Value.Fields) :
    (checkFields fields).Reports Problem.IsOwn := by
  have hmissing : Problem.missing.IsOwn := trivial
  refine Check.Reports.app (Check.Reports.app (Check.Reports.app (Check.Reports.app
    (Check.Reports.map ?_ _) ?_) ?_) ?_) ?_
  · exact Value.Fields.reports_required hmissing Value.reports_checkNonempty
  · exact Value.Fields.reports_required hmissing Value.reports_checkString
  · exact Value.Fields.reports_required hmissing Value.reports_checkString
  · exact Value.Fields.reports_required hmissing Kind.reports_check
  · exact Value.Fields.reports_required hmissing Value.reports_checkPositive

theorem checkAddress_eq_accepted {t u : Tag} :
    checkAddress t = .accepted u ↔
      t.address.startsWith (lineOffset t.lineno) = true ∧ t = u := by
  unfold checkAddress
  split_ifs with h <;> simp [h, Check.refuse]

theorem check_eq_accepted {v : Value} {t : Tag} :
    check v = .accepted t ↔ ∃ fields, v = .table fields ∧ t.GivenBy fields ∧
      t.address.startsWith (lineOffset t.lineno) = true := by
  simp only [check_eq, Check.bind_eq_accepted, Value.checkTable_eq_accepted,
    checkFields_eq_accepted, checkAddress_eq_accepted]
  constructor
  · rintro ⟨fields, hfields, u, hgiven, haddress, rfl⟩
    exact ⟨fields, hfields, hgiven, haddress⟩
  · rintro ⟨fields, hfields, hgiven, haddress⟩
    exact ⟨fields, hfields, t, hgiven, haddress, rfl⟩

theorem reports_check (v : Value) : (check v).Reports fun _ => True := by
  refine Value.reports_record trivial ?_ v
  intro fields
  refine ((reports_checkFields fields).mono fun _ _ => trivial).bind ?_
  intro t _
  unfold checkAddress
  split_ifs
  · exact Check.reports_accepted t
  · exact Check.reports_refuse trivial

/-- An address is reported only if every field is acceptable by itself, and then nothing else is. -/
theorem misplaced_of_mem_issues {v : Value} {issue : Issue} {address offset : String}
    (hissue : issue ∈ (check v).issues) (h : issue.problem = .misplaced address offset) :
    ∃ fields t, v = .table fields ∧ GivenBy t fields ∧ address = t.address ∧
      offset = lineOffset t.lineno ∧ check v = .rejected [⟨[], .misplaced address offset⟩] := by
  cases v with
  | table fields =>
    change issue ∈ ((checkFields fields).bind checkAddress).issues at hissue
    have hown := reports_checkFields fields
    cases hfields : checkFields fields with
    | rejected issues =>
      rw [hfields] at hissue hown
      exact (h ▸ hown.problems issue hissue : Problem.IsOwn (.misplaced address offset)).elim
    | accepted t =>
      have hcheck : check (.table fields) = checkAddress t := by
        rw [check_eq, Value.checkTable, Check.bind, hfields, Check.bind]
      rw [hfields, Check.bind] at hissue
      rw [hcheck]
      unfold checkAddress at hissue ⊢
      split_ifs at hissue ⊢ with hstarts
      · simp at hissue
      · rw [Check.issues_refuse, List.mem_singleton] at hissue
        rw [hissue, Problem.misplaced.injEq] at h
        obtain ⟨rfl, rfl⟩ := h
        exact ⟨fields, t, rfl, checkFields_eq_accepted.mp hfields, rfl, rfl, rfl⟩
  | _ =>
    rw [List.mem_singleton.mp hissue] at h
    exact absurd h (by simp)

end Tag

end ScriptTags
