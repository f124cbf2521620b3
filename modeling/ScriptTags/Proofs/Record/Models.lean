import ScriptTags.Batch.Basic
import ScriptTags.Proofs.Document.Reading
import ScriptTags.Proofs.Record.Shape
import ScriptTags.Settings.Basic

/-!
# Checked records

Every record can be shown as a table of all its fields. What a check accepts is accepted again when
it is shown, and gives the same record. The check looks at the fields of the record only, and it
explains what it rejects. An accepted tag stands on the line that its address names.
-/

namespace ScriptTags

open Record

namespace Record

/-- The check of a record with certain fields, and the table that shows one. -/
structure IsFaithful {α : Type} (check : Value → Check α) (toValue : α → Value)
    (known : List (String × Shape)) : Prop where
  /-- A record is shown with all its fields. -/
  shows : ∀ a, ∃ fields, toValue a = .table fields ∧ fields.map (·.1) = known.map (·.1)
  /-- A record that was accepted is accepted as it is shown. -/
  again : ∀ v a, check v = .accepted a → check (toValue a) = .accepted a
  /-- Fields that the record does not have make no difference, wherever they stand. -/
  looksAt : LooksAt (.record known) check
  explains : ∀ v issues, check v = .rejected issues → issues ≠ []

end Record

section Tags

theorem Kind.looksAt_check : LooksAt .scalar Kind.check := by
  intro v
  cases v <;> rfl

namespace Tag

def shape : List (String × Shape) :=
  [("name", .scalar), ("file", .scalar), ("address", .scalar), ("kind", .scalar),
    ("lineno", .scalar)]

theorem looksAt_check : LooksAt (.record shape) check := by
  refine Value.looksAt_record ?_
  intro fields
  rw [Value.Fields.required_strip ?_ Value.looksAt_checkNonempty,
    Value.Fields.required_strip ?_ Value.looksAt_checkString,
    Value.Fields.required_strip ?_ Value.looksAt_checkString,
    Value.Fields.required_strip ?_ Kind.looksAt_check,
    Value.Fields.required_strip ?_ Value.looksAt_checkPositive]
  all_goals rfl

/-- A tag with a name, on a line that its address begins with. -/
structure IsPlaced (t : Tag) : Prop where
  name : t.name ≠ ""
  line : 1 ≤ t.lineno
  address : ∃ rest, t.address = toString (t.lineno - 1) ++ "/" ++ rest

theorem lineOffset_eq {line : ℕ} (h : 1 ≤ line) : lineOffset line = toString (line - 1) ++ "/" := by
  have hbefore : (line : Int) - 1 = ((line - 1 : ℕ) : Int) := by omega
  rw [lineOffset, hbefore]
  rfl

theorem isPlaced_of_check {v : Value} {t : Tag} (h : check v = .accepted t) : t.IsPlaced := by
  obtain ⟨fields, -, hgiven, haddress⟩ := check_eq_accepted.mp h
  obtain ⟨name, -, hname⟩ := Value.Fields.required_eq_accepted.mp hgiven.name
  obtain ⟨lineno, -, hlineno⟩ := Value.Fields.required_eq_accepted.mp hgiven.lineno
  have hline := Value.one_le_of_checkPositive hlineno
  refine ⟨(Value.checkNonempty_eq_accepted.mp hname).2, hline, ?_⟩
  rw [String.startsWith_string_iff, lineOffset_eq hline] at haddress
  obtain ⟨rest, hrest⟩ := haddress
  refine ⟨String.ofList rest, ?_⟩
  rw [← String.toList_inj, String.toList_append, ← hrest, String.toList_ofList]

/-- The address of a placed tag names one line only. -/
theorem IsPlaced.lineno_eq {t u : Tag} (ht : t.IsPlaced) (hu : u.IsPlaced)
    (h : t.address = u.address) : t.lineno = u.lineno := by
  have hdigits : ∀ {w : Tag}, w.IsPlaced →
      w.address.toList.takeWhile (· != '/') = Nat.toDigits 10 (w.lineno - 1) := by
    intro w hw
    obtain ⟨rest, hrest⟩ := hw.address
    have htext : w.address.toList = Nat.toDigits 10 (w.lineno - 1) ++ '/' :: rest.toList := by
      simp [hrest]
    rw [htext, List.takeWhile_append_of_pos ne_slash_of_mem_toDigits]
    simp
  have hsame : decimal? (Nat.toDigits 10 (t.lineno - 1)) =
      decimal? (Nat.toDigits 10 (u.lineno - 1)) := by
    rw [← hdigits ht, ← hdigits hu, h]
  rw [decimal?_toDigits, decimal?_toDigits, Option.some.injEq] at hsame
  have htline := ht.line
  have huline := hu.line
  omega

theorem isFaithful : IsFaithful check toValue shape where
  shows _ := ⟨_, rfl, rfl⟩
  again v t h := by
    obtain ⟨-, -, -, haddress⟩ := check_eq_accepted.mp h
    have hplaced := isPlaced_of_check h
    exact check_toValue hplaced.name hplaced.line haddress
  looksAt := looksAt_check
  explains v _ h := (reports_check v).ne_nil h

end Tag

namespace FileTags

def shape : List (String × Shape) := [("file", .scalar), ("tags", .list (.record Tag.shape))]

theorem looksAt_check : LooksAt (.record shape) check := by
  refine Value.looksAt_record ?_
  intro fields
  rw [Value.Fields.required_strip ?_ Value.looksAt_checkString,
    Value.Fields.optional_strip ?_ (Value.looksAt_checkList Tag.looksAt_check)]
  all_goals rfl

theorem reports_check (v : Value) : (check v).Reports fun _ => True := by
  refine Value.reports_record trivial ?_ v
  intro fields
  refine Check.Reports.app (Check.Reports.map ?_ _) ?_
  · exact Value.Fields.reports_required trivial fun v =>
      (Value.reports_checkString v).mono fun _ _ => trivial
  · exact Value.Fields.reports_optional (Value.reports_checkList trivial Tag.reports_check)

theorem exists_of_check {v : Value} {f : FileTags} (h : check v = .accepted f) {t : Tag}
    (ht : t ∈ f.tags) : ∃ item, Tag.check item = .accepted t := by
  simp only [check, Check.bind_eq_accepted, Check.app_eq_accepted, Check.map_eq_accepted] at h
  obtain ⟨fields, -, _, tags, ⟨file, -, rfl⟩, htags, rfl⟩ := h
  rcases Value.Fields.optional_eq_accepted.mp htags with ⟨list, -, hlist⟩ | ⟨-, rfl⟩
  · exact Value.exists_of_checkList hlist ht
  · exact absurd ht List.not_mem_nil

theorem isFaithful : IsFaithful check toValue shape where
  shows _ := ⟨_, rfl, rfl⟩
  again v f h := by
    have htags : Value.checkList Tag.check (.list (f.tags.map Tag.toValue)) = .accepted f.tags := by
      refine Value.checkList_map ?_
      intro t ht
      obtain ⟨item, hitem⟩ := exists_of_check h ht
      exact Tag.isFaithful.again item t hitem
    simp [check, toValue, Value.checkTable, Value.Fields.required, Value.Fields.optional,
      Value.Fields.get?, Value.checkString, htags, Check.bind, Check.app, Check.map, Check.under]
  looksAt := looksAt_check
  explains v _ h := (reports_check v).ne_nil h

/-- An address is reported at its tag, and only if every field of the tag is acceptable by
itself. -/
theorem misplaced_of_mem_issues {v : Value} {issue : Issue} {address offset : String}
    (hissue : issue ∈ (check v).issues) (h : issue.problem = .misplaced address offset) :
    ∃ (fields : Value.Fields) (items : List Value) (i : ℕ) (item : Value), v = .table fields ∧
      fields.get? "tags" = some (.list items) ∧ items[i]? = some item ∧
      issue.place = [.field "tags", .index i] ∧
      ⟨[], .misplaced address offset⟩ ∈ (Tag.check item).issues := by
  cases v with
  | table fields =>
    have hissues : (check (.table fields)).issues =
        (Value.Fields.required fields "file" Value.checkString).issues ++
          (Value.Fields.optional fields "tags" [] (Value.checkList Tag.check)).issues := by
      simp [check, Value.checkTable, Check.bind]
    rw [hissues, List.mem_append] at hissue
    rcases hissue with hfile | htags
    · have hown : (Value.Fields.required fields "file" Value.checkString).Reports Problem.IsOwn :=
        Value.Fields.reports_required trivial Value.reports_checkString
      exact (h ▸ hown.problems issue hfile : Problem.IsOwn (.misplaced address offset)).elim
    · obtain ⟨list, inner, hlist, hinner, rfl⟩ := Value.Fields.mem_issues_optional htags
      cases list with
      | list items =>
        obtain ⟨i, item, own, hitem, hown, rfl⟩ := Value.mem_issues_checkItems.mp hinner
        obtain ⟨-, -, -, -, -, -, hcheck⟩ := Tag.misplaced_of_mem_issues hown h
        rw [hcheck] at hown
        obtain rfl := List.mem_singleton.mp hown
        refine ⟨fields, items, i, item, rfl, hlist, hitem, ?_, ?_⟩
        · simp [Issue.under]
        · rw [hcheck]
          exact List.mem_singleton_self _
      | _ =>
        obtain rfl := List.mem_singleton.mp hinner
        exact absurd h (by simp [Issue.under])
  | _ =>
    obtain rfl := List.mem_singleton.mp hissue
    exact absurd h (by simp)

end FileTags

end Tags

section Failure

theorem Stage.looksAt_check : LooksAt .scalar Stage.check := by
  intro v
  cases v <;> rfl

theorem Stage.reports_check (v : Value) : (Stage.check v).Reports Problem.IsOwn := by
  unfold Stage.check
  split
  · split
    · exact Check.reports_accepted _
    · exact Check.reports_refuse trivial
  · exact Check.reports_refuse trivial

namespace Failure

def shape : List (String × Shape) := [("file", .scalar), ("stage", .scalar), ("reason", .scalar)]

theorem check_toValue (f : Failure) : check f.toValue = .accepted f := by
  simp [check, toValue, Value.checkTable, Value.Fields.required, Value.Fields.get?,
    Value.checkString, Stage.check, Check.bind, Check.app, Check.map, Check.under]

theorem looksAt_check : LooksAt (.record shape) check := by
  refine Value.looksAt_record ?_
  intro fields
  rw [Value.Fields.required_strip ?_ Value.looksAt_checkString,
    Value.Fields.required_strip ?_ Stage.looksAt_check,
    Value.Fields.required_strip ?_ Value.looksAt_checkString]
  all_goals rfl

theorem reports_check (v : Value) : (check v).Reports fun _ => True := by
  refine Value.reports_record trivial ?_ v
  intro fields
  refine (Check.Reports.app (Check.Reports.app (Check.Reports.map (P := Problem.IsOwn) ?_ _) ?_)
    ?_).mono fun _ _ => trivial
  · exact Value.Fields.reports_required trivial Value.reports_checkString
  · exact Value.Fields.reports_required trivial Stage.reports_check
  · exact Value.Fields.reports_required trivial Value.reports_checkString

theorem isFaithful : IsFaithful check toValue shape where
  shows _ := ⟨_, rfl, rfl⟩
  again _ f _ := check_toValue f
  looksAt := looksAt_check
  explains v _ h := (reports_check v).ne_nil h

end Failure

namespace Report

def shape : List (String × Shape) :=
  [("files", .list .scalar), ("failures", .list (.record Failure.shape)), ("tag_count", .scalar)]

theorem check_toValue (r : Report) : check r.toValue = .accepted r := by
  have hfiles : Value.checkList Value.checkString (.strings r.files) = .accepted r.files :=
    Value.checkList_map fun _ _ => rfl
  have hfailures : Value.checkList Failure.check (.list (r.failures.map Failure.toValue)) =
      .accepted r.failures := Value.checkList_map fun f _ => Failure.check_toValue f
  simp [check, toValue, Value.checkTable, Value.Fields.optional, Value.Fields.get?, hfiles,
    hfailures, Value.checkInt, Check.bind, Check.app, Check.map, Check.under]

theorem looksAt_check : LooksAt (.record shape) check := by
  refine Value.looksAt_record ?_
  intro fields
  rw [Value.Fields.optional_strip ?_ (Value.looksAt_checkList Value.looksAt_checkString),
    Value.Fields.optional_strip ?_ (Value.looksAt_checkList Failure.looksAt_check),
    Value.Fields.optional_strip ?_ Value.looksAt_checkInt]
  all_goals rfl

theorem reports_check (v : Value) : (check v).Reports fun _ => True := by
  refine Value.reports_record trivial ?_ v
  intro fields
  refine Check.Reports.app (Check.Reports.app (Check.Reports.map ?_ _) ?_) ?_
  · exact Value.Fields.reports_optional (Value.reports_checkList trivial fun v =>
      (Value.reports_checkString v).mono fun _ _ => trivial)
  · exact Value.Fields.reports_optional (Value.reports_checkList trivial Failure.reports_check)
  · exact Value.Fields.reports_optional fun v =>
      (Value.reports_checkInt v).mono fun _ _ => trivial

theorem isFaithful : IsFaithful check toValue shape where
  shows _ := ⟨_, rfl, rfl⟩
  again _ r _ := check_toValue r
  looksAt := looksAt_check
  explains v _ h := (reports_check v).ne_nil h

end Report

end Failure

section Settings

namespace ProgramInfo

def shape : List (String × Shape) :=
  [("author", .scalar), ("email", .scalar), ("name", .scalar), ("url", .scalar),
    ("description", .scalar), ("version", .scalar)]

/-- Every field is given by the table or by its default. -/
structure GivenBy (p : ProgramInfo) (fields : Value.Fields) : Prop where
  author : fields.Gives "author" ({} : ProgramInfo).author Value.checkString p.author
  email : fields.Gives "email" ({} : ProgramInfo).email Value.checkString p.email
  name : fields.Gives "name" ({} : ProgramInfo).name Value.checkString p.name
  url : fields.Gives "url" ({} : ProgramInfo).url Value.checkString p.url
  description :
    fields.Gives "description" ({} : ProgramInfo).description Value.checkString p.description
  version : fields.Gives "version" ({} : ProgramInfo).version Value.checkString p.version

theorem check_eq_accepted {v : Value} {p : ProgramInfo} :
    check v = .accepted p ↔ ∃ fields, v = .table fields ∧ p.GivenBy fields := by
  simp only [check, Check.bind_eq_accepted, Value.checkTable_eq_accepted, Check.app_eq_accepted,
    Check.map_eq_accepted, Value.Fields.optional_eq_accepted]
  constructor
  · rintro ⟨fields, hfields, _, version, ⟨_, description, ⟨_, url, ⟨_, name, ⟨_, email,
      ⟨author, hauthor, rfl⟩, hemail, rfl⟩, hname, rfl⟩, hurl, rfl⟩, hdescription, rfl⟩, hversion,
      rfl⟩
    exact ⟨fields, hfields, hauthor, hemail, hname, hurl, hdescription, hversion⟩
  · rintro ⟨fields, hfields, hauthor, hemail, hname, hurl, hdescription, hversion⟩
    exact ⟨fields, hfields, _, _, ⟨_, _, ⟨_, _, ⟨_, _, ⟨_, _, ⟨_, hauthor, rfl⟩, hemail, rfl⟩,
      hname, rfl⟩, hurl, rfl⟩, hdescription, rfl⟩, hversion, rfl⟩

theorem check_toValue (p : ProgramInfo) : check p.toValue = .accepted p := by
  simp [check, toValue, ProgramInfo.fields, Value.checkTable, Value.Fields.optional,
    Value.Fields.get?, Value.checkString, Check.bind, Check.app, Check.map, Check.under]

theorem looksAt_check : LooksAt (.record shape) check := by
  refine Value.looksAt_record ?_
  intro fields
  rw [Value.Fields.optional_strip ?_ Value.looksAt_checkString,
    Value.Fields.optional_strip ?_ Value.looksAt_checkString,
    Value.Fields.optional_strip ?_ Value.looksAt_checkString,
    Value.Fields.optional_strip ?_ Value.looksAt_checkString,
    Value.Fields.optional_strip ?_ Value.looksAt_checkString,
    Value.Fields.optional_strip ?_ Value.looksAt_checkString]
  all_goals rfl

theorem reports_check (v : Value) : (check v).Reports fun _ => True := by
  refine Value.reports_record trivial ?_ v
  intro fields
  have hfield : ∀ (key default : String),
      (fields.optional key default Value.checkString).Reports fun _ => True :=
    fun key default => Value.Fields.reports_optional fun v =>
      (Value.reports_checkString v).mono fun _ _ => trivial
  exact (((((((hfield _ _).map _).app (hfield _ _)).app (hfield _ _)).app (hfield _ _)).app
    (hfield _ _)).app (hfield _ _))

theorem isFaithful : IsFaithful check toValue shape where
  shows _ := ⟨_, rfl, rfl⟩
  again _ p _ := check_toValue p
  looksAt := looksAt_check
  explains v _ h := (reports_check v).ne_nil h

end ProgramInfo

namespace Settings

def shape : List (String × Shape) :=
  [("output", .scalar), ("concurrency", .scalar), ("extensions", .list .scalar),
    ("exclude_dirs", .list .scalar), ("program", .record ProgramInfo.shape)]

/-- Every setting is given by the table or by its default. -/
structure GivenBy (s : Settings) (fields : Value.Fields) : Prop where
  output : fields.Gives "output" ({} : Settings).output Value.checkString s.output
  concurrency :
    fields.Gives "concurrency" ({} : Settings).concurrency Value.checkPositive s.concurrency
  extensions : fields.Gives "extensions" ({} : Settings).extensions
    (Value.checkList Value.checkString) s.extensions
  excludeDirs : fields.Gives "exclude_dirs" ({} : Settings).excludeDirs
    (Value.checkList Value.checkString) s.excludeDirs
  program : fields.Gives "program" ({} : Settings).program ProgramInfo.check s.program

theorem check_eq_accepted {v : Value} {s : Settings} :
    check v = .accepted s ↔ ∃ fields, v = .table fields ∧ s.GivenBy fields := by
  simp only [check, Check.bind_eq_accepted, Value.checkTable_eq_accepted, Check.app_eq_accepted,
    Check.map_eq_accepted, Value.Fields.optional_eq_accepted]
  constructor
  · rintro ⟨fields, hfields, _, program, ⟨_, excludeDirs, ⟨_, extensions, ⟨_, concurrency,
      ⟨output, houtput, rfl⟩, hconcurrency, rfl⟩, hextensions, rfl⟩, hexcludeDirs, rfl⟩, hprogram,
      rfl⟩
    exact ⟨fields, hfields, houtput, hconcurrency, hextensions, hexcludeDirs, hprogram⟩
  · rintro ⟨fields, hfields, houtput, hconcurrency, hextensions, hexcludeDirs, hprogram⟩
    exact ⟨fields, hfields, _, _, ⟨_, _, ⟨_, _, ⟨_, _, ⟨_, houtput, rfl⟩, hconcurrency, rfl⟩,
      hextensions, rfl⟩, hexcludeDirs, rfl⟩, hprogram, rfl⟩

theorem one_le_concurrency {v : Value} {s : Settings} (h : check v = .accepted s) :
    1 ≤ s.concurrency := by
  obtain ⟨fields, -, hgiven⟩ := check_eq_accepted.mp h
  rcases hgiven.concurrency with ⟨v, -, hv⟩ | ⟨-, hdefault⟩
  · exact Value.one_le_of_checkPositive hv
  · rw [hdefault]
    decide

theorem looksAt_check : LooksAt (.record shape) check := by
  have hstrings := Value.looksAt_checkList Value.looksAt_checkString
  refine Value.looksAt_record ?_
  intro fields
  rw [Value.Fields.optional_strip ?_ Value.looksAt_checkString,
    Value.Fields.optional_strip ?_ Value.looksAt_checkPositive,
    Value.Fields.optional_strip ?_ hstrings, Value.Fields.optional_strip ?_ hstrings,
    Value.Fields.optional_strip ?_ ProgramInfo.looksAt_check]
  all_goals rfl

theorem reports_check (v : Value) : (check v).Reports fun _ => True := by
  have hstrings : ∀ v, (Value.checkList Value.checkString v).Reports Problem.IsOwn :=
    Value.reports_checkList trivial Value.reports_checkString
  refine Value.reports_record trivial ?_ v
  intro fields
  refine Check.Reports.app (Check.Reports.app (Check.Reports.app (Check.Reports.app
    (Check.Reports.map ?_ _) ?_) ?_) ?_) ?_
  · exact Value.Fields.reports_optional fun v =>
      (Value.reports_checkString v).mono fun _ _ => trivial
  · exact Value.Fields.reports_optional fun v =>
      (Value.reports_checkPositive v).mono fun _ _ => trivial
  · exact Value.Fields.reports_optional fun v => (hstrings v).mono fun _ _ => trivial
  · exact Value.Fields.reports_optional fun v => (hstrings v).mono fun _ _ => trivial
  · exact Value.Fields.reports_optional ProgramInfo.reports_check

theorem isFaithful : IsFaithful check toValue shape where
  shows _ := ⟨_, rfl, rfl⟩
  again v s h := by
    have hpositive : (1 : Int) ≤ s.concurrency := by
      have := one_le_concurrency h
      omega
    have hstrings : ∀ items, Value.checkList Value.checkString (.strings items) = .accepted items :=
      fun items => Value.checkList_map fun _ _ => rfl
    simp [check, toValue, Value.checkTable, Value.Fields.optional, Value.Fields.get?,
      Value.checkString, Value.checkPositive, Value.checkInt, hpositive, hstrings,
      ProgramInfo.check_toValue, Check.bind, Check.app, Check.map, Check.under]
  looksAt := looksAt_check
  explains v _ h := (reports_check v).ne_nil h

end Settings

end Settings

/-- The tag was accepted, by itself or among the tags of a file. -/
def Tag.IsAccepted (t : Tag) : Prop :=
  (∃ v, Tag.check v = .accepted t) ∨ ∃ v f, FileTags.check v = .accepted f ∧ t ∈ f.tags

theorem Tag.IsAccepted.isPlaced {t : Tag} (h : t.IsAccepted) : t.IsPlaced := by
  rcases h with ⟨v, hv⟩ | ⟨v, f, hf, ht⟩
  · exact isPlaced_of_check hv
  · obtain ⟨item, hitem⟩ := FileTags.exists_of_check hf ht
    exact isPlaced_of_check hitem

/-- Checks are faithful to their records, accepted tags stand where their addresses say, and an
address is reported only for a tag whose fields are all acceptable by themselves. -/
theorem checks_faithful :
    (IsFaithful Tag.check Tag.toValue Tag.shape ∧
      IsFaithful FileTags.check FileTags.toValue FileTags.shape ∧
      IsFaithful Failure.check Failure.toValue Failure.shape ∧
      IsFaithful Report.check Report.toValue Report.shape ∧
      IsFaithful ProgramInfo.check ProgramInfo.toValue ProgramInfo.shape ∧
      IsFaithful Settings.check Settings.toValue Settings.shape) ∧
    (∀ t : Tag, t.IsAccepted → t.IsPlaced) ∧
    (∀ t u : Tag, t.IsAccepted → u.IsAccepted → t.address = u.address → t.lineno = u.lineno) ∧
    (∀ v issues issue address offset, Tag.check v = .rejected issues → issue ∈ issues →
      issue.problem = .misplaced address offset →
      ∃ fields t, v = .table fields ∧ Tag.GivenBy t fields ∧
        issues = [⟨[], .misplaced t.address (lineOffset t.lineno)⟩]) ∧
    (∀ v issues issue address offset, FileTags.check v = .rejected issues → issue ∈ issues →
      issue.problem = .misplaced address offset →
      ∃ (fields : Value.Fields) (items : List Value) (i : ℕ) (item : Value.Fields) (t : Tag),
        v = .table fields ∧ fields.get? "tags" = some (.list items) ∧
        items[i]? = some (.table item) ∧ t.GivenBy item ∧
        issue = ⟨[.field "tags", .index i], .misplaced t.address (lineOffset t.lineno)⟩) := by
  refine ⟨⟨Tag.isFaithful, FileTags.isFaithful, Failure.isFaithful, Report.isFaithful,
    ProgramInfo.isFaithful, Settings.isFaithful⟩, fun t ht => ht.isPlaced, ?_, ?_, ?_⟩
  · intro t u ht hu haddress
    exact ht.isPlaced.lineno_eq hu.isPlaced haddress
  · intro v issues issue address offset hrejected hissue hproblem
    have hmem : issue ∈ (Tag.check v).issues := by rwa [hrejected]
    obtain ⟨fields, t, hfields, hgiven, rfl, rfl, hcheck⟩ :=
      Tag.misplaced_of_mem_issues hmem hproblem
    exact ⟨fields, t, hfields, hgiven, Check.rejected.inj (hrejected.symm.trans hcheck)⟩
  · intro v issues issue address offset hrejected hissue hproblem
    have hmem : issue ∈ (FileTags.check v).issues := by rwa [hrejected]
    obtain ⟨fields, items, i, item, hfields, hitems, hitem, hplace, hown⟩ :=
      FileTags.misplaced_of_mem_issues hmem hproblem
    obtain ⟨own, t, rfl, hgiven, rfl, rfl, -⟩ := Tag.misplaced_of_mem_issues hown rfl
    refine ⟨fields, items, i, own, t, hfields, hitems, hitem, hgiven, ?_⟩
    rw [← hplace, ← hproblem]

end ScriptTags
