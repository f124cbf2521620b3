import Mathlib.Data.List.Forall2
import Mathlib.Tactic.SplitIfs
import ScriptTags.Record.Check

/-!
# What checks accept and report

Checks are composed of checks of parts. A composed check accepts a value when its parts do, and
what it reports are the issues of its parts, each with its place. A value is never rejected without
an issue.
-/

namespace ScriptTags.Record

namespace Check

variable {α β : Type}

/-- Everything that is reported of a value. -/
def issues : Check α → List Issue
  | .accepted _ => []
  | .rejected issues => issues

@[simp] theorem issues_accepted (a : α) : (accepted a).issues = [] := rfl

@[simp] theorem issues_refuse (problem : Problem) :
    (refuse problem : Check α).issues = [⟨[], problem⟩] := rfl

@[simp] theorem issues_map (f : α → β) (a : Check α) : (a.map f).issues = a.issues := by
  cases a <;> rfl

@[simp] theorem issues_app (f : Check (α → β)) (a : Check α) :
    (f.app a).issues = f.issues ++ a.issues := by
  cases f <;> cases a <;> simp [app, issues]

@[simp] theorem issues_under (step : Step) (a : Check α) :
    (a.under step).issues = a.issues.map (·.under step) := by
  cases a <;> rfl

/-- A value that is rejected has an issue, and its problems are of one kind. -/
structure Reports (P : Problem → Prop) (a : Check α) : Prop where
  explained : a ≠ .rejected []
  problems : ∀ issue ∈ a.issues, P issue.problem

variable {P Q : Problem → Prop} {a : Check α}

theorem Reports.ne_nil (h : a.Reports P) {issues : List Issue} (hrejected : a = .rejected issues) :
    issues ≠ [] := by
  rintro rfl
  exact h.explained hrejected

theorem Reports.mono (h : a.Reports P) (himp : ∀ problem, P problem → Q problem) : a.Reports Q :=
  ⟨h.explained, fun issue hissue => himp _ (h.problems issue hissue)⟩

theorem reports_accepted (value : α) : (accepted value).Reports P :=
  ⟨nofun, by simp⟩

theorem reports_refuse {problem : Problem} (h : P problem) : (refuse problem : Check α).Reports P :=
  ⟨nofun, by simpa using h⟩

theorem Reports.map (h : a.Reports P) (f : α → β) : (a.map f).Reports P := by
  refine ⟨?_, by simpa using h.problems⟩
  cases a with
  | accepted value => nofun
  | rejected issues => exact fun hnone => h.explained (by cases hnone; rfl)

theorem Reports.under (h : a.Reports P) (step : Step) : (a.under step).Reports P := by
  constructor
  · cases a with
    | accepted value => nofun
    | rejected issues =>
      intro hnone
      rw [Check.under, rejected.injEq, List.map_eq_nil_iff] at hnone
      exact h.explained (by rw [hnone])
  · intro issue hissue
    rw [issues_under, List.mem_map] at hissue
    obtain ⟨inner, hinner, rfl⟩ := hissue
    exact h.problems inner hinner

theorem Reports.app {f : Check (α → β)} (hf : f.Reports P) (ha : a.Reports P) :
    (f.app a).Reports P := by
  constructor
  · have hfirst := hf.explained
    have hsecond := ha.explained
    cases f <;> cases a <;> simp_all [Check.app]
  · intro issue hissue
    rw [issues_app, List.mem_append] at hissue
    rcases hissue with hissue | hissue
    · exact hf.problems issue hissue
    · exact ha.problems issue hissue

theorem Reports.bind {f : α → Check β} (ha : a.Reports P)
    (hf : ∀ value, a = .accepted value → (f value).Reports P) : (a.bind f).Reports P := by
  cases a with
  | accepted value => exact hf value rfl
  | rejected issues => exact ⟨fun hnone => ha.explained (by cases hnone; rfl), ha.problems⟩

end Check

/-- A problem of a value by itself, and not of how two fields fit together. -/
def Problem.IsOwn : Problem → Prop
  | .misplaced _ _ => False
  | _ => True

namespace Value

open Check

section Reports

variable {α : Type} {P : Problem → Prop} {check : Value → Check α} {fields : Fields} {key : String}

theorem reports_checkString (v : Value) : v.checkString.Reports Problem.IsOwn := by
  cases v with
  | string s => exact reports_accepted s
  | _ => exact reports_refuse trivial

theorem reports_checkNonempty (v : Value) : v.checkNonempty.Reports Problem.IsOwn := by
  refine (reports_checkString v).bind ?_
  intro s _
  split_ifs
  · exact reports_refuse trivial
  · exact reports_accepted s

theorem reports_checkInt (v : Value) : v.checkInt.Reports Problem.IsOwn := by
  cases v with
  | int n => exact reports_accepted n
  | bool b => exact reports_accepted _
  | float x =>
    rw [checkInt, checkFloat]
    split
    · exact reports_refuse trivial
    · exact reports_refuse trivial
    · split
      · exact reports_refuse trivial
      · split
        · exact reports_accepted _
        · exact reports_refuse trivial
  | string s =>
    rw [checkInt]
    split
    · split
      · exact reports_accepted _
      · exact reports_refuse trivial
    · exact reports_refuse trivial
  | _ => exact reports_refuse trivial

theorem reports_checkPositive (v : Value) : v.checkPositive.Reports Problem.IsOwn := by
  refine (reports_checkInt v).bind ?_
  intro n _
  split_ifs
  · exact reports_accepted _
  · exact reports_refuse trivial

theorem reports_checkItems (h : ∀ v, (check v).Reports P) (items : List Value) (i : Nat) :
    (checkItems check i items).Reports P := by
  induction items generalizing i with
  | nil => exact reports_accepted []
  | cons v rest ih => exact (((h v).under _).map _).app (ih (i + 1))

theorem reports_checkList (hlist : P .notList) (h : ∀ v, (check v).Reports P) (v : Value) :
    (checkList check v).Reports P := by
  cases v with
  | list items => exact reports_checkItems h items 0
  | _ => exact reports_refuse hlist

theorem reports_record {model : String} {read : Fields → Check α} (htable : P (.notRecord model))
    (h : ∀ fields, (read fields).Reports P) (v : Value) :
    ((v.checkTable model).bind read).Reports P := by
  cases v with
  | table fields => exact h fields
  | _ => exact reports_refuse htable

theorem Fields.reports_required (hmissing : P .missing) (h : ∀ v, (check v).Reports P) :
    (fields.required key check).Reports P := by
  unfold required
  split
  · exact (h _).under _
  · exact ⟨nofun, by simpa [issues] using hmissing⟩

theorem Fields.reports_optional {default : α} (h : ∀ v, (check v).Reports P) :
    (fields.optional key default check).Reports P := by
  unfold optional
  split
  · exact (h _).under _
  · exact reports_accepted default

theorem mem_issues_checkItems {items : List Value} {i : Nat} {issue : Issue} :
    issue ∈ (checkItems check i items).issues ↔
      ∃ k v inner, items[k]? = some v ∧ inner ∈ (check v).issues ∧
        issue = inner.under (.index (i + k)) := by
  induction items generalizing i with
  | nil => simp [checkItems]
  | cons v rest ih =>
    rw [checkItems, issues_app, issues_map, issues_under, List.mem_append, List.mem_map, ih]
    constructor
    · rintro (⟨inner, hinner, rfl⟩ | ⟨k, other, inner, hother, hinner, rfl⟩)
      · exact ⟨0, v, inner, rfl, hinner, rfl⟩
      · refine ⟨k + 1, other, inner, hother, hinner, ?_⟩
        rw [Nat.add_assoc, Nat.add_comm 1 k]
    · rintro ⟨k, other, inner, hother, hinner, rfl⟩
      cases k with
      | zero =>
        obtain rfl := Option.some.inj hother
        exact .inl ⟨inner, hinner, rfl⟩
      | succ k =>
        refine .inr ⟨k, other, inner, hother, hinner, ?_⟩
        rw [Nat.add_assoc, Nat.add_comm 1 k]

theorem Fields.mem_issues_optional {default : α} {issue : Issue}
    (h : issue ∈ (fields.optional key default check).issues) :
    ∃ v inner, fields.get? key = some v ∧ inner ∈ (check v).issues ∧
      issue = inner.under (.field key) := by
  unfold optional at h
  split at h
  · rename_i v hv
    rw [issues_under, List.mem_map] at h
    obtain ⟨inner, hinner, rfl⟩ := h
    exact ⟨v, inner, hv, hinner, rfl⟩
  · simp at h

end Reports

section Accepted

variable {α : Type} {check : Value → Check α} {fields : Fields} {key : String}

theorem checkTable_eq_accepted {model : String} {v : Value} :
    v.checkTable model = .accepted fields ↔ v = .table fields := by
  cases v <;> simp [checkTable, refuse]

theorem checkNonempty_eq_accepted {v : Value} {s : String} :
    v.checkNonempty = .accepted s ↔ v = .string s ∧ s ≠ "" := by
  cases v with
  | string t =>
    rw [checkNonempty_string_eq_accepted, string.injEq]
    constructor
    · rintro ⟨hne, rfl⟩
      exact ⟨rfl, hne⟩
    · rintro ⟨rfl, hne⟩
      exact ⟨hne, rfl⟩
  | _ => simp [checkNonempty, checkString, refuse, Check.bind]

theorem one_le_of_checkPositive {v : Value} {n : Nat} (h : v.checkPositive = .accepted n) :
    1 ≤ n := by
  obtain ⟨m, -, hm⟩ := bind_eq_accepted.mp h
  split at hm
  · cases hm
    omega
  · cases hm

/-- A field is given by what stands in it, or by its default if it is absent. -/
def Fields.Gives (fields : Fields) (key : String) (default : α) (check : Value → Check α) (a : α) :
    Prop :=
  (∃ v, fields.get? key = some v ∧ check v = .accepted a) ∨ fields.get? key = none ∧ a = default

theorem Fields.optional_eq_accepted {default a : α} :
    fields.optional key default check = .accepted a ↔ fields.Gives key default check a := by
  unfold optional Gives
  cases fields.get? key with
  | none => simp [eq_comm]
  | some v => simp [under_eq_accepted]

theorem checkItems_eq_accepted {items : List Value} {i : Nat} {as : List α} :
    checkItems check i items = .accepted as ↔
      List.Forall₂ (fun v a => check v = .accepted a) items as := by
  induction items generalizing i as with
  | nil => simp [checkItems, eq_comm]
  | cons v rest ih =>
    rw [checkItems, app_eq_accepted, List.forall₂_cons_left_iff]
    simp only [map_eq_accepted, under_eq_accepted, ih]
    constructor
    · rintro ⟨_, others, ⟨a, ha, rfl⟩, hothers, rfl⟩
      exact ⟨a, others, ha, hothers, rfl⟩
    · rintro ⟨a, others, ha, hothers, rfl⟩
      exact ⟨_, others, ⟨a, ha, rfl⟩, hothers, rfl⟩

theorem checkList_eq_accepted {v : Value} {as : List α} :
    checkList check v = .accepted as ↔
      ∃ items, v = .list items ∧ List.Forall₂ (fun v a => check v = .accepted a) items as := by
  cases v <;> simp [checkList, refuse, checkItems_eq_accepted]

theorem exists_of_checkList {v : Value} {as : List α} (h : checkList check v = .accepted as) {a : α}
    (ha : a ∈ as) : ∃ item, check item = .accepted a := by
  obtain ⟨items, -, hitems⟩ := checkList_eq_accepted.mp h
  clear h
  induction hitems with
  | nil => exact absurd ha List.not_mem_nil
  | @cons item _ _ _ hitem _ ih =>
    rcases List.mem_cons.mp ha with rfl | ha
    · exact ⟨item, hitem⟩
    · exact ih ha

theorem checkList_map {toValue : α → Value} {as : List α}
    (h : ∀ a ∈ as, check (toValue a) = .accepted a) :
    checkList check (.list (as.map toValue)) = .accepted as := by
  rw [checkList_eq_accepted]
  refine ⟨_, rfl, ?_⟩
  rw [List.forall₂_map_left_iff, List.forall₂_same]
  exact h

end Accepted

end Value

end ScriptTags.Record
