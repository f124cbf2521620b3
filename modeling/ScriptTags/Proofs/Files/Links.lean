import Mathlib.Data.List.Perm.Subperm
import ScriptTags.Proofs.Files.Walk

/-!
# Links on the way

A tree has as many links as it has locations of links. Names that lead somewhere pass through a
certain number of them, which the names and the tree decide. So a link is never met again while the
path that it holds is being followed: that would take more links than it takes.
-/

namespace ScriptTags.Files

namespace Entry

mutual

/-- The links of a tree, each with its location and the path that it holds. -/
def links : Entry → List (Location × String)
  | .file _ _ => []
  | .link _ target => [([], target)]
  | .directory _ entries => linksOf entries

def linksOf : List Entry → List (Location × String)
  | [] => []
  | e :: rest => (e.links.map fun link => (e.name :: link.1, link.2)) ++ linksOf rest

end

theorem length_links (e : Entry) : e.links.length = e.linkCount := by
  induction e using Entry.ind with
  | file | link => rfl
  | directory own entries ih =>
    rw [links, linkCount]
    clear own
    induction entries with
    | nil => rfl
    | cons e rest ihrest =>
      rw [linksOf, linkCountOf, List.length_append, List.length_map, ih e List.mem_cons_self,
        ihrest fun other hother => ih other (.tail _ hother)]

theorem mem_linksOf {entries : List Entry} {e : Entry} (he : e ∈ entries) {here : Location}
    {target : String} (h : (here, target) ∈ e.links) :
    (e.name :: here, target) ∈ linksOf entries := by
  induction entries with
  | nil => exact absurd he List.not_mem_nil
  | cons other rest ih =>
    rw [linksOf, List.mem_append]
    rcases List.mem_cons.mp he with rfl | he
    · exact .inl (List.mem_map_of_mem h)
    · exact .inr (ih he)

theorem mem_links {root : Entry} {here : Location} {itself target : String}
    (h : root.at? here = some (.link itself target)) : (here, target) ∈ root.links := by
  induction here generalizing root with
  | nil =>
    rw [at?, Option.some.injEq] at h
    rw [h, links]
    exact List.mem_cons_self
  | cons name rest ih =>
    obtain ⟨own, entries, child, rfl, hchild, hrest⟩ := at?_cons h
    have hname : child.name = name := name_of_named? hchild
    rw [links, ← hname]
    exact mem_linksOf (List.mem_of_find?_eq_some hchild) (ih hrest)

theorem length_le_linkCount {root : Entry} {locations : List Location} (hnodup : locations.Nodup)
    (hlinks : ∀ here ∈ locations, ∃ itself target, root.at? here = some (.link itself target)) :
    locations.length ≤ root.linkCount := by
  have hsubset : locations ⊆ root.links.map Prod.fst := by
    intro here hhere
    obtain ⟨itself, target, hlink⟩ := hlinks here hhere
    exact List.mem_map_of_mem (f := Prod.fst) (mem_links hlink)
  have hle := (List.subperm_of_subset hnodup hsubset).length_le
  rwa [List.length_map, length_links] at hle

end Entry

namespace FileSystem

open Entry

/-- Names that are short, in a tree whose links hold short names, are never too long to follow. -/
theorem follow_ne_nameTooLong {root : Entry} (hlinks : ∀ link ∈ root.links,
      ∀ name ∈ Path.names link.2, name.utf8ByteSize ≤ maxNameBytes) {links : ℕ} {here : Location}
    {names : List String} (hnames : ∀ name ∈ names, name.utf8ByteSize ≤ maxNameBytes) :
    follow root links here names ≠ .error .nameTooLong := by
  fun_induction follow root links here names with
  | case1 | case5 | case6 | case9 | case10 => simp
  | case2 _ _ _ _ _ _ ih => exact ih fun name hname => hnames name (.tail _ hname)
  | case3 _ _ _ _ _ _ _ ih => exact ih fun name hname => hnames name (.tail _ hname)
  | case4 _ _ name _ _ _ _ _ _ hlong =>
    exact absurd (hnames name List.mem_cons_self) (Nat.not_le.mpr hlong)
  | case7 here name rest _ _ hdirectory _ _ _ _ target hlink links ih =>
    have htarget := hlinks _ (mem_links ((at?_concat hdirectory name).trans hlink))
    simp only [dite_eq_ite] at ih
    refine ih ?_
    intro other hother
    rcases List.mem_append.mp hother with hother | hother
    · rw [Path.route, List.mem_append] at hother
      rcases hother with hother | hother
      · exact htarget other hother
      · split_ifs at hother
        · obtain rfl := List.mem_singleton.mp hother
          decide
        · exact absurd hother List.not_mem_nil
    · exact hnames other (.tail _ hother)
  | case8 _ _ _ _ _ _ _ _ _ _ _ _ _ ih => exact ih fun name hname => hnames name (.tail _ hname)

/-- Names lead from a location to another one, through a number of links. -/
inductive Leads (root : Entry) : ℕ → Location → List String → Location → Prop
  | nil {here} : Leads root 0 here [] here
  | here {n here name rest there} (hname : name = ".") (h : Leads root n here rest there) :
      Leads root n here (name :: rest) there
  | above {n here name rest there} (hname : name = "..")
      (h : Leads root n here.dropLast rest there) : Leads root n here (name :: rest) there
  | entry {n here name rest there} (hhere : name ≠ ".") (habove : name ≠ "..")
      (hentry : ∀ itself target, root.at? (here ++ [name]) ≠ some (.link itself target))
      (h : Leads root n (here ++ [name]) rest there) : Leads root n here (name :: rest) there
  | link {m n here name rest next there itself target} (hhere : name ≠ ".") (habove : name ≠ "..")
      (hlink : root.at? (here ++ [name]) = some (.link itself target))
      (htarget : Leads root m (if Path.isAbsolute target then [] else here) (Path.names target)
        next)
      (h : Leads root n next rest there) : Leads root (m + n + 1) here (name :: rest) there

variable {root : Entry} {here there : Location} {names : List String}

theorem Leads.unique {n n' : ℕ} {there' : Location} (h : Leads root n here names there)
    (h' : Leads root n' here names there') : n = n' ∧ there = there' := by
  induction h generalizing n' there' with
  | nil =>
    cases h'
    exact ⟨rfl, rfl⟩
  | here hname _ ih =>
    cases h' with
    | here _ h' => exact ih h'
    | above hname' => exact absurd (hname.symm.trans hname') (by decide)
    | entry hhere | link hhere => exact absurd hname hhere
  | above hname _ ih =>
    cases h' with
    | here hname' => exact absurd (hname.symm.trans hname') (by decide)
    | above _ h' => exact ih h'
    | entry _ habove | link _ habove => exact absurd hname habove
  | entry hhere habove hentry _ ih =>
    cases h' with
    | here hname => exact absurd hname hhere
    | above hname => exact absurd hname habove
    | entry _ _ _ h' => exact ih h'
    | link _ _ hlink => exact absurd hlink (hentry _ _)
  | link hhere habove hlink _ _ ihtarget ih =>
    cases h' with
    | here hname => exact absurd hname hhere
    | above hname => exact absurd hname habove
    | entry _ _ hentry => exact absurd hlink (hentry _ _)
    | link _ _ hlink' htarget' h' =>
      obtain ⟨rfl, rfl⟩ := link.inj (Option.some.inj (hlink.symm.trans hlink'))
      obtain ⟨rfl, rfl⟩ := ihtarget htarget'
      obtain ⟨rfl, rfl⟩ := ih h'
      exact ⟨rfl, rfl⟩

theorem Leads.of_append {n : ℕ} {first rest : List String}
    (h : Leads root n here (first ++ rest) there) :
    ∃ m k next, n = m + k ∧ Leads root m here first next ∧ Leads root k next rest there := by
  induction first generalizing n here with
  | nil => exact ⟨0, n, here, (Nat.zero_add n).symm, .nil, h⟩
  | cons name first ih =>
    cases h with
    | here hname h =>
      obtain ⟨m, k, next, hsum, hfirst, hrest⟩ := ih h
      exact ⟨m, k, next, hsum, .here hname hfirst, hrest⟩
    | above hname h =>
      obtain ⟨m, k, next, hsum, hfirst, hrest⟩ := ih h
      exact ⟨m, k, next, hsum, .above hname hfirst, hrest⟩
    | entry hhere habove hentry h =>
      obtain ⟨m, k, next, hsum, hfirst, hrest⟩ := ih h
      exact ⟨m, k, next, hsum, .entry hhere habove hentry hfirst, hrest⟩
    | @link l n _ _ _ _ _ _ _ hhere habove hlink htarget h =>
      obtain ⟨m, k, next, rfl, hfirst, hrest⟩ := ih h
      exact ⟨l + m + 1, k, next, by omega, .link hhere habove hlink htarget hfirst, hrest⟩

theorem leads_filter_iff {n : ℕ} :
    Leads root n here (names.filter (· != ".")) there ↔ Leads root n here names there := by
  induction names generalizing n here with
  | nil => rfl
  | cons name rest ih =>
    by_cases hname : name = "."
    · have hskipped : (name :: rest).filter (· != ".") = rest.filter (· != ".") := by
        simp [hname]
      rw [hskipped, ih]
      constructor
      · exact .here hname
      · intro h
        cases h with
        | here _ h => exact h
        | above habove => exact absurd (hname.symm.trans habove) (by decide)
        | entry hhere | link hhere => exact absurd hname hhere
    · have hkept : (name :: rest).filter (· != ".") = name :: rest.filter (· != ".") := by
        simp [hname]
      rw [hkept]
      constructor
      · intro h
        cases h with
        | here hhere => exact absurd hhere hname
        | above habove h => exact .above habove (ih.mp h)
        | entry hhere habove hentry h => exact .entry hhere habove hentry (ih.mp h)
        | link hhere habove hlink htarget h => exact .link hhere habove hlink htarget (ih.mp h)
      · intro h
        cases h with
        | here hhere => exact absurd hhere hname
        | above habove h => exact .above habove (ih.mpr h)
        | entry hhere habove hentry h => exact .entry hhere habove hentry (ih.mpr h)
        | link hhere habove hlink htarget h => exact .link hhere habove hlink htarget (ih.mpr h)

theorem Leads.of_route {n : ℕ} {path : String} (h : Leads root n here (Path.route path) there) :
    Leads root n here (Path.names path) there := by
  rw [← leads_filter_iff, Path.filter_route] at h
  exact leads_filter_iff.mp h

theorem leads_of_follow {links : ℕ} (h : follow root links here names = .ok there) :
    ∃ n, Leads root n here names there := by
  fun_induction follow root links here names with
  | case1 links here =>
    obtain rfl := Except.ok.inj h
    exact ⟨0, .nil⟩
  | case2 _ _ _ _ _ _ ih =>
    obtain ⟨n, hleads⟩ := ih h
    exact ⟨n, .here rfl hleads⟩
  | case3 _ _ _ _ _ _ _ ih =>
    obtain ⟨n, hleads⟩ := ih h
    exact ⟨n, .above rfl hleads⟩
  | case4 | case5 | case6 | case9 | case10 => simp at h
  | case7 here name rest _ _ hdirectory hhere habove _ _ target hlink links ih =>
    obtain ⟨n, hleads⟩ := ih (by simpa using h)
    simp only [dite_eq_ite] at hleads
    obtain ⟨m, k, next, -, htarget, hrest⟩ := hleads.of_append
    exact ⟨_, .link hhere habove ((at?_concat hdirectory name).trans hlink) htarget.of_route hrest⟩
  | case8 links here name rest _ _ hdirectory hhere habove _ e hlink hentry ih =>
    obtain ⟨n, hleads⟩ := ih h
    refine ⟨n, .entry hhere habove ?_ hleads⟩
    intro itself target hother
    rw [at?_concat hdirectory, hentry] at hother
    exact hlink itself target (Option.some.inj hother)

end FileSystem

end ScriptTags.Files
