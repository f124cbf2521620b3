import ScriptTags.Proofs.Files.Links
import ScriptTags.Settings.File

/-!
# Resolving links

The search for settings resolves links one by one, and gives up at a link that is met again while
the path that it holds is being resolved. This does not happen on a path that leads somewhere, and
such a path is resolved to the place where it leads.
-/

namespace ScriptTags.Files

namespace FileSystem

open Entry

variable {root : Entry} {here there : Location} {names : List String} {n : ℕ}

/-- Where the path that a link holds begins. -/
def base (link : Location) (target : String) : Location :=
  if Path.isAbsolute target then [] else link.dropLast

/-- A link whose path leads through at least some number of links, if it leads anywhere. -/
def LeadsFar (root : Entry) (n : ℕ) (link : Location) : Prop :=
  (∃ itself target, root.at? link = some (.link itself target)) ∧
    ∀ itself target m there, root.at? link = some (.link itself target) →
      Leads root m (base link target) (Path.names target) there → n ≤ m

theorem LeadsFar.mono {link : Location} {m : ℕ} (h : LeadsFar root n link) (hle : m ≤ n) :
    LeadsFar root m link :=
  ⟨h.1, fun itself target k there hlink hleads =>
    Nat.le_trans hle (h.2 itself target k there hlink hleads)⟩

/-- Names that lead somewhere are resolved to the place where they lead. The links that are being
resolved lead further than the names, so that none of them is met again; and as they differ, they
are not more than there are links. -/
theorem Leads.resolve (h : Leads root n here names there) {depth : ℕ} {active : List Location}
    (hnodup : active.Nodup) (hactive : ∀ link ∈ active, LeadsFar root n link)
    (hdepth : root.linkCount < depth + active.length) :
    Settings.resolve root depth active here names = .ok there := by
  induction h generalizing depth active with
  | nil => rw [Settings.resolve]
  | here hname _ ih =>
    rw [Settings.resolve, if_pos hname]
    exact ih hnodup hactive hdepth
  | above hname _ ih =>
    have hhere : ".." ≠ "." := by decide
    rw [Settings.resolve, hname, if_neg hhere, if_pos rfl]
    exact ih hnodup hactive hdepth
  | @entry n here name rest there hhere habove hentry _ ih =>
    rw [Settings.resolve, if_neg hhere, if_neg habove]
    dsimp only
    split
    · rename_i itself target hlink
      exact absurd hlink (hentry itself target)
    · exact ih hnodup hactive hdepth
  | @link m n here name rest next there itself target hhere habove hlink htarget _ ihtarget ih =>
    have hbase : base (here ++ [name]) target = if Path.isAbsolute target then [] else here := by
      rw [base, List.dropLast_concat]
    have hnew : here ++ [name] ∉ active := by
      intro hmem
      have := (hactive _ hmem).2 itself target m next hlink (hbase ▸ htarget)
      omega
    have hnodup' : ((here ++ [name]) :: active).Nodup := List.nodup_cons.mpr ⟨hnew, hnodup⟩
    have hself : LeadsFar root m (here ++ [name]) := by
      refine ⟨⟨itself, target, hlink⟩, ?_⟩
      intro itself' target' k there' hlink' hleads
      obtain ⟨rfl, rfl⟩ := link.inj (Option.some.inj (hlink.symm.trans hlink'))
      rw [hbase] at hleads
      exact Nat.le_of_eq (htarget.unique hleads).1
    have hactive' : ∀ link ∈ (here ++ [name]) :: active, LeadsFar root m link := by
      intro link hmem
      rcases List.mem_cons.mp hmem with rfl | hmem
      · exact hself
      · exact (hactive link hmem).mono (by omega)
    have hcount := length_le_linkCount hnodup' fun link hmem => (hactive' link hmem).1
    rw [List.length_cons] at hcount
    obtain ⟨depth, rfl⟩ := Nat.exists_eq_succ_of_ne_zero (show depth ≠ 0 by omega)
    have hinner : Settings.resolve root depth ((here ++ [name]) :: active)
        (if Path.isAbsolute target then [] else here) (Path.names target) = .ok next := by
      refine ihtarget hnodup' hactive' ?_
      rw [List.length_cons]
      omega
    rw [Settings.resolve, if_neg hhere, if_neg habove]
    simp only [hlink, List.contains_eq_mem, hnew, decide_false, Bool.false_eq_true, if_false,
      hinner]
    exact ih hnodup (fun link hmem => (hactive link hmem).mono (by omega)) hdepth

end FileSystem

end ScriptTags.Files

namespace ScriptTags.Settings

open Files

theorem searchStart_of_locate {fs : FileSystem} {start : String} {location : Location}
    (hnull : Path.hasNull start = false) (h : fs.locate (Path.normalize start) = .ok location) :
    searchStart fs start = .ok location := by
  obtain ⟨habsolute, hnames⟩ := Path.names_normalize start
  have hstart : fs.start (Path.normalize start) = fs.start start := by
    rw [FileSystem.start, habsolute, FileSystem.start]
  have hfollow : FileSystem.follow fs.root maxLinks (fs.start start)
      (Path.route (Path.normalize start)) = .ok location := by
    unfold FileSystem.locate at h
    split_ifs at h
    rwa [← hstart]
  obtain ⟨n, hleads⟩ := FileSystem.leads_of_follow hfollow
  rw [← FileSystem.leads_filter_iff, Path.filter_route, hnames, FileSystem.leads_filter_iff]
    at hleads
  have hresolve : resolve fs.root (fs.root.linkCount + 1) [] (fs.start start) (Path.names start) =
      .ok location := hleads.resolve List.nodup_nil (by simp) (Nat.lt_succ_self _)
  rw [searchStart, hnull, hresolve]
  rfl

end ScriptTags.Settings
