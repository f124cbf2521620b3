import ScriptTags.Proofs.Files.Lookup
import ScriptTags.Proofs.Files.Walk

/-!
# Rearranged directories

The entries of a directory are listed in no order to rely on. Trees that differ in such orders only
have the same entries at the same locations. So a path leads to the same place in both of them, and
a search takes the same files.
-/

namespace ScriptTags.Files

namespace Entry

/-- The same tree, with the entries of its directories in other orders. -/
inductive Rearranged : Entry → Entry → Prop
  | entries (own : String) {entries others : List Entry} (h : entries.Perm others) :
      Rearranged (.directory own entries) (.directory own others)
  | within (own : String) (before after : List Entry) {e e' : Entry} (h : Rearranged e e') :
      Rearranged (.directory own (before ++ e :: after)) (.directory own (before ++ e' :: after))
  | trans {e e' e'' : Entry} (h : Rearranged e e') (h' : Rearranged e' e'') : Rearranged e e''

theorem Rearranged.name_eq {e e' : Entry} (h : Rearranged e e') : e'.name = e.name := by
  induction h with
  | entries | within => rfl
  | trans _ _ ih ih' => exact ih'.trans ih

theorem IsTree.of_at? {root e : Entry} (h : root.IsTree) {here : Location}
    (he : root.at? here = some e) : e.IsTree := by
  have hbelow (there : Location) : root.at? (here ++ there) = e.at? there := by
    rw [at?_append, he, Option.bind_some]
  constructor
  · intro there own entries hdirectory
    exact h.distinct ((hbelow there).trans hdirectory)
  · intro there name child hchild
    have hfound : root.at? (here ++ there ++ [name]) = some child := by
      rw [List.append_assoc, hbelow, hchild]
    exact h.named hfound
  · intro there own target hlink
    exact h.targets ((hbelow there).trans hlink)

theorem isTree_directory_iff {own : String} {entries : List Entry} :
    (directory own entries).IsTree ↔
      (entries.map name).Nodup ∧ ∀ e ∈ entries, Path.IsName e.name ∧ e.IsTree := by
  constructor
  · intro h
    have hself : (directory own entries).at? [] = some (.directory own entries) := rfl
    refine ⟨h.distinct hself, ?_⟩
    intro e he
    have hfound := (h.at?_mem hself).mp he
    exact ⟨h.named hfound, h.of_at? hfound⟩
  · rintro ⟨hdistinct, h⟩
    exact isTree_directory hdistinct h own

theorem Rearranged.isTree {e e' : Entry} (h : Rearranged e e') (htree : e.IsTree) : e'.IsTree := by
  induction h with
  | entries own hperm =>
    rw [isTree_directory_iff] at htree ⊢
    refine ⟨(hperm.map name).nodup_iff.mp htree.1, ?_⟩
    intro e he
    exact htree.2 e (hperm.mem_iff.mpr he)
  | within own before after h ih =>
    rw [isTree_directory_iff] at htree ⊢
    obtain ⟨hdistinct, hentries⟩ := htree
    constructor
    · simpa [h.name_eq] using hdistinct
    · intro other hother
      rcases List.mem_append.mp hother with hother | hother
      · exact hentries other (List.mem_append_left _ hother)
      · rcases List.mem_cons.mp hother with rfl | hother
        · obtain ⟨hname, hsub⟩ := hentries _ (List.mem_append_right _ List.mem_cons_self)
          exact ⟨h.name_eq ▸ hname, ih hsub⟩
        · exact hentries other (List.mem_append_right _ (.tail _ hother))
  | trans _ _ ih ih' => exact ih' (ih htree)

/-- The same entries stand at the same locations of both trees. -/
def LooksLike (root root' : Entry) : Prop :=
  ∀ here, (root'.at? here).map surface = (root.at? here).map surface

theorem named?_perm {entries others : List Entry} (h : entries.Perm others)
    (hdistinct : (entries.map name).Nodup) (name : String) :
    named? others name = named? entries name := by
  have hothers : (others.map Entry.name).Nodup := (h.map Entry.name).nodup_iff.mp hdistinct
  apply Option.ext
  intro e
  rw [named?_eq_some_iff hdistinct, named?_eq_some_iff hothers, h.mem_iff]

theorem Rearranged.looksLike {e e' : Entry} (h : Rearranged e e') (htree : e.IsTree) :
    LooksLike e e' := by
  induction h with
  | entries own hperm =>
    intro here
    cases here with
    | nil => rfl
    | cons first rest => rw [at?, at?, named?_perm hperm (isTree_directory_iff.mp htree).1]
  | @within own before after e e' h ih =>
    have hsub := (isTree_directory_iff.mp htree).2 e (by simp)
    intro here
    cases here with
    | nil => rfl
    | cons first rest =>
      rw [at?, at?, named?, named?, List.find?_append, List.find?_append, List.find?_cons,
        List.find?_cons, h.name_eq]
      cases before.find? (·.name == first) with
      | some found => rfl
      | none =>
        cases e.name == first with
        | true => exact ih hsub.2 rest
        | false => rfl
  | trans h _ ih ih' =>
    intro here
    exact (ih' (h.isTree htree) here).trans (ih htree here)

variable {root root' : Entry} {here : Location}

theorem LooksLike.symm (h : LooksLike root root') : LooksLike root' root :=
  fun here => (h here).symm

theorem LooksLike.at?_of_some (h : LooksLike root root') {e : Entry}
    (he : root.at? here = some e) : ∃ e', root'.at? here = some e' ∧ e'.surface = e.surface := by
  exact SameAt.of_some (h here) he

theorem LooksLike.directory (h : LooksLike root root') {own : String} {entries : List Entry}
    (hdirectory : root.at? here = some (.directory own entries)) :
    ∃ others, root'.at? here = some (.directory own others) ∧
      ∀ name, (named? others name).map surface = (named? entries name).map surface := by
  obtain ⟨e, he, hsurface⟩ := h.at?_of_some hdirectory
  obtain ⟨others, rfl⟩ := surface_eq_directory hsurface
  refine ⟨others, he, ?_⟩
  intro name
  rw [← at?_concat he, ← at?_concat hdirectory]
  exact h (here ++ [name])

theorem LooksLike.directory_iff (h : LooksLike root root') (here : Location) :
    (∃ own entries, root'.at? here = some (.directory own entries)) ↔
      ∃ own entries, root.at? here = some (.directory own entries) := by
  constructor
  · rintro ⟨own, entries, hdirectory⟩
    obtain ⟨others, hothers, -⟩ := h.symm.directory hdirectory
    exact ⟨own, others, hothers⟩
  · rintro ⟨own, entries, hdirectory⟩
    obtain ⟨others, hothers, -⟩ := h.directory hdirectory
    exact ⟨own, others, hothers⟩

end Entry

namespace FileSystem

open Entry

variable {root root' : Entry}

/-- Names lead to the same place in both trees. -/
theorem follow_looksLike (h : LooksLike root root') (links : ℕ) (here : Location)
    (names : List String) : follow root' links here names = follow root links here names :=
  follow_congr fun place _ => h place

theorem locate_looksLike {fs : FileSystem} (h : LooksLike fs.root root') (path : String) :
    ({ fs with root := root' } : FileSystem).locate path = fs.locate path := by
  unfold locate
  rw [follow_looksLike h]
  rfl

end FileSystem

namespace Entry

variable {root root' : Entry} {s : Selection}

theorem leadsToDirectory_looksLike (h : LooksLike root root') (here : Location) {e e' : Entry}
    (hsurface : e'.surface = e.surface) :
    leadsToDirectory root' here e' = leadsToDirectory root here e := by
  cases e with
  | file => rw [surface_eq_file hsurface]; rfl
  | directory =>
    obtain ⟨others, rfl⟩ := surface_eq_directory hsurface
    rfl
  | link name target =>
    rw [surface_eq_link hsurface, Bool.eq_iff_iff, leadsToDirectory_link, leadsToDirectory_link]
    simp only [FileSystem.follow_looksLike h, h.directory_iff]

theorem IsTaken.looksLike {here below : Location} {name : String}
    (htaken : IsTaken root s here below name) (h : LooksLike root root') :
    IsTaken root' s here below name := by
  obtain ⟨⟨e, he, hleads⟩, hpassed, htakes⟩ := htaken
  obtain ⟨e', he', hsurface⟩ := h.at?_of_some he
  refine ⟨⟨e', he', ?_⟩, hpassed, htakes⟩
  rw [leadsToDirectory_looksLike h _ hsurface, hleads]

end Entry

end ScriptTags.Files
