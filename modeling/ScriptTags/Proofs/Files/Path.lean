import Mathlib.Data.List.Basic
import ScriptTags.Files.Path

/-!
# Names in paths

The names in a path are what stands between its slashes. Joining a name to a path adds it to them,
and shortening a path takes away the points that stand for the directory reached.
-/

namespace ScriptTags.Files.Path

theorem pieces_eq_splitOn (path : List Char) : pieces path = path.splitOn '/' := by
  induction path with
  | nil => rfl
  | cons c path ih =>
    rw [pieces, List.foldr_cons, ← pieces, ih, List.splitOn_cons_eq_if_modifyHead]
    have hne : path.splitOn '/' ≠ [] := List.splitOn_ne_nil '/' path
    by_cases h : c = '/'
    · simp [h]
    · rw [if_neg h, if_neg (by simpa using h)]
      cases hpieces : path.splitOn '/' with
      | nil => exact absurd hpieces hne
      | cons piece rest => rfl

theorem pieces_append_slash (a b : List Char) : pieces (a ++ '/' :: b) = pieces a ++ pieces b := by
  rw [pieces_eq_splitOn, pieces_eq_splitOn, pieces_eq_splitOn, List.splitOn_append_cons_self]

theorem pieces_of_not_mem {cs : List Char} (h : '/' ∉ cs) : pieces cs = [cs] := by
  rw [pieces_eq_splitOn, List.splitOn_eq_singleton h]

theorem mem_pieces {path : List Char} (c : Char) :
    (∃ piece ∈ pieces path, c ∈ piece) ↔ c ∈ path ∧ c ≠ '/' := by
  induction path with
  | nil => simp [pieces]
  | cons d path ih =>
    rw [List.mem_cons]
    by_cases hd : d = '/'
    · have hpieces : pieces (d :: path) = [] :: pieces path := by simp [pieces, hd]
      rw [hpieces, List.exists_mem_cons_iff, ih, hd]
      grind
    · obtain ⟨piece, rest, hrest⟩ := List.exists_cons_of_ne_nil
        (pieces_eq_splitOn path ▸ List.splitOn_ne_nil '/' path)
      have hpieces : pieces (d :: path) = (d :: piece) :: rest := by
        rw [pieces, List.foldr_cons, ← pieces, hrest, if_neg hd]
      rw [hrest, List.exists_mem_cons_iff] at ih
      rw [hpieces, List.exists_mem_cons_iff, List.mem_cons, or_assoc, ih]
      grind

theorem mem_names {path : String} (c : Char) :
    (∃ name ∈ names path, c ∈ name.toList) ↔ c ∈ path.toList ∧ c ≠ '/' := by
  rw [← mem_pieces]
  constructor
  · rintro ⟨name, hname, hc⟩
    rw [names, List.mem_map] at hname
    obtain ⟨piece, hpiece, rfl⟩ := hname
    exact ⟨piece, (List.mem_filter.mp hpiece).1, by simpa using hc⟩
  · rintro ⟨piece, hpiece, hc⟩
    refine ⟨String.ofList piece, ?_, by simpa using hc⟩
    rw [names]
    exact List.mem_map_of_mem (List.mem_filter.mpr ⟨hpiece, by simpa using List.ne_nil_of_mem hc⟩)

theorem mem_intercalate {names : List String} {c : Char} (hc : c ≠ '/') :
    c ∈ ("/".intercalate names).toList ↔ ∃ name ∈ names, c ∈ name.toList := by
  induction names with
  | nil => simp
  | cons name rest ih =>
    cases rest with
    | nil => simp
    | cons next rest =>
      rw [String.intercalate_cons_cons, List.exists_mem_cons_iff, ← ih]
      simp [hc]

/-- A text that can stand between the slashes of a path. -/
structure IsPiece (name : String) : Prop where
  nonempty : name ≠ ""
  slashFree : '/' ∉ name.toList

/-- A name that a directory entry can have. -/
structure IsName (name : String) : Prop extends IsPiece name where
  nullFree : hasNull name = false
  notHere : name ≠ "."
  notAbove : name ≠ ".."

theorem names_append_slash (a b : String) : names (a ++ "/" ++ b) = names a ++ names b := by
  have htoList : (a ++ "/" ++ b).toList = a.toList ++ '/' :: b.toList := by simp
  rw [names, htoList, pieces_append_slash, List.filter_append, List.map_append]
  rfl

theorem IsPiece.names_eq {name : String} (h : IsPiece name) : names name = [name] := by
  have htoList : name.toList.isEmpty = false := by simpa using h.nonempty
  rw [names, pieces_of_not_mem h.slashFree, List.filter_singleton, htoList]
  simp

theorem IsPiece.exists_cons {name : String} (h : IsPiece name) :
    ∃ c rest, name.toList = c :: rest ∧ c ≠ '/' := by
  obtain ⟨c, rest, hcons⟩ := List.exists_cons_of_ne_nil
    (mt String.toList_eq_nil_iff.mp h.nonempty)
  refine ⟨c, rest, hcons, ?_⟩
  rintro rfl
  exact h.slashFree (hcons ▸ List.mem_cons_self)

theorem isPiece_of_mem_names {path name : String} (hname : name ∈ names path) : IsPiece name where
  nonempty := by
    rw [names, List.mem_map] at hname
    obtain ⟨piece, hpiece, rfl⟩ := hname
    simpa using (List.mem_filter.mp hpiece).2
  slashFree hslash := ((mem_names '/').mp ⟨name, hname, hslash⟩).2 rfl

theorem hasNull_of_mem_names {path name : String} (h : hasNull path = false)
    (hname : name ∈ names path) : hasNull name = false := by
  rw [hasNull, List.contains_eq_mem, decide_eq_false_iff_not] at *
  exact fun hnull => h ((mem_names _).mp ⟨name, hname, hnull⟩).1

theorem exists_of_endsWithSlash {path : String} (h : endsWithSlash path = true) :
    ∃ base, path = base ++ "/" := by
  rw [endsWithSlash, beq_iff_eq, List.getLast?_eq_some_iff] at h
  obtain ⟨base, hbase⟩ := h
  refine ⟨String.ofList base, ?_⟩
  rw [← String.toList_inj, hbase]
  simp

section Join

variable {directory name : String}

/-- A joined path is a name by itself, or a name after a slash and a path of the same names. -/
theorem join_cases (directory name : String) :
    (directory = "" ∧ join directory name = name) ∨
    (directory ≠ "" ∧ ∃ base, names base = names directory ∧
      join directory name = base ++ "/" ++ name) := by
  by_cases hempty : directory = ""
  · exact .inl ⟨hempty, by simp [join, hempty]⟩
  · refine .inr ⟨hempty, ?_⟩
    by_cases hslash : endsWithSlash directory = true
    · obtain ⟨base, rfl⟩ := exists_of_endsWithSlash hslash
      refine ⟨base, ?_, by simp [join, hslash]⟩
      have := names_append_slash base ""
      simpa [names, pieces] using this.symm
    · exact ⟨directory, rfl, by simp [join, hslash, hempty]⟩

theorem names_join (hname : IsName name) :
    names (join directory name) = names directory ++ [name] := by
  have hself := hname.names_eq
  obtain ⟨rfl, hjoin⟩ | ⟨-, base, hbase, hjoin⟩ := join_cases directory name
  · rw [hjoin, hself]
    rfl
  · rw [hjoin, names_append_slash, hbase, hself]

theorem isAbsolute_join (hname : IsName name) :
    isAbsolute (join directory name) = isAbsolute directory := by
  unfold join
  by_cases hempty : directory = ""
  · obtain ⟨c, rest, hcons, hc⟩ := hname.exists_cons
    simp [hempty, isAbsolute, hcons, hc]
  · obtain ⟨c, rest, hcons⟩ := List.exists_cons_of_ne_nil (mt String.toList_eq_nil_iff.mp hempty)
    split_ifs <;> simp [isAbsolute, hcons]

theorem hasNull_join (directory name : String) :
    hasNull (join directory name) = (hasNull directory || hasNull name) := by
  unfold join
  split_ifs <;> simp [hasNull]

end Join

/-- The path of a place below a directory, by the names on the way. -/
def joinAll (directory : String) (below : List String) : String := below.foldl join directory

section JoinAll

variable {directory : String} {below : List String}

theorem names_joinAll (h : ∀ name ∈ below, IsName name) :
    names (joinAll directory below) = names directory ++ below := by
  induction below generalizing directory with
  | nil => simp [joinAll]
  | cons name rest ih =>
    rw [joinAll, List.foldl_cons, ← joinAll, ih fun other hother => h other (.tail _ hother),
      names_join (h name List.mem_cons_self), List.append_assoc, List.singleton_append]

theorem isAbsolute_joinAll (h : ∀ name ∈ below, IsName name) :
    isAbsolute (joinAll directory below) = isAbsolute directory := by
  induction below generalizing directory with
  | nil => rfl
  | cons name rest ih =>
    rw [joinAll, List.foldl_cons, ← joinAll, ih fun other hother => h other (.tail _ hother),
      isAbsolute_join (h name List.mem_cons_self)]

theorem hasNull_joinAll (h : ∀ name ∈ below, IsName name) :
    hasNull (joinAll directory below) = hasNull directory := by
  induction below generalizing directory with
  | nil => rfl
  | cons name rest ih =>
    rw [joinAll, List.foldl_cons, ← joinAll, ih fun other hother => h other (.tail _ hother),
      hasNull_join, (h name List.mem_cons_self).nullFree, Bool.or_false]

end JoinAll

section Normalize

theorem mem_anchor {path : String} {c : Char} (h : c ∈ (anchor path).toList) : c = '/' := by
  unfold anchor at h
  split at h
  · simp at h
  · simpa using h
  · simpa using h

/-- Shortening a path neither brings in nor takes away null characters. -/
theorem hasNull_normalize (path : String) : hasNull (normalize path) = hasNull path := by
  have hslash : Char.ofNat 0 ≠ '/' := by decide
  rw [hasNull, hasNull, List.contains_eq_mem, List.contains_eq_mem, decide_eq_decide]
  rw [show Char.ofNat 0 ∈ path.toList ↔ ∃ name ∈ names path, Char.ofNat 0 ∈ name.toList by
    rw [mem_names, and_iff_left hslash]]
  have hkept : (∃ name ∈ (names path).filter (· != "."), Char.ofNat 0 ∈ name.toList) ↔
      ∃ name ∈ names path, Char.ofNat 0 ∈ name.toList := by
    constructor
    · rintro ⟨name, hname, hc⟩
      exact ⟨name, (List.mem_filter.mp hname).1, hc⟩
    · rintro ⟨name, hname, hc⟩
      refine ⟨name, List.mem_filter.mpr ⟨hname, ?_⟩, hc⟩
      rw [bne_iff_ne]
      rintro rfl
      revert hc
      decide
  rw [← hkept, ← mem_intercalate hslash, normalize]
  split_ifs with hempty
  · have hnone : "/".intercalate ((names path).filter (· != ".")) = "" :=
      (String.append_eq_empty_iff.mp hempty).2
    rw [hnone]
    decide
  · rw [String.toList_append, List.mem_append, or_iff_right]
    intro hc
    exact hslash (mem_anchor hc)

theorem names_intercalate {kept : List String} (h : ∀ name ∈ kept, IsPiece name) :
    names ("/".intercalate kept) = kept := by
  induction kept with
  | nil => rfl
  | cons name rest ih =>
    have hself := (h name List.mem_cons_self).names_eq
    cases rest with
    | nil => simpa using hself
    | cons next rest =>
      rw [String.intercalate_cons_cons, names_append_slash, hself,
        ih fun other hother => h other (.tail _ hother)]
      rfl

theorem anchor_cases (path : String) :
    (isAbsolute path = false ∧ anchor path = "") ∨
      (isAbsolute path = true ∧ (anchor path = "/" ∨ anchor path = "//")) := by
  unfold isAbsolute anchor
  cases path.toList with
  | nil => exact .inl ⟨rfl, rfl⟩
  | cons c rest =>
    by_cases hc : c = '/'
    · refine .inr ⟨by simp [hc], ?_⟩
      split <;> simp_all
    · exact .inl ⟨by simp [hc], by simp [hc]⟩

theorem names_slash_append (text : String) : names ("/" ++ text) = names text :=
  names_append_slash "" text

theorem names_anchor_append (path text : String) : names (anchor path ++ text) = names text := by
  obtain ⟨-, hanchor⟩ | ⟨-, hanchor | hanchor⟩ := anchor_cases path
  · simp [hanchor]
  · rw [hanchor, names_slash_append]
  · rw [hanchor, show "//" ++ text = "/" ++ ("/" ++ text) by simp [← String.append_assoc],
      names_slash_append, names_slash_append]

theorem exists_intercalate_eq_append {kept : List String} (h : kept ≠ []) :
    ∃ start, ∃ last ∈ kept, "/".intercalate kept = start ++ last := by
  induction kept with
  | nil => exact absurd rfl h
  | cons name rest ih =>
    cases rest with
    | nil => exact ⟨"", name, List.mem_cons_self, by simp⟩
    | cons next rest =>
      obtain ⟨start, last, hlast, hrest⟩ := ih (List.cons_ne_nil next rest)
      exact ⟨name ++ "/" ++ start, last, .tail _ hlast, by
        rw [String.intercalate_cons_cons, hrest, ← String.append_assoc]⟩

theorem isAbsolute_intercalate {kept : List String} (h : ∀ name ∈ kept, IsPiece name) :
    isAbsolute ("/".intercalate kept) = false := by
  cases kept with
  | nil => rfl
  | cons name rest =>
    obtain ⟨c, cs, hcons, hc⟩ := (h name List.mem_cons_self).exists_cons
    cases rest <;> simp [isAbsolute, String.intercalate_cons_cons, hcons, hc]

theorem route_normalize {path : String} (h : (names path).filter (· != ".") ≠ []) :
    normalize path ≠ "" ∧ isAbsolute (normalize path) = isAbsolute path ∧
      route (normalize path) = (names path).filter (· != ".") := by
  generalize hkept : (names path).filter (· != ".") = kept at h ⊢
  have hnames : ∀ name ∈ kept, IsPiece name := by
    intro name hname
    rw [← hkept] at hname
    exact isPiece_of_mem_names (List.mem_filter.mp hname).1
  have hfollowed : names (anchor path ++ "/".intercalate kept) = kept := by
    rw [names_anchor_append, names_intercalate hnames]
  have hne : anchor path ++ "/".intercalate kept ≠ "" := by
    intro hempty
    rw [hempty] at hfollowed
    exact h hfollowed.symm
  have hnormalize : normalize path = anchor path ++ "/".intercalate kept := by
    rw [normalize, hkept, if_neg hne]
  obtain ⟨start, last, hlast, hend⟩ := exists_intercalate_eq_append h
  have hslash : endsWithSlash (normalize path) = false := by
    have hnil : last.toList ≠ [] := mt String.toList_eq_nil_iff.mp (hnames last hlast).nonempty
    rw [hnormalize, hend, endsWithSlash]
    simp only [String.toList_append]
    rw [List.getLast?_append_of_ne_nil _ (List.append_ne_nil_of_right_ne_nil _ hnil),
      List.getLast?_append_of_ne_nil _ hnil, List.getLast?_eq_some_getLast hnil,
      beq_eq_false_iff_ne]
    intro hlastChar
    exact (hnames last hlast).slashFree (Option.some.inj hlastChar ▸ List.getLast_mem hnil)
  refine ⟨hnormalize ▸ hne, ?_, ?_⟩
  · rw [hnormalize]
    obtain ⟨hrelative, hanchor⟩ | ⟨habsolute, hanchor | hanchor⟩ := anchor_cases path
    · rw [hrelative, hanchor, String.empty_append, isAbsolute_intercalate hnames]
    · rw [habsolute, hanchor]
      simp [isAbsolute]
    · rw [habsolute, hanchor]
      simp [isAbsolute]
  · rw [route, hslash, hnormalize, hfollowed]
    simp

theorem filter_route (path : String) :
    (route path).filter (· != ".") = (names path).filter (· != ".") := by
  rw [route, List.filter_append]
  split_ifs <;> simp

/-- A shortened path begins where the path does and has the same names. -/
theorem names_normalize (path : String) :
    isAbsolute (normalize path) = isAbsolute path ∧
      (names (normalize path)).filter (· != ".") = (names path).filter (· != ".") := by
  by_cases hkept : (names path).filter (· != ".") = []
  · have hnormalize : normalize path = if anchor path = "" then "." else anchor path := by
      simp [normalize, hkept]
    rw [hkept, hnormalize]
    rcases anchor_cases path with ⟨hrelative, hanchor⟩ | ⟨habsolute, hanchor | hanchor⟩
    · rw [hrelative, hanchor]
      decide
    · rw [habsolute, hanchor]
      decide
    · rw [habsolute, hanchor]
      decide
  · obtain ⟨-, habsolute, hroute⟩ := route_normalize hkept
    refine ⟨habsolute, ?_⟩
    rw [← filter_route, hroute, List.filter_filter]
    simp

end Normalize

end ScriptTags.Files.Path
