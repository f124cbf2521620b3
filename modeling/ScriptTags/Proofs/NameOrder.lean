import ScriptTags.Proofs.Document.Lines
import ScriptTags.Proofs.Order

/-!
# The order of names

Tags are sorted by their whole lines, and an editor searches them by name. The tab that ends a name
comes before every character of a usual one, so a name comes before its own continuations, and the
lines in order are names in order. The tags of one name stand together, and among them the files
are in order too.
-/

namespace ScriptTags
namespace Text

/-- Every code point of the text comes after that of the tab. -/
def AboveTab (s : String) : Prop := ∀ c ∈ s.toList, 0x09 < c.toNat

theorem AboveTab.lt_of_mem {s : String} (h : AboveTab s) {c : ℕ} (hc : c ∈ codePoints s) :
    0x09 < c := by
  obtain ⟨d, hd, rfl⟩ := List.mem_map.mp hc
  exact h d hd

/-- A mark below the characters of the greater text may follow both: it decides only where the
smaller one has ended. -/
theorem append_mark_lt {mark : ℕ} {x y : List ℕ} (hy : ∀ c ∈ y, mark < c) (h : x < y)
    (u v : List ℕ) : x ++ mark :: u < y ++ mark :: v := by
  induction x generalizing y with
  | nil =>
    cases y with
    | nil => simp at h
    | cons d y =>
      rw [List.nil_append, List.cons_append, List.cons_lt_cons_iff]
      exact .inl (hy d List.mem_cons_self)
  | cons c x ih =>
    cases y with
    | nil => simp at h
    | cons d y =>
      rw [List.cons_append, List.cons_append, List.cons_lt_cons_iff]
      rcases List.cons_lt_cons_iff.mp h with hlt | ⟨heq, hrest⟩
      · exact .inl hlt
      · refine .inr ⟨heq, ih ?_ hrest⟩
        intro e he
        exact hy e (.tail _ he)

theorem le_of_append_mark_le {mark : ℕ} {x y u v : List ℕ} (hx : ∀ c ∈ x, mark < c)
    (h : x ++ mark :: u ≤ y ++ mark :: v) : x ≤ y := by
  by_contra hlt
  exact h.not_gt (append_mark_lt hx (not_le.mp hlt) v u)

theorem le_of_append_le_append {x u v : List ℕ} (h : x ++ u ≤ x ++ v) : u ≤ v := by
  by_contra hlt
  exact h.not_gt (List.append_left_lt (not_le.mp hlt))

end Text

namespace Tag

variable {a b : Tag}

/-- The fields after the file in the line of a tag. -/
def afterFile (t : Tag) : List ℕ :=
  (t.address.toList ++ '\t' :: (t.kind.letter.toList ++ '\t' :: t.numberField)).map Char.toNat

theorem codePoints_render (t : Tag) :
    Text.codePoints t.render = Text.codePoints t.name ++
      0x09 :: (Text.codePoints t.file ++ 0x09 :: t.afterFile) := by
  rw [Text.codePoints, toList_render, List.map_append, List.map_cons, List.map_append,
    List.map_cons]
  rfl

theorem name_le_of_render_le (ha : Text.AboveTab a.name)
    (h : Text.codePoints a.render ≤ Text.codePoints b.render) :
    Text.codePoints a.name ≤ Text.codePoints b.name := by
  rw [codePoints_render, codePoints_render] at h
  exact Text.le_of_append_mark_le (fun c => ha.lt_of_mem) h

theorem file_le_of_render_le (hname : a.name = b.name) (ha : Text.AboveTab a.file)
    (h : Text.codePoints a.render ≤ Text.codePoints b.render) :
    Text.codePoints a.file ≤ Text.codePoints b.file := by
  rw [codePoints_render, codePoints_render, hname] at h
  have hrest := Text.le_of_append_le_append h
  have hfiles := Text.le_of_append_le_append (x := [0x09]) hrest
  exact Text.le_of_append_mark_le (fun c => ha.lt_of_mem) hfiles

end Tag

/-- In a list that is in the order of a key, the entries of one key stand together. -/
theorem eq_filter_append_of_sorted {α β : Type} [LinearOrder β] {key : α → β} {entries : List α}
    (h : entries.Pairwise fun a b => key a ≤ key b) (k : β) :
    entries = entries.filter (key · < k) ++ entries.filter (key · = k) ++
      entries.filter (k < key ·) := by
  induction entries with
  | nil => rfl
  | cons a rest ih =>
    obtain ⟨ha, hrest⟩ := List.pairwise_cons.mp h
    have hsplit := ih hrest
    -- Nothing that comes later has a smaller key than the first entry.
    have hnone {p : α → Prop} [DecidablePred p] (hp : ∀ b, key a ≤ key b → ¬ p b) :
        rest.filter (p ·) = [] := by
      rw [List.filter_eq_nil_iff]
      intro b hb
      simpa using hp b (ha b hb)
    rcases lt_trichotomy (key a) k with hlt | rfl | hgt
    · simp only [List.filter_cons, hlt, hlt.ne, hlt.not_gt, decide_true, decide_false]
      exact congrArg (a :: ·) hsplit
    · have hbelow := hnone (p := fun b => key b < key a) fun b hb => hb.not_gt
      rw [hbelow] at hsplit
      simp only [List.filter_cons, lt_irrefl, decide_true, decide_false, hbelow]
      exact congrArg (a :: ·) hsplit
    · have hbelow := hnone (p := fun b => key b < k) fun b hb => (hgt.trans_le hb).not_gt
      have hthere := hnone (p := fun b => key b = k) fun b hb => (hgt.trans_le hb).ne'
      rw [hbelow, hthere] at hsplit
      simp only [List.filter_cons, hgt, hgt.ne', hgt.not_gt, decide_true, decide_false, hbelow,
        hthere]
      exact congrArg (a :: ·) hsplit

/-- Flushed tags are in the order of their names. So the tags of one name form one block, and
within it they are in the order of their files. -/
theorem Collector.flush_sortedByName {tags : List Tag} (h : ∀ t ∈ tags, Text.AboveTab t.name) :
    ∃ sorted, (Collector.accumulating tags).flush = .ok (sorted, .flushed) ∧ sorted.Perm tags ∧
      sorted.Pairwise (fun a b => Text.codePoints a.name ≤ Text.codePoints b.name) ∧
      ∀ name, ∃ before block after, sorted = before ++ block ++ after ∧
        (∀ t ∈ block, t.name = name) ∧ (∀ t ∈ before ++ after, t.name ≠ name) ∧
        ((∀ t ∈ block, Text.AboveTab t.file) →
          block.Pairwise fun a b => Text.codePoints a.file ≤ Text.codePoints b.file) := by
  have hperm := Tag.sort_perm tags
  have hlines := Tag.sort_sorted tags
  have hnames : (Tag.sort tags).Pairwise
      fun a b => Text.codePoints a.name ≤ Text.codePoints b.name := by
    refine hlines.imp_of_mem ?_
    intro a b ha _ hab
    exact Tag.name_le_of_render_le (h a (hperm.mem_iff.mp ha)) hab
  refine ⟨Tag.sort tags, rfl, hperm, hnames, ?_⟩
  intro name
  refine ⟨_, _, _, eq_filter_append_of_sorted hnames (Text.codePoints name), ?_, ?_, ?_⟩
  · intro t ht
    have hkey := (List.mem_filter.mp ht).2
    exact Text.codePoints_strictMono.injective (by simpa using hkey)
  · rintro t ht rfl
    simp at ht
  · intro hfiles
    refine (hlines.filter _).imp_of_mem ?_
    intro a b ha hb hab
    have hkeys : Text.codePoints a.name = Text.codePoints b.name := by
      have hkeya := (List.mem_filter.mp ha).2
      have hkeyb := (List.mem_filter.mp hb).2
      simp only [decide_eq_true_eq] at hkeya hkeyb
      rw [hkeya, hkeyb]
    exact Tag.file_le_of_render_le (Text.codePoints_strictMono.injective hkeys) (hfiles a ha) hab

/-- Tags of a name and of two of its continuations, and a second tag of the name in an earlier
file. -/
def sampleNames : List Tag :=
  [⟨"x.y", "a.js", "0/\\<y\\>/;\"", .method, 1⟩, ⟨"x", "b.js", "4/\\<x\\>/;\"", .function, 5⟩,
   ⟨"x$", "a.js", "1/\\<x$\\>/;\"", .function, 2⟩,
   ⟨"x", "a.js", "7/\\<x\\>/;\"", .importBinding, 8⟩]

theorem Collector.flush_sortedByName_sample :
    (∀ t ∈ sampleNames, Text.AboveTab t.name ∧ Text.AboveTab t.file) ∧
      ∃ sorted, (Collector.accumulating sampleNames).flush = .ok (sorted, .flushed) ∧
        sorted.Perm sampleNames ∧
        sorted.Pairwise (fun a b => Text.codePoints a.name ≤ Text.codePoints b.name) ∧
        ∃ before block after, sorted = before ++ block ++ after ∧ (∀ t ∈ block, t.name = "x") ∧
          (∀ t ∈ before ++ after, t.name ≠ "x") ∧
          block.Pairwise fun a b => Text.codePoints a.file ≤ Text.codePoints b.file := by
  have hplain : ∀ t ∈ sampleNames, Text.AboveTab t.name ∧ Text.AboveTab t.file := by
    simp [sampleNames, Text.AboveTab]
  obtain ⟨sorted, hflush, hperm, hnames, hblocks⟩ :=
    flush_sortedByName fun t ht => (hplain t ht).1
  obtain ⟨before, block, after, hsorted, hblock, hothers, hfiles⟩ := hblocks "x"
  refine ⟨hplain, sorted, hflush, hperm, hnames, before, block, after, hsorted, hblock, hothers,
    hfiles ?_⟩
  intro t ht
  have hmem : t ∈ sorted := by simp [hsorted, ht]
  exact (hplain t (hperm.mem_iff.mp hmem)).2

end ScriptTags
