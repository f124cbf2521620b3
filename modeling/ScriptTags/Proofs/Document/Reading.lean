import Mathlib.Data.Set.Function
import ScriptTags.Proofs.Document.Lines
import ScriptTags.Proofs.Mention
import ScriptTags.Proofs.Tag

/-!
# Reading a tags file back

A line of a tags file is read from both ends: the name comes first, the address, the kind and the
line number come last, and what stands between them is the file, which may hold tabs. Nothing that
was written is lost as long as the name and the address hold no tab, and the lines of a whole file
can be told apart.
-/

namespace ScriptTags

open Record

/-- The number that decimal digits spell. -/
def decimal? (digits : List Char) : Option ℕ :=
  if digits.isEmpty || digits.any (!·.isDigit) then none else some (Nat.ofDigitChars 10 digits 0)

@[simp] theorem decimal?_toDigits (n : ℕ) : decimal? (Nat.toDigits 10 n) = some n := by
  have hdigits : ∀ c ∈ Nat.toDigits 10 n, c.isDigit = true := fun c hc =>
    Nat.isDigit_of_mem_toDigits (by decide) (by decide) hc
  have hany : (Nat.toDigits 10 n).any (!·.isDigit) = false := by
    simpa [List.any_eq_false] using hdigits
  rw [decimal?, hany]
  simp

namespace Tag

def lineno? (text : List Char) : Option ℕ :=
  if numberLabel.isPrefixOf text then decimal? (text.drop numberLabel.length) else none

/-- The tag that a line of a tags file holds. -/
def ofLine? (line : String) : Option Tag :=
  match line.toList.splitOn '\t' with
  | [] => none
  | name :: rest =>
    match rest.reverse with
    | lineno :: letter :: address :: file => do
      let kind ← Kind.ofLetter? (String.ofList letter)
      let lineno ← lineno? lineno
      return ⟨String.ofList name, String.ofList (['\t'].intercalate file.reverse),
        String.ofList address, kind, lineno⟩
    | _ => none

/-- What stands before and after the word in an address, behind the number of lines. -/
def wordStart : List Char := ['/', '\\', '<']
def wordEnd : List Char := ['\\', '>', '/', ';', '"']

def word? (pattern : List Char) : Option String :=
  let word := (pattern.drop wordStart.length).take
    (pattern.length - wordStart.length - wordEnd.length)
  if pattern = wordStart ++ word ++ wordEnd then some (String.ofList word) else none

/-- The line number and the word that an address holds. -/
def place? (address : String) : Option (ℕ × String) := do
  let offset ← decimal? (address.toList.takeWhile (· != '/'))
  let word ← word? (address.toList.dropWhile (· != '/'))
  return (offset + 1, word)

/-- A tag whose line can be taken apart at its tabs. The file may hold any. -/
structure Separable (t : Tag) : Prop where
  name : '\t' ∉ t.name.toList
  address : '\t' ∉ t.address.toList

instance (t : Tag) : Decidable t.Separable :=
  decidable_of_iff ('\t' ∉ t.name.toList ∧ '\t' ∉ t.address.toList)
    ⟨fun ⟨hname, haddress⟩ => ⟨hname, haddress⟩, fun h => ⟨h.name, h.address⟩⟩

theorem lineno?_numberField (t : Tag) : lineno? t.numberField = some t.lineno := by
  simp [lineno?, numberField]

/-- Cutting the line of a tag at its tabs cuts only the file into pieces. -/
theorem splitOn_render {t : Tag} (h : t.Separable) :
    t.render.toList.splitOn '\t' = t.name.toList :: (t.file.toList.splitOn '\t' ++
      [t.address.toList, t.kind.letter.toList, t.numberField]) := by
  have hletter := not_mem_letter (c := '\t') (by decide) t
  have hnumber := not_mem_numberField (c := '\t') (by decide) (by decide) t
  rw [toList_render, List.splitOn_append_cons_self_of_not_mem h.name,
    List.splitOn_append_cons_self, List.splitOn_append_cons_self_of_not_mem h.address,
    List.splitOn_append_cons_self_of_not_mem hletter, List.splitOn_eq_singleton hnumber]

theorem ofLine?_render {t : Tag} (h : t.Separable) : ofLine? t.render = some t := by
  rw [ofLine?, splitOn_render h]
  simp [lineno?_numberField]

theorem render_injOn : Set.InjOn render {t | t.Separable} := by
  intro t ht u hu heq
  have hread := ofLine?_render ht
  rw [heq, ofLine?_render hu, Option.some.injEq] at hread
  exact hread.symm

theorem toList_address (n : ℕ) (word : String) :
    (ScriptTags.address (n + 1) word).toList =
      Nat.toDigits 10 n ++ (wordStart ++ word.toList ++ wordEnd) := by
  have hoffset : (n : Int).repr = n.repr := rfl
  simp [ScriptTags.address, lineOffset, hoffset, wordStart, wordEnd]

theorem ne_slash_of_mem_toDigits {n : ℕ} : ∀ c ∈ Nat.toDigits 10 n, (c != '/') = true := by
  intro c hc
  have hdigit := Nat.isDigit_of_mem_toDigits (by decide) (by decide) hc
  rw [bne_iff_ne]
  rintro rfl
  simp at hdigit

theorem word?_pattern (word : String) :
    word? (wordStart ++ word.toList ++ wordEnd) = some word := by
  have hword : ((wordStart ++ word.toList ++ wordEnd).drop wordStart.length).take
      ((wordStart ++ word.toList ++ wordEnd).length - wordStart.length - wordEnd.length) =
        word.toList := by
    rw [List.append_assoc, List.drop_left]
    simp
  simp only [word?, hword, if_true, String.ofList_toList]

/-- The line number and the word of an address can be read off it, whatever the word. -/
theorem place?_address (n : ℕ) (word : String) :
    place? (ScriptTags.address (n + 1) word) = some (n + 1, word) := by
  have htake : (wordStart ++ word.toList ++ wordEnd).takeWhile (· != '/') = [] := rfl
  have hdrop : (wordStart ++ word.toList ++ wordEnd).dropWhile (· != '/') =
      wordStart ++ word.toList ++ wordEnd := rfl
  rw [place?, toList_address, List.takeWhile_append_of_pos ne_slash_of_mem_toDigits,
    List.dropWhile_append_of_pos ne_slash_of_mem_toDigits, htake, hdrop, word?_pattern]
  simp

theorem fields_of_check {v : Value} {t : Tag} (h : check v = .accepted t) :
    ∃ fields : Value.Fields, v = .table fields ∧
      fields.required "name" Value.checkNonempty = .accepted t.name ∧
      fields.required "file" Value.checkString = .accepted t.file ∧
      fields.required "address" Value.checkString = .accepted t.address ∧
      fields.required "kind" Kind.check = .accepted t.kind ∧
      fields.required "lineno" Value.checkPositive = .accepted t.lineno := by
  obtain ⟨fields, hfields, hgiven, -⟩ := check_eq_accepted.mp h
  exact ⟨fields, hfields, hgiven.name, hgiven.file, hgiven.address, hgiven.kind, hgiven.lineno⟩

theorem place_of_check_draft {file name kind word : String} {line : Int} {t : Tag}
    (h : check (draft file line name kind word) = .accepted t) :
    t.name = name ∧ (t.lineno : Int) = line ∧ 1 ≤ t.lineno ∧
      t.address = ScriptTags.address line (if word = "" then name else word) := by
  obtain ⟨fields, hfields, hname, -, haddress, -, hlineno⟩ := fields_of_check h
  rw [draft, Value.table.injEq] at hfields
  subst hfields
  simp only [Value.Fields.required_eq_accepted, Value.Fields.get?] at hname haddress hlineno
  have hname' : name ≠ "" ∧ name = t.name := by
    simpa [Value.checkNonempty_string_eq_accepted] using hname
  have haddress' : ScriptTags.address line (if word = "" then name else word) = t.address := by
    simpa [Value.checkString] using haddress
  have hlineno' : 1 ≤ line ∧ line = t.lineno := by
    simpa [Value.checkPositive_int_eq_accepted] using hlineno
  exact ⟨hname'.2.symm, hlineno'.2.symm, by omega, haddress'.symm⟩

/-- A draft that is accepted can be taken apart if its name and its word can. -/
theorem separable_of_check_draft {file name kind word : String} {line : Int} {t : Tag}
    (h : check (draft file line name kind word) = .accepted t) (hname : '\t' ∉ name.toList)
    (hword : '\t' ∉ word.toList) : t.Separable := by
  obtain ⟨rfl, rfl, hline, haddress⟩ := place_of_check_draft h
  refine ⟨hname, ?_⟩
  obtain ⟨n, hn⟩ := Nat.exists_eq_add_of_le' hline
  have hdigits : '\t' ∉ Nat.toDigits 10 n := by
    intro hmem
    have hdigit := Nat.isDigit_of_mem_toDigits (by decide) (by decide) hmem
    simp at hdigit
  rw [haddress, hn, Int.natCast_add, Int.natCast_one, toList_address]
  split_ifs <;> simp [hdigits, hname, hword, wordStart, wordEnd]

theorem place?_of_check_draft {file name kind word : String} {line : Int} {t : Tag}
    (h : check (draft file line name kind word) = .accepted t) :
    (t.lineno : Int) = line ∧
      place? t.address = some (t.lineno, if word = "" then name else word) := by
  obtain ⟨-, rfl, hline, haddress⟩ := place_of_check_draft h
  obtain ⟨n, hn⟩ := Nat.exists_eq_add_of_le' hline
  refine ⟨rfl, ?_⟩
  rw [haddress, hn, Int.natCast_add, Int.natCast_one, place?_address]

end Tag

namespace Document

/-- The tags in the text of a tags file. -/
def tags? (text : String) : Option (List Tag) := ((lines text).drop 6).mapM Tag.ofLine?

theorem mapM_ofLine? {tags : List Tag} (h : ∀ t ∈ tags, t.Separable) :
    (tags.map Tag.render).mapM Tag.ofLine? = some tags := by
  induction tags with
  | nil => rfl
  | cons t rest ih =>
    have hrest := ih fun u hu => h u (List.mem_cons_of_mem _ hu)
    rw [List.map_cons, List.mapM_cons, Tag.ofLine?_render (h t List.mem_cons_self), hrest]
    rfl

theorem tags?_text {p : ProgramInfo} {tags : List Tag} (hp : p.OneLine)
    (htags : ∀ t ∈ tags, t.OneLine) (hseparable : ∀ t ∈ tags, t.Separable) :
    tags? (text p tags) = some tags := by
  have hheader : (headerLines p).length = 6 := rfl
  rw [tags?, lines_text hp htags, List.drop_left' hheader, mapM_ofLine? hseparable]

/-- Nothing is lost in a tags file. The line of a tag whose name and address hold no tab gives the
tag back, and a drafted address gives back the line and the word. The number of line breaks tells
whether all texts keep to their lines, and if they do, the file gives back its tags in order. -/
theorem text_lossless :
    (∀ t : Tag, t.Separable → Tag.ofLine? t.render = some t) ∧
    Set.InjOn Tag.render {t | t.Separable} ∧
    (∀ (file name kind word : String) (line : Int) (t : Tag),
      Tag.check (Tag.draft file line name kind word) = .accepted t →
      '\t' ∉ name.toList → '\t' ∉ word.toList →
      Tag.ofLine? t.render = some t ∧ (t.lineno : Int) = line ∧
        Tag.place? t.address = some (t.lineno, if word = "" then name else word)) ∧
    ∀ (p : ProgramInfo) (tags : List Tag) (written : String),
      written = (append (header p) tags).1 →
      (written.toList.count '\n' = 6 + tags.length ↔ p.OneLine ∧ ∀ t ∈ tags, t.OneLine) ∧
      (written.toList.count '\n' = 6 + tags.length →
        written.toList.splitOn '\n' =
          (headerLines p ++ tags.map Tag.render ++ [""]).map String.toList ∧
        ((∀ t ∈ tags, t.Separable) → tags? written = some tags)) := by
  refine ⟨fun t => Tag.ofLine?_render, Tag.render_injOn, ?_, ?_⟩
  · intro file name kind word line t hcheck hname hword
    have hseparable := Tag.separable_of_check_draft hcheck hname hword
    exact ⟨Tag.ofLine?_render hseparable, Tag.place?_of_check_draft hcheck⟩
  · rintro p tags written rfl
    rw [append_eq, ← text]
    refine ⟨count_text p tags, ?_⟩
    intro hcount
    obtain ⟨hp, htags⟩ := (count_text p tags).mp hcount
    refine ⟨?_, tags?_text hp htags⟩
    rw [text_eq_unlines, splitOn_unlines ((oneLine_iff p tags).mp ⟨hp, htags⟩)]

def sampleTag : Tag := ⟨"A.f", "a\tb.js", "2/\\<f\\>/;\"", .method, 3⟩

theorem text_lossless_sample :
    Tag.check (Tag.draft "a\tb.js" 3 "A.f" "m" "f") = .accepted sampleTag ∧
      Tag.ofLine? sampleTag.render = some sampleTag ∧
      Tag.place? sampleTag.address = some (3, "f") ∧
      ((append (header {}) [sampleTag]).1.toList.count '\n' = 7) ∧
      tags? (append (header {}) [sampleTag]).1 = some [sampleTag] := by
  obtain ⟨hline, -, hdraft, htext⟩ := text_lossless
  have hcheck : Tag.check (Tag.draft "a\tb.js" 3 "A.f" "m" "f") = .accepted sampleTag :=
    Mention.toTag_of_named (m := ⟨"A.f", "f", .method, 2⟩) ⟨by decide, by decide⟩ "a\tb.js"
  have hseparable : ∀ t ∈ [sampleTag], t.Separable := by decide
  obtain ⟨hcount, hread⟩ := htext {} [sampleTag] _ rfl
  have hlines := hcount.mpr (by decide)
  exact ⟨hcheck, hline sampleTag (hseparable _ List.mem_cons_self),
    (hdraft _ _ _ _ _ _ hcheck (by decide) (by decide)).2.2, hlines, (hread hlines).2 hseparable⟩

end Document
end ScriptTags
