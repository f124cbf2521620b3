import Mathlib.Data.List.Basic
import ScriptTags.Proofs.Utf8
import ScriptTags.Settings.File

/-!
# Reading settings texts

A parser is run by rewriting: each of its steps has an equation for what it does to the text.
With these, what the readers of keys and of quoted strings take off a text is read off its spelling.
-/

namespace ScriptTags
namespace Toml

open Record

namespace Parser

variable {α β : Type}

theorem bind_apply (p : Parser α) (f : α → Parser β) (text : List Char) :
    (p >>= f) text = (p text).bind fun result => f result.1 result.2 := rfl

theorem pure_apply (a : α) (text : List Char) : (pure a : Parser α) text = .ok (a, text) := rfl

theorem get_apply (text : List Char) : (get : Parser (List Char)) text = .ok (text, text) := rfl

theorem set_apply (text other : List Char) : (set other : Parser Unit) text = .ok ((), other) := rfl

theorem peek_apply (text : List Char) : peek text = .ok (text.head?, text) := rfl

theorem sees_apply (word : String) (text : List Char) :
    sees word text = .ok (word.toList.isPrefixOf text, text) := rfl

theorem advance_apply (n : ℕ) (text : List Char) : advance n text = .ok ((), text.drop n) := rfl

theorem skipWhile_apply (p : Char → Bool) (text : List Char) :
    skipWhile p text = .ok ((), text.dropWhile p) := rfl

theorem ok_bind {ε σ τ : Type} (a : σ) (f : σ → Except ε τ) : (Except.ok a).bind f = f a := rfl

end Parser

open ScriptTags.Toml.Parser

theorem unifyBreaks_eq {text : List Char} (h : '\r' ∉ text) : unifyBreaks text = text := by
  fun_induction unifyBreaks text with
  | case1 rest => simp at h
  | case2 c rest _ ih => rw [ih fun hmem => h (List.mem_cons_of_mem _ hmem)]
  | case3 => rfl

theorem before?_append {quote : Char} {cs : List Char} (h : quote ∉ cs) (rest : List Char) :
    before? [quote] (cs ++ quote :: rest) = some cs := by
  induction cs with
  | nil => simp [before?]
  | cons c cs ih =>
    simp only [List.mem_cons, not_or] at h
    simp [before?, h.1, ih h.2]

/-- Characters that stand for themselves between single quotes. -/
def IsPlain (cs : List Char) : Prop := ∀ c ∈ cs, c ≠ '\'' ∧ isControl c = false

theorem isPlain_replicate (n : ℕ) {c : Char} (h : c ≠ '\'' ∧ isControl c = false) :
    IsPlain (List.replicate n c) := by
  intro d hd
  rwa [List.eq_of_mem_replicate hd]

theorem literalString_apply {cs : List Char} (hcs : IsPlain cs) (rest : List Char) :
    literalString ('\'' :: (cs ++ '\'' :: rest)) = .ok (String.ofList cs, rest) := by
  have hquote : '\'' ∉ cs := fun hmem => (hcs _ hmem).1 rfl
  have hlegal : cs.find? isControl = none := by
    rw [List.find?_eq_none]
    intro c hc
    simp [(hcs c hc).2]
  have hbody : before? "'".toList (cs ++ '\'' :: rest) = some cs := before?_append hquote rest
  have hlength : "'".length = 1 := rfl
  have htail : literalTail false "'" (cs ++ '\'' :: rest) = .ok (cs, rest) := by
    simp only [literalTail, bind_apply, get_apply, ok_bind, hbody, Bool.false_eq_true, if_false,
      hlegal, set_apply, pure_apply, hlength]
    simp
  simp only [literalString, bind_apply, advance_apply, ok_bind, List.drop_one, List.tail_cons,
    htail, pure_apply]

/-- Names that need no quotes as keys. -/
def IsBare (name : List Char) : Prop := name ≠ [] ∧ ∀ c ∈ name, isBareKey c = true

theorem keyPart_apply {name : List Char} (hname : IsBare name) {stop : Char}
    (hstop : isBareKey stop = false) (rest : List Char) :
    keyPart (name ++ stop :: rest) = .ok (String.ofList name, stop :: rest) := by
  obtain ⟨hne, hbare⟩ := hname
  have htake : (name ++ stop :: rest).takeWhile isBareKey = name := by
    rw [List.takeWhile_append_of_pos hbare, List.takeWhile_cons_of_neg (by simp [hstop]),
      List.append_nil]
  obtain ⟨c, cs, rfl⟩ := List.exists_cons_of_ne_nil hne
  have hc : isBareKey c = true := hbare c List.mem_cons_self
  simp only [keyPart, bind_apply, peek_apply, ok_bind, List.cons_append, List.head?_cons, hc,
    if_true, get_apply, advance_apply, pure_apply]
  rw [← List.cons_append, htake, List.drop_left]

theorem isBlank_eq_false {c : Char} (h : isBareKey c = true) : isBlank c = false := by
  rw [isBlank, Bool.or_eq_false_iff, beq_eq_false_iff_ne, beq_eq_false_iff_ne]
  constructor
  · rintro rfl
    exact absurd h (by decide)
  · rintro rfl
    exact absurd h (by decide)

theorem dropWhile_isBlank {name : List Char} (hname : IsBare name) (rest : List Char) :
    (name ++ rest).dropWhile isBlank = name ++ rest := by
  obtain ⟨c, cs, rfl⟩ := List.exists_cons_of_ne_nil hname.1
  exact List.dropWhile_cons_of_neg (by simp [isBlank_eq_false (hname.2 c List.mem_cons_self)])

theorem keyTail_stop (fuel : ℕ) (rest : List Char) :
    keyTail (fuel + 1) ('=' :: rest) = .ok ([], '=' :: rest) := rfl

theorem keyTail_point (fuel : ℕ) {name : List Char} (hname : IsBare name) (rest : List Char) :
    keyTail (fuel + 2) ('.' :: (name ++ '=' :: rest)) =
      .ok ([String.ofList name], '=' :: rest) := by
  have hpoint : ('.' :: (name ++ '=' :: rest)).dropWhile isBlank = '.' :: (name ++ '=' :: rest) :=
    rfl
  have hsees : ".".toList.isPrefixOf ('.' :: (name ++ '=' :: rest)) = true := rfl
  rw [keyTail]
  simp only [bind_apply, skipWhile_apply, ok_bind, hpoint, sees_apply, hsees, if_true,
    advance_apply, List.drop_one, List.tail_cons, dropWhile_isBlank hname, keyTail_stop,
    pure_apply,
    keyPart_apply hname (by decide : isBareKey '=' = false)]

theorem key_apply {first second : List Char} (hfirst : IsBare first) (hsecond : IsBare second)
    (rest : List Char) :
    key (first ++ '.' :: (second ++ '=' :: rest)) =
      .ok ([String.ofList first, String.ofList second], '=' :: rest) := by
  simp only [key, bind_apply, keyPart_apply hfirst (by decide : isBareKey '.' = false), ok_bind,
    get_apply, List.length_cons, keyTail_point _ hsecond, pure_apply]

theorem valueWithin_apply (fuel : ℕ) {cs : List Char} (hcs : IsPlain cs) :
    valueWithin (fuel + 1) ('\'' :: (cs ++ ['\''])) = .ok (.string (String.ofList cs), []) := by
  have htriple : "'''".toList.isPrefixOf ('\'' :: (cs ++ ['\''])) = false := by
    cases cs with
    | nil => rfl
    | cons c cs =>
      have hc : ('\'' == c) = false := beq_false_of_ne (hcs c List.mem_cons_self).1.symm
      simp [List.isPrefixOf, hc]
  rw [valueWithin]
  simp only [bind_apply, peek_apply, ok_bind, List.head?_cons, sees_apply, htriple,
    Bool.false_eq_true, if_false, literalString_apply hcs, pure_apply]

theorem pair_apply {first second cs : List Char} (hfirst : IsBare first) (hsecond : IsBare second)
    (hcs : IsPlain cs) :
    pair (first ++ '.' :: (second ++ '=' :: '\'' :: (cs ++ ['\'']))) =
      .ok (([String.ofList first, String.ofList second], .string (String.ofList cs)), []) := by
  have hsees : "=".toList.isPrefixOf ('=' :: '\'' :: (cs ++ ['\''])) = true := rfl
  have hblank : ('\'' :: (cs ++ ['\''])).dropWhile isBlank = '\'' :: (cs ++ ['\'']) := rfl
  simp only [pair, bind_apply, get_apply, ok_bind]
  rw [pairWithin]
  simp only [bind_apply, key_apply hfirst hsecond, ok_bind, sees_apply, hsees, if_true,
    advance_apply, List.drop_one, List.tail_cons, skipWhile_apply, hblank]
  rw [Nat.add_succ]
  simp only [valueWithin_apply _ hcs, ok_bind, pure_apply]

theorem statement_apply {first second cs : List Char} (hfirst : IsBare first)
    (hsecond : IsBare second) (hcs : IsPlain cs) :
    ∃ d, statement {} (first ++ '.' :: (second ++ '=' :: '\'' :: (cs ++ ['\'']))) = .ok (d, []) ∧
      d.fields = [(String.ofList first, .table [(String.ofList second,
        .string (String.ofList cs))])] := by
  have hpair := pair_apply hfirst hsecond hcs
  obtain ⟨c, rest, rfl⟩ := List.exists_cons_of_ne_nil hfirst.1
  have hstarts : startsKey c = true := by simp [startsKey, hfirst.2 c List.mem_cons_self]
  rw [List.cons_append] at hpair ⊢
  simp only [statement, bind_apply, peek_apply, ok_bind, List.head?_cons, hstarts, if_true, hpair]
  exact ⟨_, rfl, rfl⟩

theorem parse_dotted {first second cs : List Char} (hfirst : IsBare first)
    (hsecond : IsBare second) (hcs : IsPlain cs) :
    parse (first ++ '.' :: (second ++ '=' :: '\'' :: (cs ++ ['\'']))) =
      .ok (.table [(String.ofList first, .table [(String.ofList second,
        .string (String.ofList cs))])]) := by
  have hbare : isBareKey '\r' = false := by decide
  have hbreaks : '\r' ∉ first ++ '.' :: (second ++ '=' :: '\'' :: (cs ++ ['\''])) := by
    simp only [List.mem_append, List.mem_cons, List.not_mem_nil, or_false, not_or]
    refine ⟨fun h => ?_, by decide, fun h => ?_, by decide, by decide, fun h => ?_, by decide⟩
    · exact absurd (hfirst.2 _ h) (by simp [hbare])
    · exact absurd (hsecond.2 _ h) (by simp [hbare])
    · exact absurd (hcs _ h).2 (by decide)
  obtain ⟨d, hstatement, hfields⟩ := statement_apply hfirst hsecond hcs
  have hlines : ∀ fuel, lines (fuel + 1) {}
      (first ++ '.' :: (second ++ '=' :: '\'' :: (cs ++ ['\'']))) = .ok (d, []) := by
    intro fuel
    simp only [lines, bind_apply, skipWhile_apply, ok_bind, dropWhile_isBlank hfirst, hstatement]
    rfl
  rw [parse, unifyBreaks_eq hbreaks]
  simp only [StateT.run, hlines, hfields]

end Toml

theorem Settings.ofBytes_description (path : String) {description : String}
    (h : Toml.IsPlain description.toList) :
    ofBytes path (Text.bytesOf ("program.description='" ++ description ++ "'")) =
      .ok { program := { description } } := by
  have hprogram : Toml.IsBare "program".toList := ⟨by decide, List.all_eq_true.mp (by decide)⟩
  have hdescription : Toml.IsBare "description".toList :=
    ⟨by decide, List.all_eq_true.mp (by decide)⟩
  have hparse := Toml.parse_dotted hprogram hdescription h
  rw [String.ofList_toList, String.ofList_toList, String.ofList_toList] at hparse
  have htext : ("program.description='" ++ description ++ "'").toList =
      "program".toList ++ '.' :: ("description".toList ++ '=' :: '\'' ::
        (description.toList ++ ['\''])) := by
    simp [String.toList_append]
  rw [ofBytes, Text.decode?_bytesOf, htext]
  simp only [hparse]
  rfl

end ScriptTags
