import Mathlib.Data.List.Basic
import ScriptTags.Proofs.Document.Lines
import ScriptTags.Proofs.Utf8
import ScriptTags.Script.Program

/-!
# A header is no script

The first line of a tags file has a name and a number side by side, and a statement can neither end
between them nor go on. So reading a header as a script fails at its first statement, whatever the
header says of the program.
-/

namespace ScriptTags
namespace Script

open Syntax

namespace Reader

variable {α β σ : Type}

theorem bind_run (r : Reader α) (f : α → Reader β) (i : Input) :
    (r >>= f) i = (r i).bind fun result => f result.1 result.2 := rfl

theorem pure_run (a : α) (i : Input) : (pure a : Reader α) i = some (a, i) := rfl

theorem get_run (i : Input) : (get : Reader Input) i = some (i, i) := rfl

theorem token_run (i : Input) : token i = some (i.token, i) := rfl

theorem row_run (i : Input) : row i = some (i.row, i) := rfl

theorem advance_run (n : ℕ) (i : Input) : advance n i = some ((), i.skip n) := rfl

theorem passRemarks_run (i : Input) :
    passRemarks i = some ((), i.passRemarks i.rest.length) := rfl

theorem sees_run (m : String) (i : Input) : sees m i = some (i.token == .mark m, i) := rfl

theorem require_run (b : Bool) (i : Input) :
    require b i = if b then some ((), i) else none := by
  cases b <;> rfl

theorem tryMark_run {m : String} {i : Input} (h : i.token ≠ .mark m) :
    tryMark m i = some (false, i) := by
  simp only [tryMark, bind_run, sees_run, Option.bind_some, beq_false_of_ne h, Bool.false_eq_true,
    if_false, pure_run]

theorem repeatStep_run {step : σ → Reader (σ ⊕ α)} {n : ℕ} (hn : n ≠ 0) {s : σ} {a : α}
    {i next : Input} (h : step s i = some (.inr a, next)) :
    repeatStep step n s i = some (a, next) := by
  obtain ⟨n, rfl⟩ := Nat.exists_eq_succ_of_ne_zero hn
  simp only [repeatStep, bind_run, h, Option.bind_some, pure_run]

end Reader

open Reader

/-- The first name of a header, which has no meaning of its own in a script. -/
def formatName : String := "_TAG_FILE_FORMAT"

/-- Places in a script where an exclamation mark, the name and a number follow each other, and
where nothing ends a statement before the number. -/
structure Stray (atMark atName atNumber : Input) : Prop where
  mark : atMark.token = .mark "!"
  unread : atMark.rest ≠ []
  markBare : atMark.passRemarks atMark.rest.length = atMark
  afterMark : atMark.skip 1 = atName
  name : atName.token = .word formatName
  nameBare : atName.passRemarks atName.rest.length = atName
  afterName : atName.skip formatName.length = atNumber
  number : ∃ length, atNumber.token = .number length
  unended : atNumber.endsStatement true = false

namespace Stray

def nameNode (row : ℕ) : Node := leaf "identifier" row formatName

theorem isOpen_nameNode (row : ℕ) : isOpen (nameNode row) = false := by
  simp [isOpen, nameNode, leaf]

variable {atMark atName atNumber : Input} (h : Stray atMark atName atNumber) (g : Grammar)
include h

theorem name_run : Reader.name "identifier" atName = some (nameNode atName.row, atNumber) := by
  have hname : isReserved formatName = false := by decide +kernel
  simp only [Reader.name, bind_run, token_run, Option.bind_some, h.name, require_run, hname,
    Bool.not_false, if_true, row_run, advance_run, h.afterName, pure_run]
  rfl

theorem primary_run : g.primary atName = some (nameNode atName.row, atNumber) := by
  obtain ⟨length, hnumber⟩ := h.number
  have htext : (some (Text.bytesOf formatName) == some (Text.bytesOf "undefined")) = false := by
    decide +kernel
  have hprimary : g.primary atName = g.nameOrArrow atName := by
    simp only [Grammar.primary, bind_run, token_run, Option.bind_some, h.name]
    simp [formatName]
  rw [hprimary]
  simp only [Grammar.nameOrArrow, bind_run, row_run, h.name_run, Option.bind_some, sees_run,
    hnumber, nameNode, leaf, Node.head_mk, htext]
  rfl

theorem chain_run (hg : g.limit ≠ 0) (base : Node) :
    g.chain base atNumber = some (base, atNumber) := by
  obtain ⟨length, hnumber⟩ := h.number
  refine repeatStep_run hg ?_
  simp only [bind_run, token_run, Option.bind_some, hnumber]
  rfl

theorem assignmentTo_run (allowIn : Bool) (left : Node) :
    g.assignmentTo allowIn left atNumber = some (left, atNumber) := by
  obtain ⟨length, hnumber⟩ := h.number
  simp only [Grammar.assignmentTo, bind_run, token_run, Option.bind_some, hnumber]
  rfl

theorem unary_name_run (hg : g.limit ≠ 0) (allowIn : Bool) :
    g.unary allowIn atName = some (nameNode atName.row, atNumber) := by
  have hassignable : g.assignable allowIn atName = some (nameNode atName.row, atNumber) := by
    simp only [Grammar.assignable, bind_run, h.primary_run, Option.bind_some, isOpen_nameNode,
      Bool.false_eq_true, if_false, h.chain_run g hg, h.assignmentTo_run]
  have hplain : ["typeof", "void", "delete"].contains formatName = false ∧
      (formatName == "await") = false ∧ (formatName == "yield") = false := by decide +kernel
  simp only [Grammar.unary, bind_run, passRemarks_run, Option.bind_some, h.nameBare, row_run,
    token_run, h.name, hplain, Bool.false_eq_true, if_false, hassignable]

/-- No operator joins anything to an operand that ends before the number. -/
theorem binary_run (hg : g.limit ≠ 0) {allowIn : Bool} (least : ℕ) {i : Input} {n : Node}
    (hopen : isOpen n = false) (hunary : g.unary allowIn i = some (n, atNumber)) :
    g.binary allowIn least i = some (n, atNumber) := by
  obtain ⟨length, hnumber⟩ := h.number
  simp only [Grammar.binary, bind_run, hunary, Option.bind_some, hopen, Bool.false_eq_true,
    if_false]
  refine repeatStep_run hg ?_
  simp only [bind_run, token_run, Option.bind_some, hnumber]
  rfl

theorem unary_mark_run (hg : g.limit ≠ 0) (allowIn : Bool) :
    ∃ n, isOpen n = false ∧ g.unroll.unary allowIn atMark = some (n, atNumber) := by
  have hoperand : g.unroll.operand allowIn Grammar.unaryPrecedence atName =
      some (nameNode atName.row, atNumber) :=
    h.binary_run g hg _ (isOpen_nameNode _) (h.unary_name_run g hg allowIn)
  have hmark : ["!", "~", "+", "-"].contains "!" = true := by decide +kernel
  have hlength : "!".length = 1 := rfl
  refine ⟨build "unary_expression" atMark.row [under "argument" (nameNode atName.row)],
    by simp [isOpen, build], ?_⟩
  simp only [Grammar.unary, bind_run, passRemarks_run, Option.bind_some, h.markBare, row_run,
    token_run, h.mark, hmark, if_true, advance_run, hlength, h.afterMark, hoperand, require_run,
    isOpen_nameNode, Bool.not_false, pure_run]

theorem conditional_run (hg : g.limit ≠ 0) (allowIn : Bool) :
    ∃ n, isOpen n = false ∧ g.unroll.conditional allowIn atMark = some (n, atNumber) := by
  obtain ⟨n, hopen, hunary⟩ := h.unary_mark_run g hg allowIn
  obtain ⟨length, hnumber⟩ := h.number
  have hmark : atNumber.token ≠ .mark "?" := by simp [hnumber]
  refine ⟨n, hopen, ?_⟩
  simp only [Grammar.conditional, bind_run, h.binary_run g.unroll hg 0 hopen hunary,
    Option.bind_some, hopen, Bool.false_eq_true, if_false, tryMark_run hmark, pure_run]

theorem expressions_run (hg : g.limit ≠ 0) (allowIn : Bool) :
    ∃ n, g.unroll.unroll.expressions allowIn atMark = some (n, atNumber) := by
  obtain ⟨n, hopen, hconditional⟩ := h.conditional_run g hg allowIn
  obtain ⟨length, hnumber⟩ := h.number
  have hitem : g.unroll.unroll.item allowIn atMark = some (n, atNumber) := hconditional
  have hvalue : g.unroll.unroll.value allowIn atMark = some (n, atNumber) := by
    simp only [Grammar.value, bind_run, hitem, Option.bind_some, require_run, hopen,
      Bool.not_false, if_true, pure_run]
  refine ⟨n, ?_⟩
  simp only [Grammar.expressions, bind_run, hvalue, Option.bind_some, sees_run, hnumber]
  rfl

/-- The expression is read, but its statement has no end. -/
theorem anyStatement_run (hg : g.limit ≠ 0) : g.unroll.unroll.anyStatement atMark = none := by
  obtain ⟨n, hexpressions⟩ := h.expressions_run g hg true
  obtain ⟨length, hnumber⟩ := h.number
  have hmark : atNumber.token ≠ .mark ";" := by simp [hnumber]
  have hsemicolon : semicolon true atNumber = none := by
    simp only [semicolon, bind_run, tryMark_run hmark, Option.bind_some, Bool.false_eq_true,
      if_false, get_run, require_run, h.unended]
  have hstatement : g.unroll.unroll.expressionStatement atMark = none := by
    simp only [Grammar.expressionStatement, bind_run, passRemarks_run, Option.bind_some,
      h.markBare, row_run, hexpressions, hsemicolon, Option.bind_none]
  simp only [Grammar.anyStatement, bind_run, passRemarks_run, Option.bind_some, h.markBare,
    row_run, token_run, h.mark]
  simp [hstatement]

theorem readStatements_eq (limit depth count : ℕ) :
    readStatements (Grammar.ofDepth (limit + 1) (depth + 3)) (count + 1) atMark =
      [build "ERROR" atMark.row []] := by
  have hg : (Grammar.ofDepth (limit + 1) depth).limit ≠ 0 := by
    induction depth with
    | zero => exact Nat.succ_ne_zero limit
    | succ depth ih => exact ih
  have hfails : (Grammar.ofDepth (limit + 1) (depth + 3)).statement atMark = none :=
    h.anyStatement_run _ hg
  have hunread : atMark.rest.isEmpty = false := by simpa using h.unread
  simp [readStatements, h.markBare, hunread, StateT.run, hfails]

end Stray

theorem nameTail_append {name : List Char} (hname : ∀ c ∈ name, isNamePart c = true) {stop : Char}
    (hstop : isNamePart stop = false) (hescape : stop ≠ '\\') (rest : List Char) :
    nameTail 0 (name ++ stop :: rest) = name.length := by
  induction name with
  | nil => simp [nameTail, hstop, unicodeEscapeLength, hescape]
  | cons c name ih =>
    rw [List.cons_append, nameTail, if_pos (hname c List.mem_cons_self),
      ih fun d hd => hname d (List.mem_cons_of_mem _ hd), List.length_cons, Nat.add_comm]

theorem ofChars_formatName (rest : List Char) :
    Token.ofChars (formatName.toList ++ '\t' :: rest) = .word formatName := by
  have hparts : ∀ c ∈ formatName.toList, isNamePart c = true := by
    rw [← List.all_eq_true]
    decide +kernel
  have hlength : nameLength (formatName.toList ++ '\t' :: rest) = 15 + 1 :=
    nameTail_append hparts (by decide) (by decide) rest
  have htake : (formatName.toList ++ '\t' :: rest).take (15 + 1) = formatName.toList :=
    List.take_left' rfl
  have hcons : formatName.toList ++ '\t' :: rest =
      '_' :: ("TAG_FILE_FORMAT".toList ++ '\t' :: rest) := rfl
  rw [hcons] at hlength htake ⊢
  simp only [Token.ofChars, hlength, htake, String.ofList_toList]
  rfl

theorem stray_header (rest : List Char) :
    Stray (Input.settle ('!' :: (formatName.toList ++ '\t' :: '2' :: '\t' :: rest)) 0)
      ⟨⟨formatName.toList ++ '\t' :: '2' :: '\t' :: rest, 0, .none⟩, .word formatName, none⟩
      ⟨⟨'2' :: '\t' :: rest, 0, .none⟩, .number 1, none⟩ where
  mark := rfl
  unread := List.cons_ne_nil _ _
  markBare := rfl
  afterMark := by
    rw [← ofChars_formatName ('2' :: '\t' :: rest)]
    rfl
  name := rfl
  nameBare := rfl
  afterName := rfl
  number := ⟨1, rfl⟩
  unended := rfl

end Script

/-- A header read as a script is a syntax error. -/
theorem Document.hasError_header (p : ProgramInfo) :
    (Script.read (Text.bytesOf (header p))).hasError = true := by
  obtain ⟨rest, hheader⟩ : ∃ rest, (header p).toList =
      '!' :: (Script.formatName.toList ++ '\t' :: '2' :: '\t' :: rest) := by
    rw [toList_header]
    exact ⟨_, rfl⟩
  have hstray := Script.stray_header rest
  rw [Script.read, Text.decode_bytesOf, hheader]
  generalize hrest : Script.formatName.toList ++ '\t' :: '2' :: '\t' :: rest = body at hstray
  have hread := hstray.readStatements_eq (body.length + 2) body.length (body.length + 2)
  have hbang : Script.dropHashBang ('!' :: body) = '!' :: body := rfl
  simp only [List.length_cons, hbang, hread]
  simp [Script.build, Syntax.Node.hasError, Syntax.Node.anyError]

end ScriptTags
