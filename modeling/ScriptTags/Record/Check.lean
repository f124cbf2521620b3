import ScriptTags.Record.Issue
import ScriptTags.Record.Value
import ScriptTags.Text.Blank
import ScriptTags.Text.Decimal

/-!
# Checks

A check turns a value into a typed one or lists everything that is wrong with it. Checks of several
fields are made side by side: the issues of all of them are reported, in the order of the fields.
Whole numbers are read generously, from truth values, floats and texts as well, as long as they are
not too large.
-/

namespace ScriptTags.Record

/-- The outcome of a check. -/
inductive Check (α : Type) where
  | accepted (value : α)
  | rejected (issues : List Issue)

namespace Check

variable {α β : Type}

def map (f : α → β) : Check α → Check β
  | .accepted a => .accepted (f a)
  | .rejected issues => .rejected issues

/-- Applies a checked function to a checked argument, keeping the issues of both. -/
def app : Check (α → β) → Check α → Check β
  | .accepted f, .accepted a => .accepted (f a)
  | .accepted _, .rejected issues => .rejected issues
  | .rejected issues, .accepted _ => .rejected issues
  | .rejected issues, .rejected more => .rejected (issues ++ more)

def bind (a : Check α) (f : α → Check β) : Check β :=
  match a with
  | .accepted a => f a
  | .rejected issues => .rejected issues

/-- A single problem with the checked value itself. -/
def refuse (problem : Problem) : Check α := .rejected [⟨[], problem⟩]

/-- Places the issues one step further down. -/
def under (step : Step) : Check α → Check α
  | .accepted a => .accepted a
  | .rejected issues => .rejected (issues.map (·.under step))

def toExcept : Check α → Except (List Issue) α
  | .accepted a => .ok a
  | .rejected issues => .error issues

/-! A composed check accepts a value only when its parts do. -/

theorem map_eq_accepted {f : α → β} {a : Check α} {b : β} :
    a.map f = .accepted b ↔ ∃ x, a = .accepted x ∧ f x = b := by
  cases a <;> simp [map]

theorem app_eq_accepted {f : Check (α → β)} {a : Check α} {b : β} :
    f.app a = .accepted b ↔ ∃ g x, f = .accepted g ∧ a = .accepted x ∧ g x = b := by
  cases f <;> cases a <;> simp [app]

theorem bind_eq_accepted {a : Check α} {f : α → Check β} {b : β} :
    a.bind f = .accepted b ↔ ∃ x, a = .accepted x ∧ f x = .accepted b := by
  cases a <;> simp [bind]

theorem under_eq_accepted {step : Step} {a : Check α} {b : α} :
    a.under step = .accepted b ↔ a = .accepted b := by
  cases a <;> simp [under]

end Check

namespace Value

variable {α : Type}

def checkString : Value → Check String
  | .string s => .accepted s
  | _ => .refuse .notString

def checkNonempty (v : Value) : Check String :=
  v.checkString.bind fun s => if s = "" then .refuse .emptyString else .accepted s

theorem checkNonempty_string_eq_accepted {s t : String} :
    checkNonempty (.string s) = .accepted t ↔ s ≠ "" ∧ s = t := by
  by_cases h : s = "" <;> simp [checkNonempty, checkString, Check.bind, Check.refuse, h]

/-- The value of a run of decimal digits in which single underscores may stand between digits. -/
def digits? (cs : List Char) : Option Nat :=
  let rec go (value : Nat) : List Char → Option Nat
    | [] => some value
    | '_' :: c :: rest => if c.isDigit then go (value * 10 + (c.toNat - 48)) rest else none
    | c :: rest => if c.isDigit then go (value * 10 + (c.toNat - 48)) rest else none
  match cs with
  | c :: rest => if c.isDigit then go (c.toNat - 48) rest else none
  | [] => none

/-- Splits off a sign. -/
def unsigned : List Char → Bool × List Char
  | '-' :: rest => (true, rest)
  | '+' :: rest => (false, rest)
  | rest => (false, rest)

/-- The whole number that a text spells: blanks around it, a sign, digits, and possibly a point
followed by zeros only. -/
def spelled? (s : String) : Option Int :=
  let (negative, cs) := unsigned (Text.trimBlanks s.toList)
  let before := cs.takeWhile (· != '.')
  let zeros := (cs.drop before.length).drop 1
  let exact := before.length == cs.length || (!zeros.isEmpty && zeros.all (· == '0'))
  if exact then
    (digits? before).map fun n => if negative then -(n : Int) else n
  else none

/-- The whole number that a float equals, within the range of 64-bit integers. -/
def checkFloat (x : Float) : Check Int :=
  match Exact.ofFloat x with
  | .infinite _ | .undefined => .refuse .notFinite
  | .finite negative mantissa exponent =>
    match Exact.whole? mantissa exponent with
    | none => .refuse .fractional
    | some n =>
      if n < 1 <<< 63 then .accepted (if negative then -(n : Int) else n) else .refuse .tooLarge

def checkInt : Value → Check Int
  | .int n => .accepted n
  | .bool b => .accepted (if b then 1 else 0)
  | .float x => checkFloat x
  | .string s =>
    match spelled? s with
    | some n => if Text.Decimal.isWritable n.natAbs then .accepted n else .refuse .tooLarge
    | none => .refuse .unreadableInteger
  | _ => .refuse .notInteger

def checkPositive (v : Value) : Check Nat :=
  v.checkInt.bind fun n => if 1 ≤ n then .accepted n.toNat else .refuse (.belowMinimum 1)

theorem checkPositive_int_eq_accepted {n : Int} {m : Nat} :
    checkPositive (.int n) = .accepted m ↔ 1 ≤ n ∧ n = m := by
  by_cases h : 1 ≤ n
  · simp [checkPositive, checkInt, Check.bind, h]
    omega
  · simp [checkPositive, checkInt, Check.bind, Check.refuse, h]

/-- Checks the items of a list from position `i` on. -/
def checkItems (check : Value → Check α) (i : Nat) : List Value → Check (List α)
  | [] => .accepted []
  | v :: rest =>
    (((check v).under (.index i)).map List.cons).app (checkItems check (i + 1) rest)

def checkList (check : Value → Check α) : Value → Check (List α)
  | .list items => checkItems check 0 items
  | _ => .refuse .notList

/-- The fields of a table; anything else is no record of the named model. -/
def checkTable (model : String) : Value → Check Fields
  | .table fields => .accepted fields
  | _ => .refuse (.notRecord model)

def Fields.required (fields : Fields) (key : String) (check : Value → Check α) : Check α :=
  match fields.get? key with
  | some v => (check v).under (.field key)
  | none => .rejected [⟨[.field key], .missing⟩]

theorem Fields.required_eq_accepted {fields : Fields} {key : String} {check : Value → Check α}
    {a : α} : fields.required key check = .accepted a ↔
      ∃ v, fields.get? key = some v ∧ check v = .accepted a := by
  cases h : fields.get? key <;> simp [required, h, Check.under_eq_accepted]

/-- A field with a default. -/
def Fields.optional (fields : Fields) (key : String) (default : α) (check : Value → Check α) :
    Check α :=
  match fields.get? key with
  | some v => (check v).under (.field key)
  | none => .accepted default

end Value

end ScriptTags.Record
