import ScriptTags.Record.Value
import ScriptTags.Toml.Quotation

/-!
# Numbers and moments of a settings text

Each function gives the length of the longest text of its kind at the start of the characters, or
the value of such a text. No record holds a moment, so that a moment is checked and then forgotten.
-/

namespace ScriptTags.Toml

open Record

/-- The length of digits in which single underscores may stand between two of them. -/
def digitsLength (p : Char → Bool) : List Char → Nat
  | [] => 0
  | c :: rest => if p c then 1 + tail rest else 0
where
  tail : List Char → Nat
    | '_' :: c :: rest => if p c then 2 + tail rest else 0
    | c :: rest => if p c then 1 + tail rest else 0
    | [] => 0

/-- The length of a number with a base mark, such as `0x1F`. -/
def basedLength? : List Char → Option (Nat × Nat)
  | '0' :: mark :: rest =>
    let of (base : Nat) (p : Char → Bool) : Option (Nat × Nat) :=
      match digitsLength p rest with
      | 0 => none
      | n => some (base, n + 2)
    if mark == 'x' then of 16 isHexDigit
    else if mark == 'b' then of 2 fun c => c == '0' || c == '1'
    else if mark == 'o' then of 8 fun c => '0' ≤ c && c ≤ '7'
    else none
  | _ => none

def signLength : List Char → Nat
  | c :: _ => if c == '+' || c == '-' then 1 else 0
  | [] => 0

/-- The length of the digits before a point; a zero stands alone. -/
def wholeLength : List Char → Nat
  | '0' :: _ => 1
  | cs => digitsLength Char.isDigit cs

def fractionLength : List Char → Nat
  | '.' :: rest =>
    match digitsLength Char.isDigit rest with
    | 0 => 0
    | n => n + 1
  | _ => 0

def exponentLength : List Char → Nat
  | e :: rest =>
    if e == 'e' || e == 'E' then
      let sign := signLength rest
      match digitsLength Char.isDigit (rest.drop sign) with
      | 0 => 0
      | n => n + 1 + sign
    else 0
  | [] => 0

/-- The number that decimal digits spell, passing over underscores. -/
def decimal (cs : List Char) : Nat := numberOf 10 (cs.filter Char.isDigit)

/-- The floating-point number nearest to `mantissa * 10 ^ exponent`. -/
def nearestFloat (mantissa : Nat) (exponent : Int) : Float :=
  if mantissa = 0 then 0
  else
    let magnitude := exponent + (Nat.toDigits 10 mantissa).length
    if 400 < magnitude then 1.0 / 0.0
    else if magnitude < -400 then 0
    else Float.ofScientific mantissa (exponent < 0) exponent.natAbs

def number? (cs : List Char) : Option (Value × Nat) :=
  match basedLength? cs with
  | some (base, n) =>
    some (.int (numberOf base (((cs.take n).drop 2).filter (· != '_'))), n)
  | none =>
    let sign := signLength cs
    let negative := cs.head? == some '-'
    let cs := cs.drop sign
    match wholeLength cs with
    | 0 => none
    | whole =>
      let afterWhole := cs.drop whole
      let fraction := fractionLength afterWhole
      let afterFraction := afterWhole.drop fraction
      let exponent := exponentLength afterFraction
      let length := sign + whole + fraction + exponent
      if fraction + exponent = 0 then
        let n := decimal (cs.take whole)
        some (.int (if negative then -(n : Int) else n), length)
      else
        let fractionDigits := (afterWhole.take fraction).filter Char.isDigit
        let exponentText := afterFraction.take exponent
        let power : Int :=
          if exponentText.contains '-' then -(decimal exponentText : Int)
          else decimal exponentText
        let x := nearestFloat (numberOf 10 ((cs.take whole).filter Char.isDigit ++ fractionDigits))
          (power - fractionDigits.length)
        some (.float (if negative then -x else x), length)

/-- The number of digits of a whole number in decimal notation; any other number has none. -/
def plainDigits (cs : List Char) : Nat :=
  match basedLength? cs with
  | some _ => 0
  | none =>
    let cs := cs.drop (signLength cs)
    let whole := wholeLength cs
    let afterWhole := cs.drop whole
    let fraction := fractionLength afterWhole
    if fraction + exponentLength (afterWhole.drop fraction) = 0 then
      ((cs.take whole).filter Char.isDigit).length
    else 0

/-- The value of the words for infinity and for no number, and their length. -/
def specialFloat? (cs : List Char) : Option (Value × Nat) :=
  let sign := signLength cs
  let negative := cs.head? == some '-'
  let word := (cs.drop sign).take 3
  if word == "inf".toList then some (.float (if negative then -1.0 / 0.0 else 1.0 / 0.0), sign + 3)
  else if word == "nan".toList then some (.float (0.0 / 0.0), sign + 3)
  else none

/-- Whether two digits spell a number in a range. -/
def twoDigits (least most : Nat) (a b : Char) : Bool :=
  a.isDigit && b.isDigit && least ≤ numberOf 10 [a, b] && numberOf 10 [a, b] ≤ most

/-- The length of a time of day, with seconds and possibly parts of a second. -/
def timeLength? : List Char → Option Nat
  | a :: b :: ':' :: c :: d :: ':' :: e :: f :: rest =>
    if twoDigits 0 23 a b && twoDigits 0 59 c d && twoDigits 0 59 e f then
      match rest with
      | '.' :: more =>
        match (more.takeWhile Char.isDigit).length with
        | 0 => some 8
        | n => some (9 + n)
      | _ => some 8
    else none
  | _ => none

/-- The length of a distance from universal time. -/
def offsetLength : List Char → Nat
  | z :: rest =>
    if z == 'Z' || z == 'z' then 1
    else if z == '+' || z == '-' then
      match rest with
      | a :: b :: ':' :: c :: d :: _ =>
        if twoDigits 0 23 a b && twoDigits 0 59 c d then 6 else 0
      | _ => 0
    else 0
  | [] => 0

def isLeapYear (year : Nat) : Bool := year % 4 == 0 && (year % 100 != 0 || year % 400 == 0)

def daysIn (year month : Nat) : Nat :=
  if month == 2 then if isLeapYear year then 29 else 28
  else if [4, 6, 9, 11].contains month then 30
  else 31

/-- The length of a date, possibly with a time of day, and whether the calendar has the date. -/
def date? (cs : List Char) : Option (Bool × Nat) :=
  match cs with
  | y₁ :: y₂ :: y₃ :: y₄ :: '-' :: m₁ :: m₂ :: '-' :: d₁ :: d₂ :: rest =>
    if [y₁, y₂, y₃, y₄].all Char.isDigit && twoDigits 1 12 m₁ m₂ && twoDigits 1 31 d₁ d₂ then
      let year := numberOf 10 [y₁, y₂, y₃, y₄]
      let valid := 1 ≤ year && numberOf 10 [d₁, d₂] ≤ daysIn year (numberOf 10 [m₁, m₂])
      match rest with
      | t :: more =>
        if t == 'T' || t == 't' || t == ' ' then
          match timeLength? more with
          | some n => some (valid, 11 + n + offsetLength (more.drop n))
          | none => some (valid, 10)
        else some (valid, 10)
      | [] => some (valid, 10)
    else none
  | _ => none

/-- A number, a moment or a special float. -/
def scalar : Parser Value := do
  let cs ← get
  match date? cs with
  | some (valid, n) =>
    if valid then
      Parser.advance n
      return .moment
    else Parser.fail .invalidDate
  | none =>
    match timeLength? cs with
    | some n =>
      Parser.advance n
      return .moment
    | none =>
      match (number? cs).or (specialFloat? cs) with
      | some (v, n) =>
        if Text.Decimal.maxDigits < plainDigits cs then Parser.fail (.longNumber (plainDigits cs))
        else
          Parser.advance n
          return v
      | none => Parser.fail .invalidValue

end ScriptTags.Toml
