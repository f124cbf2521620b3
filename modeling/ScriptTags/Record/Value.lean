/-!
# Values

Settings files and structured inputs hold values of a few shapes. A table keeps its fields in the
order in which they were written. Moments (dates, times and both) occur in settings files only, and
no record accepts one, so a moment carries no content.
-/

namespace ScriptTags.Record

inductive Value where
  | null
  | bool (b : Bool)
  | int (n : Int)
  | float (x : Float)
  | string (s : String)
  | list (items : List Value)
  | table (fields : List (String × Value))
  | moment
  deriving Inhabited

namespace Value

abbrev Fields := List (String × Value)

def Fields.get? (fields : Fields) (key : String) : Option Value :=
  (fields.find? (·.1 == key)).map (·.2)

/-- Gives a field a value, in its place when the table has the field and at the end otherwise. -/
def Fields.set (fields : Fields) (key : String) (value : Value) : Fields :=
  if fields.any (·.1 == key) then
    fields.map fun field => if field.1 == key then (key, value) else field
  else fields ++ [(key, value)]

def strings (items : List String) : Value := .list (items.map .string)

end Value

/-- A binary floating-point number in exact form. -/
inductive Exact where
  | infinite (negative : Bool)
  | undefined
  /-- The number `mantissa * 2 ^ exponent`, negated when `negative` holds. -/
  | finite (negative : Bool) (mantissa : Nat) (exponent : Int)
  deriving DecidableEq, Repr

namespace Exact

/-- Reads sign, exponent and mantissa off the bits of a double-precision number. -/
def ofFloat (x : Float) : Exact :=
  let bits := x.toBits.toNat
  let negative := bits >>> 63 == 1
  let exponent : Nat := (bits >>> 52) % 2048
  let mantissa := bits % (1 <<< 52)
  if exponent = 2047 then
    if mantissa = 0 then .infinite negative else .undefined
  else if exponent = 0 then .finite negative mantissa (-1074)
  else .finite negative (mantissa + (1 <<< 52)) ((exponent : Int) - 1075)

/-- The magnitude of `mantissa * 2 ^ exponent`, when it is a whole number. -/
def whole? (mantissa : Nat) : Int → Option Nat
  | .ofNat e => some (mantissa <<< e)
  | .negSucc e => if mantissa % (1 <<< (e + 1)) = 0 then some (mantissa >>> (e + 1)) else none

end Exact

end ScriptTags.Record
