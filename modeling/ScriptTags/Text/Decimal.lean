/-!
# Decimal notation

Whole numbers are unbounded, but only a limited number of their digits is converted between a number
and its text.
-/

namespace ScriptTags.Text.Decimal

/-- The most digits that are converted. -/
def maxDigits : Nat := 4300

def isWritable (n : Nat) : Bool := (Nat.toDigits 10 n).length ≤ maxDigits

/-- What is wrong with a number that is too long. The digits of a text are counted. -/
def tooLong (digits : Option Nat) : String :=
  s!"Exceeds the limit ({maxDigits} digits) for integer string conversion" ++
    (match digits with
      | some n => s!": value has {n} digits"
      | none => "") ++
    "; use sys.set_int_max_str_digits() to increase the limit"

end ScriptTags.Text.Decimal
