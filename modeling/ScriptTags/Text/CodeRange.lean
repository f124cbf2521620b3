/-!
# Ranges of code points

Properties of characters are kept as short tables of ranges. A range may skip: upper-case and
lower-case letters often alternate, so that every second code point has the property.
-/

namespace ScriptTags.Text

/-- The code points from `first` to `last`, taking every `step`-th one. -/
structure CodeRange where
  first : Nat
  last : Nat
  step : Nat

namespace CodeRange

def contains (r : CodeRange) (c : Char) : Bool :=
  r.first ≤ c.toNat && c.toNat ≤ r.last && (c.toNat - r.first) % r.step == 0

def covers (table : List CodeRange) (c : Char) : Bool := table.any (·.contains c)

end CodeRange

end ScriptTags.Text
