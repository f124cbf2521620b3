import ScriptTags.Record.Check

/-!
# What a check looks at

The shape of a record says which fields it has and what stands in them. A check looks at a value in
its shape only: what is left when the fields that a record does not have are taken out, wherever
they stand, is checked with the same result.
-/

namespace ScriptTags.Record

/-- Where records, lists and simple values stand in a value. -/
inductive Shape where
  | scalar
  | list (item : Shape)
  | record (fields : List (String × Shape))

namespace Value

mutual

/-- What is left of a value in a shape. Fields of other names are taken out at every level, and a
list or a table where the shape has none is emptied. -/
def strip : Value → Shape → Value
  | .list items, .list item => .list (stripItems items item)
  | .list _, _ => .list []
  | .table fields, .record known => .table (stripFields fields known)
  | .table _, _ => .table []
  | v, _ => v

def stripItems : List Value → Shape → List Value
  | [], _ => []
  | v :: rest, item => v.strip item :: stripItems rest item

def stripFields : Fields → List (String × Shape) → Fields
  | [], _ => []
  | (key, v) :: rest, known =>
    match known.lookup key with
    | some shape => (key, v.strip shape) :: stripFields rest known
    | none => stripFields rest known

end

theorem get?_cons (key other : String) (v : Value) (rest : Fields) :
    Fields.get? ((key, v) :: rest) other = if key = other then some v else rest.get? other := by
  by_cases h : key = other <;> simp [Fields.get?, h]

theorem get?_stripFields {known : List (String × Shape)} {key : String} {shape : Shape}
    (h : known.lookup key = some shape) (fields : Fields) :
    Fields.get? (stripFields fields known) key = (fields.get? key).map (·.strip shape) := by
  induction fields with
  | nil => rfl
  | cons field rest ih =>
    obtain ⟨other, v⟩ := field
    rw [stripFields, get?_cons]
    by_cases hkey : other = key
    · subst hkey
      simp [h, get?_cons]
    · rw [if_neg hkey]
      cases known.lookup other with
      | none => exact ih
      | some otherShape => rw [← ih, get?_cons, if_neg hkey]

theorem stripItems_eq_map (items : List Value) (item : Shape) :
    stripItems items item = items.map (·.strip item) := by
  induction items with
  | nil => rfl
  | cons v rest ih => rw [stripItems, ih, List.map_cons]

end Value

/-- The check gives the same result for what is left of a value in the shape. -/
def LooksAt {α : Type} (shape : Shape) (check : Value → Check α) : Prop :=
  ∀ v : Value, check (v.strip shape) = check v

namespace Value

variable {α : Type} {shape : Shape} {check : Value → Check α} {fields : Fields}
  {known : List (String × Shape)} {key : String}

theorem looksAt_checkString : LooksAt .scalar checkString := by
  intro v
  cases v <;> rfl

theorem looksAt_checkNonempty : LooksAt .scalar checkNonempty := by
  intro v
  rw [checkNonempty, looksAt_checkString, checkNonempty]

theorem looksAt_checkInt : LooksAt .scalar checkInt := by
  intro v
  cases v <;> rfl

theorem looksAt_checkPositive : LooksAt .scalar checkPositive := by
  intro v
  rw [checkPositive, looksAt_checkInt, checkPositive]

theorem looksAt_checkList (h : LooksAt shape check) : LooksAt (.list shape) (checkList check) := by
  have hitems : ∀ (items : List Value) (i : Nat),
      checkItems check i (items.map (·.strip shape)) = checkItems check i items := by
    intro items
    induction items with
    | nil => exact fun _ => rfl
    | cons v rest ih =>
      intro i
      rw [List.map_cons, checkItems, checkItems, h, ih]
  intro v
  cases v with
  | list items => rw [strip, stripItems_eq_map, checkList, checkList, hitems]
  | _ => rfl

theorem looksAt_record {model : String} {read : Fields → Check α}
    (h : ∀ fields, read (stripFields fields known) = read fields) :
    LooksAt (.record known) fun v => (v.checkTable model).bind read := by
  intro v
  cases v with
  | table fields => exact h fields
  | _ => rfl

theorem Fields.required_strip (hkey : known.lookup key = some shape)
    (hcheck : LooksAt shape check) :
    Fields.required (stripFields fields known) key check = fields.required key check := by
  rw [required, required, get?_stripFields hkey]
  cases fields.get? key with
  | none => rfl
  | some v => simp only [Option.map_some, hcheck v]

theorem Fields.optional_strip {default : α} (hkey : known.lookup key = some shape)
    (hcheck : LooksAt shape check) :
    Fields.optional (stripFields fields known) key default check =
      fields.optional key default check := by
  rw [optional, optional, get?_stripFields hkey]
  cases fields.get? key with
  | none => rfl
  | some v => simp only [Option.map_some, hcheck v]

end Value

end ScriptTags.Record
