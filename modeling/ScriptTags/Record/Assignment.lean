import ScriptTags.Record.Issue
import ScriptTags.Record.Value

/-!
# Assignment to a field

A field of a checked record can be given another value, which is not checked again. A frozen record
refuses, and so does a record without the field. Names that begin with an underscore are private:
a value given to one of them is kept aside and is no field of the record.
-/

namespace ScriptTags.Record

inductive AssignmentError where
  | frozen (field : String)
  | unknownField (model field : String)
  deriving DecidableEq, Repr

namespace AssignmentError

def issue? : AssignmentError → Option Issue
  | .frozen field => some ⟨[.field field], .frozen⟩
  | .unknownField _ _ => none

def message : AssignmentError → String
  | .frozen _ => Problem.frozen.message
  | .unknownField model field => s!"\"{model}\" object has no field \"{field}\""

end AssignmentError

/-- The fields of a record of the model after an assignment. -/
def assign (model : String) (frozen : Bool) (fields : Value.Fields) (field : String)
    (value : Value) : Except AssignmentError Value.Fields :=
  if field.startsWith "_" then .ok fields
  else if frozen then .error (.frozen field)
  else if (fields.get? field).isSome then .ok (fields.set field value)
  else .error (.unknownField model field)

end ScriptTags.Record
