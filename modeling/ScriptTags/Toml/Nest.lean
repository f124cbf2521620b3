import ScriptTags.Record.Value
import ScriptTags.Toml.Problem

/-!
# Nested tables

Keys with several names reach into nested tables. Tables on the way are made when they are missing;
a list on the way stands for its last table. Which tables may still be changed is kept beside the
values: a literal array or table is closed with everything in it, and a table that was declared
cannot be declared again.
-/

namespace ScriptTags.Toml

open Record

/-- Changes the fields of the table behind a key. -/
def updateNest (throughLists : Bool) (f : Value.Fields → Except Problem Value.Fields) :
    Key → Value.Fields → Except Problem Value.Fields
  | [], fields => f fields
  | name :: rest, fields =>
    match fields.get? name with
    | none => do
      let inner ← updateNest throughLists f rest []
      return fields.set name (.table inner)
    | some (.table inner) => do
      let inner ← updateNest throughLists f rest inner
      return fields.set name (.table inner)
    | some (.list items) =>
      match items.getLast? with
      | some (.table inner) =>
        if throughLists then do
          let inner ← updateNest throughLists f rest inner
          return fields.set name (.list (items.dropLast ++ [.table inner]))
        else .error .overwritten
      | _ => .error .overwritten
    | some _ => .error .overwritten

/-- Adds a field that the table must not have yet. -/
def addField (duplicate : Problem) (name : String) (value : Value) (fields : Value.Fields) :
    Except Problem Value.Fields :=
  if (fields.get? name).isSome then .error duplicate else .ok (fields.set name value)

/-- Adds an empty table to the list of a name, which is made if it is missing. -/
def appendTable (name : String) (fields : Value.Fields) : Except Problem Value.Fields :=
  match fields.get? name with
  | none => .ok (fields.set name (.list [.table []]))
  | some (.list items) => .ok (fields.set name (.list (items ++ [.table []])))
  | some _ => .error .overwritten

/-- Whether a value is closed to later additions. -/
def isContainer : Value → Bool
  | .table _ | .list _ => true
  | _ => false

/-- Which keys are closed and which are declared. -/
structure Marks where
  closed : List Key := []
  declared : List Key := []

namespace Marks

/-- A key is closed when it or one of the keys on the way to it is. -/
def isClosed (m : Marks) (key : Key) : Bool := m.closed.any (·.isPrefixOf key)

def isDeclared (m : Marks) (key : Key) : Bool := m.declared.contains key

def close (m : Marks) (key : Key) : Marks := { m with closed := key :: m.closed }

def declare (m : Marks) (key : Key) : Marks := { m with declared := key :: m.declared }

/-- Forgets all marks below a key and at it. -/
def forget (m : Marks) (key : Key) : Marks where
  closed := m.closed.filter (!key.isPrefixOf ·)
  declared := m.declared.filter (!key.isPrefixOf ·)

end Marks

end ScriptTags.Toml
