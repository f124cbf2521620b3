import ScriptTags.Settings.Basic
import ScriptTags.Text.Decimal
import ScriptTags.Text.Quoted

/-!
# Listing settings

Settings are shown by name, texts in quotes and lists in brackets.
-/

namespace ScriptTags

def ProgramInfo.display (p : ProgramInfo) : String :=
  "ProgramInfo(" ++
    ", ".intercalate (p.fields.map fun field => field.1 ++ "=" ++ Text.quoted field.2) ++ ")"

namespace Settings

def displayList (items : List String) : String :=
  "[" ++ ", ".intercalate (items.map Text.quoted) ++ "]"

def displayed (s : Settings) : List (String × String) :=
  [("output", Text.quoted s.output), ("concurrency", toString s.concurrency),
    ("extensions", displayList s.extensions), ("exclude_dirs", displayList s.excludeDirs),
    ("program", s.program.display)]

def keys : List String := ({} : Settings).displayed.map (·.1)

/-- Settings, one a line under a title. -/
def listingOf (displayed : List (String × String)) : String :=
  "jstags config:\n" ++
    String.join (displayed.map fun (key, text) => "  " ++ key ++ " = " ++ text ++ "\n")

def listing (s : Settings) : String := listingOf s.displayed

/-- The settings that are listed before the first number. -/
def listingStart (s : Settings) : String :=
  listingOf (s.displayed.takeWhile (·.1 != "concurrency"))

/-- Whether the number among the settings can be shown. -/
def isWritable (s : Settings) : Bool := Text.Decimal.isWritable s.concurrency

def line? (s : Settings) (key : String) : Option String :=
  (s.displayed.find? (·.1 == key)).map fun (key, text) => key ++ " = " ++ text ++ "\n"

end Settings

end ScriptTags
