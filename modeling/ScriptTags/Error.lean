import ScriptTags.Record.Issue
import ScriptTags.Text.Decimal
import ScriptTags.Text.Utf8

/-!
# Errors

What can go wrong is of two kinds. Errors are expected: they are reported by one sentence for
people, and a run may go on after them. Faults are not: a fault ends the program.
-/

namespace ScriptTags

inductive Error where
  | general (message : String)
  /-- A source cannot be read. -/
  | unreadable (path reason : String)
  /-- A source is not a script; the line is that of the first error. -/
  | unparsable (path : String) (line : Option Int)
  /-- A collector was used after it had been flushed. -/
  | flushed (operation : String)
  /-- A settings file cannot be read. -/
  | badSettings (path reason : String)
  /-- A settings file holds values that are no settings. -/
  | invalidSettings (path : String) (issues : List Record.Issue)
  deriving DecidableEq, Repr

namespace Error

def issueCount (issues : List Record.Issue) : String :=
  match issues.length with
  | 1 => "1 validation error"
  | n => s!"{n} validation errors"

def message : Error → String
  | .general message => message
  | .unreadable path reason => s!"{path}: {reason}"
  | .unparsable path none => s!"{path}: syntax error"
  | .unparsable path (some line) => s!"{path}: syntax error near line {line}"
  | .flushed operation => s!"Cannot {operation}: collector already flushed"
  | .badSettings path reason => s!"Invalid config {path}: {reason}"
  | .invalidSettings path issues => s!"Invalid config {path}: {issueCount issues} for JstagsConfig"

end Error

inductive Fault where
  /-- A path to be opened holds a null character. -/
  | nullInPath
  /-- A path to be looked up holds a null character; the operation is the one that looks. -/
  | nullInSearch (operation : String)
  /-- A path that might lead to a directory or to settings has too long a name. -/
  | nameTooLong (path : String)
  /-- Links on the way to a directory lead back to themselves. -/
  | linkLoop (path : String)
  /-- A settings file is no text. -/
  | undecodable (error : Text.Utf8.DecodeError)
  /-- A number has more digits than are read or written; those of a text are counted. -/
  | longNumber (digits : Option Nat)
  /-- A definition makes no valid tag. -/
  | invalidTag (issues : List Record.Issue)
  deriving DecidableEq, Repr

def Fault.message : Fault → String
  | .nullInPath => "embedded null byte"
  | .nullInSearch operation => operation ++ ": embedded null character in path"
  | .nameTooLong path => "[Errno 36] File name too long: " ++ Text.quoted path
  | .linkLoop path => "Symlink loop from " ++ Text.quoted path
  | .undecodable error => error.message
  | .longNumber digits => Text.Decimal.tooLong digits
  | .invalidTag issues => Error.issueCount issues ++ " for TagEntry"

/-- Why there is no result. -/
inductive Trouble where
  | reported (error : Error)
  | fatal (fault : Fault)
  deriving DecidableEq, Repr

end ScriptTags
