import ScriptTags.Error
import ScriptTags.Files.Tree
import ScriptTags.Settings.Basic
import ScriptTags.Toml.Document

/-!
# Settings files

Settings are kept in a file of a fixed name. The one that counts for a directory is the nearest: in
the directory itself or in the closest directory above it that has one. Links on the way to the
directory are resolved first, so that "above" means above the place where it really is. Without
such a file the defaults hold.
-/

namespace ScriptTags.Settings

open Files

def fileName : String := ".jstags.toml"

def ofBytes (path : String) (content : Text.Bytes) : Except Trouble Settings :=
  match Text.Utf8.decode? content with
  | .error e => .error (.fatal (.undecodable e))
  | .ok text =>
    match Toml.parse text with
    | .error (.malformed reason) => .error (.reported (.badSettings path reason))
    | .error (.longNumber digits) => .error (.fatal (.longNumber (some digits)))
    | .ok value =>
      match check value with
      | .accepted settings => .ok settings
      | .rejected issues => .error (.reported (.invalidSettings path issues))

def load (fs : FileSystem) (path : String) : Except Trouble Settings :=
  let path := Path.normalize path
  if Path.hasNull path then .error (.fatal .nullInPath)
  else match fs.read path with
    | .error e => .error (.reported (.badSettings path e.message))
    | .ok content => ofBytes path content

/-- Follows names without looking at the tree. -/
def lexical (here : Location) : List String → Location
  | [] => here
  | name :: rest =>
    if name = "." then lexical here rest
    else if name = ".." then lexical here.dropLast rest
    else lexical (here ++ [name]) rest

/-- Where names lead when every link is resolved and nothing needs to exist. The links being
resolved are kept in `active`: one that is met again is never resolved, and the result is then the
path on which that happened. The nesting of links is at most `depth`, which their number bounds. -/
def resolve (root : Entry) (depth : Nat) (active : List Location) (here : Location) :
    List String → Except Location Location
  | [] => .ok here
  | name :: rest =>
    if name = "." then resolve root depth active here rest
    else if name = ".." then resolve root depth active here.dropLast rest
    else
      let next := here ++ [name]
      match root.at? next with
      | some (.link _ target) =>
        if active.contains next then .error (lexical next rest)
        else match depth with
          | 0 => .error (lexical next rest)
          | depth + 1 =>
            match resolve root depth (next :: active)
                (if Path.isAbsolute target then [] else here) (Path.names target) with
            | .ok there => resolve root (depth + 1) active there rest
            | .error there => .error (lexical there rest)
      | _ => resolve root depth active next rest
termination_by names => (depth, names.length)

def searchStart (fs : FileSystem) (start : String) : Except Fault Location :=
  if Path.hasNull start then .error (.nullInSearch "lstat")
  else match resolve fs.root (fs.root.linkCount + 1) [] (fs.start start) (Path.names start) with
    | .ok location => .ok location
    | .error location => .error (.linkLoop (FileSystem.pathOf location))

def pathIn (directory : Location) : String := FileSystem.pathOf (directory ++ [fileName])

def isFile (fs : FileSystem) (path : String) : Except Fault Bool :=
  match fs.entry path with
  | .ok (.file _ _) => .ok true
  | .error .nameTooLong => .error (.nameTooLong path)
  | _ => .ok false

/-- The nearest directory with a settings file, among those that the given names and less of them
lead to; the names are in reverse order. -/
def findAbove (fs : FileSystem) : List String → Except Fault (Option String)
  | [] => do return if ← isFile fs (pathIn []) then some (pathIn []) else none
  | name :: above => do
    let path := pathIn (name :: above).reverse
    if ← isFile fs path then return some path else findAbove fs above

/-- The path of the settings file that counts for a directory. -/
def find (fs : FileSystem) (start : String) : Except Fault (Option String) := do
  let location ← searchStart fs start
  findAbove fs location.reverse

/-- The settings that count for a directory. -/
def loadNearest (fs : FileSystem) (start : String) : Except Trouble Settings :=
  match find fs start with
  | .error fault => .error (.fatal fault)
  | .ok none => .ok {}
  | .ok (some path) => load fs path

end ScriptTags.Settings
