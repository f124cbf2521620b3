import ScriptTags.Files.Path
import ScriptTags.Text.Utf8

/-!
# File trees

A file system is a tree of named entries: files with their bytes, directories with further entries,
and links, which stand for the path they hold. A place in the tree is a location, the names of the
entries from the root to it; a location passes through no link. A path is followed from the working
directory, or from the root, to a location.
-/

namespace ScriptTags.Files

open Text (Bytes)

inductive Entry where
  | file (name : String) (content : Bytes)
  | link (name : String) (target : String)
  | directory (name : String) (entries : List Entry)
  deriving Repr

namespace Entry

def name : Entry → String
  | .file name _ => name
  | .link name _ => name
  | .directory name _ => name

end Entry

/-- The names of the entries on the way from the root. -/
abbrev Location := List String

/-- Why a path leads to nothing that can be used. -/
inductive FileError where
  | missing
  | isDirectory
  | notDirectory
  | nameTooLong
  | tooManyLinks
  deriving DecidableEq, Repr

def FileError.message : FileError → String
  | .missing => "No such file or directory"
  | .isDirectory => "Is a directory"
  | .notDirectory => "Not a directory"
  | .nameTooLong => "File name too long"
  | .tooManyLinks => "Too many levels of symbolic links"

/-- The entry of a name among several. -/
def named? (entries : List Entry) (name : String) : Option Entry :=
  entries.find? (·.name == name)

namespace Entry

/-- The entry at a location below this one. -/
def at? : Location → Entry → Option Entry
  | [], e => some e
  | name :: rest, .directory _ entries => (named? entries name).bind (at? rest)
  | _ :: _, _ => none

mutual

def files : Entry → List (Location × Bytes)
  | .file name content => [([name], content)]
  | .link _ _ => []
  | .directory name entries =>
    (filesOf entries).map fun file => (name :: file.1, file.2)

def filesOf : List Entry → List (Location × Bytes)
  | [] => []
  | e :: rest => e.files ++ filesOf rest

end

mutual

def linkCount : Entry → Nat
  | .file _ _ => 0
  | .link _ _ => 1
  | .directory _ entries => linkCountOf entries

def linkCountOf : List Entry → Nat
  | [] => 0
  | e :: rest => e.linkCount + linkCountOf rest

end

/-- Puts a file among entries, in the place of the entry of the same name if there is one. -/
def putFile (name : String) (content : Bytes) (entries : List Entry) : List Entry :=
  if entries.any (·.name == name) then
    entries.map fun e => if e.name == name then .file name content else e
  else entries ++ [.file name content]

/-- Writes a file at a location below a directory. -/
def write (content : Bytes) : Location → Entry → Entry
  | [], e => e
  | [name], .directory own entries => .directory own (putFile name content entries)
  | name :: next :: rest, .directory own entries =>
    .directory own (entries.map fun e =>
      if e.name == name then write content (next :: rest) e else e)
  | _, e => e

end Entry

structure FileSystem where
  root : Entry
  /-- Where paths that are not absolute begin. -/
  workingDirectory : Location
  deriving Repr

/-- The longest name and the longest path, in bytes. -/
def maxNameBytes : Nat := 255
def maxPathBytes : Nat := 4095

def maxLinks : Nat := 40

namespace FileSystem

/-- Where following a path begins. -/
def start (fs : FileSystem) (path : String) : Location :=
  if Path.isAbsolute path then [] else fs.workingDirectory

/-- Follows names from a location. At most `links` links are passed through. -/
def follow (root : Entry) (links : Nat) (here : Location) : List String → Except FileError Location
  | [] => .ok here
  | name :: rest =>
    match root.at? here with
    | some (.directory _ entries) =>
      if name = "." then follow root links here rest
      else if name = ".." then follow root links here.dropLast rest
      else if maxNameBytes < name.utf8ByteSize then .error .nameTooLong
      else match named? entries name with
        | none => .error .missing
        | some (.link _ target) =>
          match links with
          | 0 => .error .tooManyLinks
          | links + 1 =>
            follow root links (if Path.isAbsolute target then [] else here)
              (Path.route target ++ rest)
        | some _ => follow root links (here ++ [name]) rest
    | some _ => .error .notDirectory
    | none => .error .missing
termination_by names => (links, names.length)

def locate (fs : FileSystem) (path : String) : Except FileError Location :=
  if path = "" then .error .missing
  else if maxPathBytes < path.utf8ByteSize then .error .nameTooLong
  else follow fs.root maxLinks (fs.start path) (Path.route path)

def entry (fs : FileSystem) (path : String) : Except FileError Entry :=
  match fs.locate path with
  | .ok location =>
    match fs.root.at? location with
    | some e => .ok e
    | none => .error .missing
  | .error e => .error e

def read (fs : FileSystem) (path : String) : Except FileError Bytes :=
  match fs.entry path with
  | .ok (.file _ content) => .ok content
  | .ok _ => .error .isDirectory
  | .error e => .error e

/-- Follows names to the place of a file to be written, which need not exist yet. The last name is
looked up by itself: a path that ends with a slash, or with a name of points, stands for a
directory and cannot be written. -/
def followToWrite (root : Entry) (links : Nat) (here : Location) (slash : Bool) :
    List String → Except FileError Location
  | [] => .error .isDirectory
  | name :: rest =>
    match root.at? here with
    | some (.directory _ entries) =>
      if rest.isEmpty && slash then .error .isDirectory
      else if name = "." then followToWrite root links here slash rest
      else if name = ".." then followToWrite root links here.dropLast slash rest
      else if maxNameBytes < name.utf8ByteSize then .error .nameTooLong
      else match named? entries name with
        | none => if rest.isEmpty then .ok (here ++ [name]) else .error .missing
        | some (.link _ target) =>
          match links with
          | 0 => .error .tooManyLinks
          | links + 1 =>
            followToWrite root links (if Path.isAbsolute target then [] else here)
              (if rest.isEmpty then Path.endsWithSlash target else slash)
              (Path.names target ++ rest)
        | some (.directory _ _) => followToWrite root links (here ++ [name]) slash rest
        | some (.file _ _) => if rest.isEmpty then .ok (here ++ [name]) else .error .notDirectory
    | some _ => .error .notDirectory
    | none => .error .missing
termination_by names => (links, names.length)

/-- The location of the file that writing to a path changes or creates. -/
def locateToWrite (fs : FileSystem) (path : String) : Except FileError Location :=
  if path = "" then .error .missing
  else if maxPathBytes < path.utf8ByteSize then .error .nameTooLong
  else followToWrite fs.root maxLinks (fs.start path) (Path.endsWithSlash path) (Path.names path)

def write (fs : FileSystem) (location : Location) (content : Bytes) : FileSystem :=
  { fs with root := fs.root.write content location }

def pathOf (location : Location) : String := "/" ++ "/".intercalate location

end FileSystem

end ScriptTags.Files
