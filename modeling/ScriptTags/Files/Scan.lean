import ScriptTags.Error
import ScriptTags.Files.Tree
import ScriptTags.Language
import ScriptTags.Text.Order

/-!
# Finding the files to read

Arguments are paths of files and of directories. A file is taken as it was given, whatever its
extension and whether or not it exists. A directory stands for the files below it that have one of
some extensions: first its own files, then those of its directories, each in the order of their
names. Directories of certain names are passed over, and so are links to directories. No path is
taken twice.
-/

namespace ScriptTags.Files

/-- Directories that hold no sources of their own. -/
def usuallySkipped : List String :=
  [".git", ".hg", ".svn", "node_modules", "bower_components", "jspm_packages", "dist", "build",
   "out", "coverage", ".nyc_output", ".next", ".nuxt", ".cache", ".venv", "venv", "__pycache__"]

/-- What is taken from a directory. -/
structure Selection where
  /-- The extensions of files, in lower case. -/
  extensions : List String
  /-- The names of directories to pass over. -/
  skipped : List String

namespace Selection

def ofNames (extensions excluded : List String) : Selection :=
  ⟨extensions.map Text.lower, usuallySkipped ++ excluded⟩

/-- The extensions of known languages and the usual directories. -/
def default (excluded : List String) : Selection :=
  ofNames (Language.extensions.map (·.1)) excluded

def takesFile (s : Selection) (name : String) : Bool :=
  s.extensions.contains (Path.lowerExtension name)

def skips (s : Selection) (name : String) : Bool := s.skipped.contains name

end Selection

namespace Entry

/-- Whether an entry of the directory at a location leads to a directory. A link is followed from
that directory, so the links that led to the directory itself are not counted again, and the length
of the whole path is not limited; `FileSystem.locate` counts all links of a path and limits it. -/
def leadsToDirectory (root : Entry) (here : Location) : Entry → Bool
  | .file _ _ => false
  | .directory _ _ => true
  | .link name _ =>
    match FileSystem.follow root maxLinks here [name] with
    | .ok there =>
      match root.at? there with
      | some (.directory _ _) => true
      | _ => false
    | .error _ => false

def takenNames (root : Entry) (s : Selection) (here : Location) (entries : List Entry) :
    List String :=
  Text.sort ((entries.filter fun e =>
    !leadsToDirectory root here e && s.takesFile e.name).map Entry.name)

mutual

/-- The paths of the files to take below a directory, which is at a location and is spelled as
given. The walk goes down however long the spelled paths become: the limit of `FileSystem.locate`
holds for the paths that are looked up, not for those that are listed. -/
def filesBelow (root : Entry) (s : Selection) (here : Location) (spelled : String) :
    Entry → List String
  | .directory _ entries =>
    (takenNames root s here entries).map (Path.join spelled) ++
      ((subdirectories root s here spelled entries).mergeSort fun a b => Text.inOrder a.1 b.1).flatMap
        (·.2)
  | _ => []

/-- The directories among some entries by name, each with the paths of its files. -/
def subdirectories (root : Entry) (s : Selection) (here : Location) (spelled : String) :
    List Entry → List (String × List String)
  | [] => []
  | e :: rest =>
    match e with
    | .directory name entries =>
      if s.skips name then subdirectories root s here spelled rest
      else
        (name, filesBelow root s (here ++ [name]) (Path.join spelled name)
          (.directory name entries)) :: subdirectories root s here spelled rest
    | _ => subdirectories root s here spelled rest

end

end Entry

/-- The files to read and the directories that were searched, as they were given. -/
structure Scan where
  files : List String := []
  directories : List String := []
  deriving DecidableEq, Repr

namespace Scan

def insertNew (files : List String) (path : String) : List String :=
  if files.contains path then files else files ++ [path]

/-- Whether a path leads to a directory. Points and slashes that mean nothing are taken away from
its spelling first. -/
def isDirectory (fs : FileSystem) (path : String) : Except Fault Bool :=
  let path := Path.normalize path
  if Path.hasNull path then .ok false
  else match fs.entry path with
    | .ok (.directory _ _) => .ok true
    | .error .nameTooLong => .error (.nameTooLong path)
    | _ => .ok false

/-- The files to take below the directory that a path leads to; the path is followed as it is
spelled, so that the empty path leads nowhere. -/
def filesOf (fs : FileSystem) (s : Selection) (path : String) : List String :=
  match fs.locate path with
  | .ok location =>
    match fs.root.at? location with
    | some e => Entry.filesBelow fs.root s location path e
    | none => []
  | .error _ => []

def add (fs : FileSystem) (s : Selection) (scan : Scan) (path : String) : Except Fault Scan := do
  if ← isDirectory fs path then
    return ⟨(filesOf fs s path).foldl insertNew scan.files, scan.directories ++ [path]⟩
  else return ⟨insertNew scan.files path, scan.directories⟩

def ofPaths (fs : FileSystem) (s : Selection) (paths : List String) : Except Fault Scan :=
  paths.foldlM (add fs s) {}

end Scan

end ScriptTags.Files
