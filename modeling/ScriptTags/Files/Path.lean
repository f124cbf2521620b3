import ScriptTags.Text.LetterCase

/-!
# Paths

A path is a text in which slashes separate names. Paths are kept as they were spelled, because tags
name files by the spelling given; the functions here read a spelling apart or shorten it.
-/

namespace ScriptTags.Files.Path

def pieces (path : List Char) : List (List Char) :=
  path.foldr
    (fun c pieces =>
      if c = '/' then [] :: pieces
      else match pieces with
        | [] => [[c]]
        | piece :: rest => (c :: piece) :: rest)
    [[]]

def names (path : String) : List String :=
  ((pieces path.toList).filter (!·.isEmpty)).map String.ofList

def isAbsolute (path : String) : Bool := path.toList.head? == some '/'

/-- A path that ends with a slash stands for a directory. -/
def endsWithSlash (path : String) : Bool := path.toList.getLast? == some '/'

/-- The names to follow one after the other; a slash at the end is followed as the name of the
directory itself. -/
def route (path : String) : List String :=
  names path ++ if endsWithSlash path then ["."] else []

/-- A path with a null character cannot be opened. -/
def hasNull (path : String) : Bool := path.toList.contains (Char.ofNat 0)

/-- The start of an absolute path. Exactly two slashes are kept apart from one. -/
def anchor (path : String) : String :=
  match path.toList.takeWhile (· == '/') with
  | [] => ""
  | [_, _] => "//"
  | _ => "/"

/-- The path without names that lead nowhere: repeated slashes, slashes at the end and single
points. Two points are kept, since the name before them may be a link. -/
def normalize (path : String) : String :=
  let kept := (names path).filter (· != ".")
  let text := anchor path ++ "/".intercalate kept
  if text = "" then "." else text

/-- The path of a name in a directory, which keeps its spelling. -/
def join (directory name : String) : String :=
  if directory = "" || endsWithSlash directory then directory ++ name
  else directory ++ "/" ++ name

def lastName (path : List Char) : List Char := ((pieces path).getLast?).getD []

/-- The extension of a file name: the part from its last point on. Points at the start do not
count, since they hide a file. -/
def extensionOfName (name : List Char) : List Char :=
  let stem := name.dropWhile (· == '.')
  let tail := stem.reverse.takeWhile (· != '.')
  if tail.length = stem.length then [] else '.' :: tail.reverse

/-- The extension of the file that a path leads to. -/
def extension (path : String) : String :=
  String.ofList (extensionOfName (lastName path.toList))

def lowerExtension (path : String) : String := Text.lower (extension path)

end ScriptTags.Files.Path
