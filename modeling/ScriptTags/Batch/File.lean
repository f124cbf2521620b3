import ScriptTags.Extract
import ScriptTags.Files.Tree
import ScriptTags.Script.Program

/-!
# Tags of a file

A file is read, parsed and searched for definitions. Its tags name it as asked, which need not be
the path that it was read from.
-/

namespace ScriptTags

open Files

def extractSource (source : Text.Bytes) (file : String) : Except Trouble FileTags :=
  extractTree (Script.read source) file

/-- The tags of the file that a path leads to, under the name `file`. -/
def extractFile (fs : FileSystem) (path file : String) : Except Trouble FileTags :=
  let path := Path.normalize path
  if Path.hasNull path then .error (.fatal .nullInPath)
  else match fs.read path with
    | .ok content => extractSource content file
    | .error e => .error (.reported (.unreadable file e.message))

end ScriptTags
