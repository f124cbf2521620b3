import ScriptTags.Files.Path

/-!
# Languages

The language of a file is told by its extension.
-/

namespace ScriptTags.Language

/-- The language of files whose extension tells nothing. -/
def default : String := "javascript"

def extensions : List (String × String) :=
  [(".js", "javascript"), (".mjs", "javascript"), (".cjs", "javascript"), (".jsx", "javascript")]

def ofPath? (path : String) : Option String :=
  (extensions.find? (·.1 == Files.Path.lowerExtension path)).map (·.2)

end ScriptTags.Language
