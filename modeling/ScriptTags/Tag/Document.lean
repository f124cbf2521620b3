import ScriptTags.Settings.Basic
import ScriptTags.Tag.Basic

/-!
# Tags files

The text of a tags file: six header lines, then a line for each tag in the order given. Nothing is
escaped, and every line ends with a line break.
-/

namespace ScriptTags

namespace Document

/-- The header lines, which tell an editor the format and the order of the file. -/
def headerLines (p : ProgramInfo) : List String :=
  ["!_TAG_FILE_FORMAT\t2\t/extended format/",
   "!_TAG_FILE_SORTED\t1\t/0=unsorted, 1=sorted, 2=foldcase/",
   "!_TAG_PROGRAM_AUTHOR\t" ++ p.author ++ "\t/" ++ p.email ++ "/",
   "!_TAG_PROGRAM_NAME\t" ++ p.name ++ "\t//",
   "!_TAG_PROGRAM_URL\t" ++ p.url ++ "\t/" ++ p.description ++ "/",
   "!_TAG_PROGRAM_VERSION\t" ++ p.version ++ "\t//"]

def unlines (lines : List String) : String := String.join (lines.map (· ++ "\n"))

def header (p : ProgramInfo) : String := unlines (headerLines p)

def body (tags : List Tag) : String := unlines (tags.map Tag.render)

def text (p : ProgramInfo) (tags : List Tag) : String := header p ++ body tags

/-- Writes the lines of tags to the end of a text, one after the other, and counts them. -/
def append (text : String) (tags : List Tag) : String × Nat :=
  tags.foldl (fun (text, count) tag => (text ++ (tag.render ++ "\n"), count + 1)) (text, 0)

theorem append_eq (text : String) (tags : List Tag) :
    append text tags = (text ++ body tags, tags.length) := by
  -- The loop starts from any text and any count.
  have loop (count : Nat) : tags.foldl (fun (text, count) tag =>
      (text ++ (tag.render ++ "\n"), count + 1)) (text, count) =
        (text ++ body tags, count + tags.length) := by
    induction tags generalizing text count with
    | nil => simp [body, unlines]
    | cons tag rest ih =>
      rw [List.foldl_cons, ih]
      simp [body, unlines, String.append_assoc]
      omega
  rw [append, loop, Nat.zero_add]

end Document

end ScriptTags
