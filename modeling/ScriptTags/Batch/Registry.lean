import ScriptTags.Batch.File
import ScriptTags.Batch.Run
import ScriptTags.Language
import ScriptTags.Text.Order

/-!
# Extractors by language

A registry says which extractor finds the tags of the files of a language. Setting it up puts the
built-in extractor in place, also when another one has been registered. To read a single file the
registry is set up only if it has no extractor for the file; before a batch it always is.
-/

namespace ScriptTags

open Files Record

inductive Extractor where
  | builtIn
  /-- Any other way to find the tags of the file that a path leads to, under a name of its own.
  It is told the path as it was given and the language. -/
  | other (name : String) (find : FileSystem → String → String → Except Trouble FileTags)

namespace Extractor

/-- Answers every file with one tag, without reading it. -/
def constant (name : String) : Extractor :=
  .other name fun _ path language =>
    match Tag.check (.table [("name", .string name), ("file", .string path),
      ("address", .string "0/"), ("kind", .string Kind.function.letter), ("lineno", .int 1)]) with
    | .accepted tag => .ok ⟨Path.normalize path ++ "|" ++ path ++ "|" ++ language, [tag]⟩
    | .rejected issues => .error (.fatal (.invalidTag issues))

def extract (fs : FileSystem) (path language : String) : Extractor → Except Trouble FileTags
  | .builtIn => extractFile fs path path
  | .other _ find => find fs path language

end Extractor

/-- The extractors by language, each language once. -/
structure Registry where
  extractors : List (String × Extractor) := []

namespace Registry

def get? (r : Registry) (language : String) : Option Extractor :=
  (r.extractors.find? (·.1 == language)).map (·.2)

def register (r : Registry) (language : String) (e : Extractor) : Registry :=
  ⟨(r.extractors.filter (·.1 != language)) ++ [(language, e)]⟩

def languages (r : Registry) : List String := Text.sort (r.extractors.map (·.1))

def setUp (r : Registry) : Registry := r.register Language.default .builtIn

def languageOf (path : String) : String := (Language.ofPath? path).getD Language.default

/-- The registry with an extractor for a language, set up if it has none. -/
def ensure (r : Registry) (language : String) : Registry :=
  match r.get? language with
  | some _ => r
  | none => r.setUp

def extractPath (r : Registry) (fs : FileSystem) : Batch.Source := fun path =>
  match (r.ensure (languageOf path)).get? (languageOf path) with
  | some e => e.extract fs path (languageOf path)
  | none => .error (.reported (.general ("No extractor for " ++ languageOf path)))

inductive Request where
  | setUp
  | register (language : String) (e : Extractor)
  | get (language : String)
  | extract (path : String)
  | batch (paths : List String)

inductive Answer where
  | done
  | found (e : Option Extractor)
  | extracted (tags : Except Trouble FileTags)
  | collected (result : Except Trouble (Report × Collector))

/-- The answer to a request and the registry afterwards. -/
def step (r : Registry) (fs : FileSystem) : Request → Answer × Registry
  | .setUp => (.done, r.setUp)
  | .register language e => (.done, r.register language e)
  | .get language => (.found (r.get? language), r)
  | .extract path => (.extracted (r.extractPath fs path), r.ensure (languageOf path))
  | .batch paths => (.collected (Batch.run (r.setUp.extractPath fs) paths .empty), r.setUp)

def run (r : Registry) (fs : FileSystem) : List Request → List (Answer × Registry)
  | [] => []
  | q :: rest =>
    let answer := r.step fs q
    answer :: run answer.2 fs rest

end Registry

/-- Reads every path with the built-in extractor and collects the tags. -/
def tagFiles (fs : FileSystem) (paths : List String) (c : Collector) :
    Except Trouble (Report × Collector) :=
  Batch.run (Registry.extractPath (Registry.setUp {}) fs) paths c

end ScriptTags
