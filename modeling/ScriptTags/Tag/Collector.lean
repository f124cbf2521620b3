import ScriptTags.Error
import ScriptTags.Tag.Basic
import ScriptTags.Text.Order

/-!
# Collecting tags

The tags of many files come together in one collector, which accepts them until it is flushed.
Flushing gives them back in the order of their lines, tags with the same line in the order in which
they were accepted, and closes the collector for good: whatever is asked of it afterwards fails and
changes nothing.
-/

namespace ScriptTags

/-- Whether the line of a tag may stand before the line of another, by code points. -/
def Tag.precedes (a b : Tag) : Bool := Text.inOrder a.render b.render

def Tag.sort (tags : List Tag) : List Tag := tags.mergeSort Tag.precedes

inductive Collector where
  | accumulating (tags : List Tag)
  | flushed
  deriving DecidableEq, Repr

namespace Collector

def empty : Collector := .accumulating []

/-- The tags accepted and not yet given back. -/
def tags : Collector → List Tag
  | .accumulating tags => tags
  | .flushed => []

def length (c : Collector) : Nat := c.tags.length

def state : Collector → String
  | .accumulating _ => "accumulating"
  | .flushed => "flushed"

def append (tag : Tag) : Collector → Except Error Collector
  | .accumulating tags => .ok (.accumulating (tags ++ [tag]))
  | .flushed => .error (.flushed "append")

def extend (batch : List Tag) : Collector → Except Error Collector
  | .accumulating tags => .ok (.accumulating (tags ++ batch))
  | .flushed => .error (.flushed "extend")

/-- Gives back the tags in order and closes the collector. -/
def flush : Collector → Except Error (List Tag × Collector)
  | .accumulating tags => .ok (Tag.sort tags, .flushed)
  | .flushed => .error (.flushed "flush")

inductive Request where
  | append (tag : Tag)
  | extend (tags : List Tag)
  | flush
  deriving DecidableEq, Repr

/-- The answer to a request: the tags given back by a flush and nothing by the others, or an error;
with it the collector afterwards. -/
def step (c : Collector) : Request → Except Error (Option (List Tag)) × Collector
  | .append tag =>
    match c.append tag with
    | .ok d => (.ok none, d)
    | .error e => (.error e, c)
  | .extend tags =>
    match c.extend tags with
    | .ok d => (.ok none, d)
    | .error e => (.error e, c)
  | .flush =>
    match c.flush with
    | .ok (tags, d) => (.ok (some tags), d)
    | .error e => (.error e, c)

def run (c : Collector) : List Request → List (Except Error (Option (List Tag)) × Collector)
  | [] => []
  | r :: rest =>
    let answer := c.step r
    answer :: run answer.2 rest

end Collector

end ScriptTags
