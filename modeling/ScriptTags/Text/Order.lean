/-!
# Order of texts

Texts are ordered by the code points of their characters.
-/

namespace ScriptTags.Text

/-- Whether a text may stand before another. -/
def inOrder (a b : String) : Bool := !decide (b < a)

def sort (texts : List String) : List String := texts.mergeSort inOrder

end ScriptTags.Text
