import PipedQuery.Pattern.Admission
import PipedQuery.Pattern.Form.OfTree
import PipedQuery.Pattern.Prefix
import PipedQuery.Pattern.Size
import PipedQuery.Pattern.TreeReader

/-!
# Checking patterns

A regular expression is read, and then checked for its depth, for what it may match and for its
size, in this order.  `groupNames?` gives the names of the groups of a pattern without a flaw.
-/

namespace PipedQuery.Pattern

/-- The tree of a pattern, or the first flaw that is found. -/
def check (text : String) : Except Flaw Tree := do
  let t ← Tree.ofText? text
  if t.depth > maxDepth then throw .tooDeep
  let _ ← t.screen true
  let f := (t.form .start).1
  unless f.fits || f.isTextSearch do
    throw .tooLarge
  return t

/-- The names of the groups of a pattern, from left to right. -/
def groupNames? (text : String) : Except Flaw (List String) := (check text).map Tree.names

end PipedQuery.Pattern
