/-!
# Tries of texts

A choice between texts alone is laid out as a trie.  The order of the options counts, so a node where
a text ends keeps the branches that were added before that apart from the later ones.
-/

namespace PipedQuery.Pattern

/-- A node of a trie: the groups of branches that a text ended behind, last ones first, and the
    branches added since then. -/
inductive Trie where
  | node (closed : List (List (Nat × Trie))) (branches : List (Nat × Trie))

namespace Trie

/-- The trie of no text. -/
def empty : Trie := node [] []

/-- Whether nothing branches off. -/
def isLeaf : Trie → Bool
  | node closed branches => closed.all List.isEmpty && branches.isEmpty

/-- The trie with a text that ends at its root.  At a leaf only the first one counts. -/
def close : Trie → Trie
  | node closed branches =>
    if (node closed branches).isLeaf && !closed.isEmpty then node closed branches
    else node (branches :: closed) []

/-- The trie with one more text. -/
def insert : List Nat → Trie → Trie
  | [], t => t.close
  | b :: bs, node closed branches =>
    node closed
      (if branches.any (·.1 = b) then
        branches.map fun branch => if branch.1 = b then (b, insert bs branch.2) else branch
      else branches ++ [(b, insert bs empty)])

/-- The trie of some texts. -/
def ofList (texts : List (List Nat)) : Trie := texts.foldl (fun t bs => t.insert bs) empty

end Trie

end PipedQuery.Pattern
