/-!
# Trees of texts

Texts that are alternatives of each other form a tree in which texts that begin alike share their
first nodes. The order of the texts is kept: a text that ends at a node closes the branches before
it, and a later text opens new ones.
-/

namespace Pushdown.Regex

/-- What was added at a node, the latest first: the end of a text, or a branch for a byte with the
node behind it. -/
inductive Trie where
  | nil
  | stop (rest : Trie)
  | branch (byte : UInt8) (below rest : Trie)

namespace Trie

/-- Goes on at the branch for a byte, which is a new one unless it was opened after the last end. -/
def update (byte : UInt8) (change : Trie → Trie) : Trie → Trie
  | .branch b below rest =>
    if b = byte then .branch b (change below) rest else .branch b below (update byte change rest)
  | .nil => .branch byte (change .nil) .nil
  | .stop rest => .branch byte (change .nil) (.stop rest)

/-- The tree with one more text. A second end at a node without branches changes nothing. -/
def insert : List UInt8 → Trie → Trie
  | [], .stop .nil => .stop .nil
  | [], node => .stop node
  | byte :: rest, node => update byte (insert rest) node

def ofTexts (texts : List (List UInt8)) : Trie :=
  texts.foldl (fun node text => insert text node) .nil

/-- Whether no branch leaves a node. -/
def isLeaf : Trie → Bool
  | .nil | .stop .nil => true
  | _ => false

end Trie

end Pushdown.Regex
