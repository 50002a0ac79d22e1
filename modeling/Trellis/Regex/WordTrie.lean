/-!
Tries of words over bytes, which keep the order of preference: what is added after the end of a word stays
behind it.
-/

namespace Trellis.Regex

/-- A node is a list of branches and word ends. -/
inductive WordTrie
  | done
  /-- A word ends here; branches after it are less preferred. -/
  | wordEnd (rest : WordTrie)
  | branch (byte : Nat) (below rest : WordTrie)
deriving DecidableEq, Repr

namespace WordTrie

def hasWordEnd : WordTrie → Bool
  | done => false
  | wordEnd _ => true
  | branch _ _ rest => rest.hasWordEnd

/-- Whether a node has no branches. -/
def isLeaf : WordTrie → Bool
  | done => true
  | wordEnd rest => rest.isLeaf
  | branch _ _ _ => false

/-- Add a word end behind everything else. -/
def append : WordTrie → WordTrie
  | done => wordEnd done
  | wordEnd rest => wordEnd rest.append
  | branch byte below rest => branch byte below rest.append

/-- End a word at a node. A word that ends at a leaf twice counts once. -/
def finish (t : WordTrie) : WordTrie := if t = wordEnd done then t else t.append

/-- Change what is below a byte, among the branches after the last word end, which are in order. -/
def change (byte : Nat) (f : WordTrie → WordTrie) : WordTrie → WordTrie
  | done => branch byte (f done) done
  | wordEnd rest => wordEnd (change byte f rest)
  | branch b below rest =>
    if rest.hasWordEnd then branch b below (change byte f rest)
    else if b = byte then branch b (f below) rest
    else if byte < b then branch byte (f done) (branch b below rest)
    else branch b below (change byte f rest)

def insert : List Nat → WordTrie → WordTrie
  | [] => finish
  | byte :: rest => change byte (insert rest)

/-- The trie of some words, the most preferred first. -/
def ofWords (words : List (List Nat)) : WordTrie := words.foldl (fun t word => insert word t) done

end WordTrie

end Trellis.Regex
