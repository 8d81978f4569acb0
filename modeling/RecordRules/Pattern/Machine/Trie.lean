import RecordRules.Pattern.Machine.Basic

set_option autoImplicit false

namespace RecordRules.Pattern

-- A text that ends where another one goes on keeps its rank: ways that were there before it are tried
-- before it, later ones after it, and the two are kept apart.
inductive Trie where
  | nil
  | edge (byte : Nat) (child next : Trie)
  | stop (next : Trie)

namespace Trie

def ofBytes : List Nat → Trie
  | [] => .stop .nil
  | byte :: rest => .edge byte (ofBytes rest) .nil

def insert : Trie → List Nat → Trie
  | .stop .nil, [] => .stop .nil
  | trie, [] => .stop trie
  | .edge byte' child next, byte :: rest =>
      if byte = byte' then .edge byte' (child.insert rest) next
      else .edge byte' child (next.insert (byte :: rest))
  | trie, byte :: rest => .edge byte (ofBytes rest) trie

def ofTexts (texts : List (List Nat)) : Trie := texts.foldl insert .nil

def isLeaf : Trie → Bool
  | .nil => true
  | .edge _ _ _ => false
  | .stop next => next.isLeaf

def bundle : Nat → Machine
  | 0 => .empty
  | 1 => ⟨1, 4⟩
  | width => ⟨1, 8 * width + 4⟩

def machineFrom : Trie → Nat → Machine
  | .nil, width => bundle width
  | .edge _ child next, width =>
      (if child.isLeaf then .empty else .state 0 + child.machineFrom 0) +
        next.machineFrom (width + 1)
  | .stop next, width => bundle width + ⟨0, 4⟩ + next.machineFrom 0

def machine (trie : Trie) : Machine := .state 0 + .state 0 + trie.machineFrom 0

end Trie

end RecordRules.Pattern
