import Federation.Text.Composition
import Federation.Text.Fold.Tables

namespace Federation.Text

namespace Fold

def shift? (c : Char) : Option (List Char) := do
  let range ← shifted.lastUpTo c.toNat
  let offset := c.toNat - range.getD 0 0
  if c.toNat ≤ range.getD 1 0 ∧ offset % range.getD 2 1 = 0 then
    some [Char.ofNat (range.getD 3 0 + offset)]
  else none

def replacement? (c : Char) : Option (List Char) := do
  let block ← replaced.lastUpTo c.toNat
  let point ← block[c.toNat - block.getD 0 0 + 1]?
  return [Char.ofNat point]

def spelling? (c : Char) : Option (List Char) :=
  (spelled.at? c).map fun entry => (entry.toList.drop 1).map Char.ofNat

end Fold

def foldChar? (c : Char) : Option (List Char) :=
  if Fold.refused.covers c then none
  else if Fold.dropped.covers c then some []
  else some (((Fold.shift? c).or ((Fold.replacement? c).or (Fold.spelling? c))).getD [c])

def fold? (text : List Char) : Option (List Char) :=
  (text.mapM foldChar?).map fun parts => compose parts.flatten

end Federation.Text
