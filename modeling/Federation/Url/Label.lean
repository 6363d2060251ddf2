import Federation.Text.Direction
import Federation.Text.Fold
import Federation.Text.Joining
import Federation.Url.Punycode

/-!
Labels, the parts of a name between full stops, in folded text. A label outside ASCII is written
encoded; an encoded one must decode to a label that folding leaves as it is. If a name holds any
letter that runs from right to left, its labels must each keep to one direction.
-/

namespace Federation.Url.Label

open Text (Direction)

def maxLength : Nat := 1000

def maxEncodedLength : Nat := 2000

def isAscii (label : List Char) : Bool := label.all Punycode.isBasic

def joiner : Char := '\u200D'

def nonJoiner : Char := '\u200C'

/-- Whether each joiner in the rest of a label has its place, after the characters before it, which
    are given backwards: both kinds may follow a virama, and the one that keeps letters apart may
    stand between letters that would join. -/
def joinersFit : (before : List Char) → (rest : List Char) → Bool
  | _, [] => true
  | before, c :: rest =>
    let fits :=
      if c = joiner ∨ c = nonJoiner then
        before.head?.any Text.isVirama ||
          c == nonJoiner && Text.Joining.reachesJoin Text.Joining.joinsNext before &&
            Text.Joining.reachesJoin Text.Joining.joinsPrevious rest
      else true
    fits && joinersFit (c :: before) rest

def isValid (label : List Char) : Bool :=
  label.length ≤ maxLength && !label.head?.any Text.isMark && joinersFit [] label

def decode? (encoded : List Char) : Option (List Char) := do
  if maxEncodedLength < encoded.length ∨ encoded.getLast?.all (· == '-') then none
  else
    let label ← Punycode.decode? encoded
    if !isAscii label && Text.fold? label == some label && isValid label then some label else none

def read? (text : List Char) : Option (List Char) :=
  match text with
  | 'x' :: 'n' :: '-' :: '-' :: encoded => decode? encoded
  | _ => if isAscii text || isValid text then some text else none

def write (label : List Char) : List Char :=
  if isAscii label then label else 'x' :: 'n' :: '-' :: '-' :: Punycode.encode label

def runsRight (c : Char) : Bool :=
  Direction.ofChar c == .rightToLeft || Direction.ofChar c == .arabicNumber

def directions (text : List Char) : List Direction :=
  ((text.map Direction.ofChar).reverse.dropWhile (· == .attached)).reverse

/-- Whether a label keeps to the direction of its first letter: it ends in that direction or in a
    number, and nothing in it has the other direction. From right to left all numbers are of one
    kind. -/
def keepsDirection : List Char → Bool
  | [] => true
  | first :: rest =>
    let inner := directions rest
    match Direction.ofChar first with
    | .leftToRight =>
      inner.getLast?.all [.leftToRight, .europeanNumber].contains &&
        inner.all [.leftToRight, .europeanNumber, .neutral, .attached].contains
    | .rightToLeft =>
      inner.getLast?.all [.rightToLeft, .europeanNumber, .arabicNumber].contains &&
        inner.all (· != .leftToRight) &&
        !(inner.contains .europeanNumber && inner.contains .arabicNumber)
    | _ => false

def writeAll? (labels : List (List Char)) : Option (List (List Char)) := do
  let labels ← labels.mapM read?
  if labels.any (·.any runsRight) && !labels.all keepsDirection then none
  else return labels.map write

end Federation.Url.Label
