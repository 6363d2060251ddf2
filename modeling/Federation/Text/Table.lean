import Federation.Bytes.Hex

/-!
Tables of code points. A table is written as text: hexadecimal numbers, with a mark between two
numbers of one entry and blanks between two entries. The first number of an entry is a code point,
and the entries ascend by it.
-/

namespace Federation.Text

structure Table where
  entries : Array (Array Nat)

namespace Table

structure Reading where
  entries : Array (Array Nat)
  entry : Array Nat
  number : Option Nat

namespace Reading

def empty : Reading := ⟨#[], #[], none⟩

def endNumber (reading : Reading) : Reading :=
  match reading.number with
  | none => reading
  | some number => { reading with entry := reading.entry.push number, number := none }

def endEntry (reading : Reading) : Reading :=
  let ended := reading.endNumber
  if ended.entry.isEmpty then ended else ⟨ended.entries.push ended.entry, #[], none⟩

def next (reading : Reading) (c : Char) : Reading :=
  match Hex.digitValue? c with
  | some value => { reading with number := some (16 * reading.number.getD 0 + value) }
  | none => if c.isWhitespace then reading.endEntry else reading.endNumber

end Reading

def ofText (text : String) : Table := ⟨(text.foldl Reading.next .empty).endEntry.entries⟩

def start (table : Table) (position : Nat) : Nat := (table.entries.getD position #[]).getD 0 0

def countUpTo (table : Table) (point low high : Nat) : Nat :=
  if low < high then
    let middle := (low + high) / 2
    if table.start middle ≤ point then countUpTo table point (middle + 1) high
    else countUpTo table point low middle
  else low
termination_by high - low

def lastUpTo (table : Table) (point : Nat) : Option (Array Nat) :=
  match table.countUpTo point 0 table.entries.size with
  | 0 => none
  | position + 1 => table.entries[position]?

def covers (table : Table) (c : Char) : Bool :=
  (table.lastUpTo c.toNat).any fun range => c.toNat ≤ range.getD 1 (range.getD 0 0)

def at? (table : Table) (c : Char) : Option (Array Nat) :=
  (table.lastUpTo c.toNat).filter fun entry => entry.getD 0 0 == c.toNat

end Table

end Federation.Text
