import EtcdLocator.Text.Bytes

namespace EtcdLocator.Text

def joinSurrogates (hi lo : Nat) : Nat := 0x10000 + (hi - 0xd800) * 0x400 + (lo - 0xdc00)

def isHighSurrogate (n : Nat) : Bool := 0xd800 ≤ n && n < 0xdc00

def isLowSurrogate (n : Nat) : Bool := 0xdc00 ≤ n && n < 0xe000

/-- The characters that units spell, unless a surrogate stands alone. -/
def ofUnits? : List Nat → Option (List Char)
  | [] => some []
  | [n] => if n.isValidChar then some [Char.ofNat n] else none
  | n :: m :: l =>
    if isHighSurrogate n && isLowSurrogate m then
      (ofUnits? l).map (Char.ofNat (joinSurrogates n m) :: ·)
    else if n.isValidChar then (ofUnits? (m :: l)).map (Char.ofNat n :: ·)
    else none

def unitsOf (lowFirst : Bool) : List UInt8 → List Nat
  | a :: b :: l =>
    (if lowFirst then a.toNat + 256 * b.toNat else 256 * a.toNat + b.toNat) :: unitsOf lowFirst l
  | _ => []

inductive Spelling where
  | unmarked
  | marked
  | lowFirst
  | highFirst
deriving DecidableEq, Repr

namespace Spelling

def complaint : Spelling → String
  | unmarked => "Invalid UTF-8"
  | marked => "Invalid UTF-8 BOM"
  | lowFirst => "Invalid UTF-16 LE"
  | highFirst => "Invalid UTF-16 BE"

/-- The spelling that a byte order mark announces, and the octets after the mark. -/
def ofBytes : List UInt8 → Spelling × List UInt8
  | 0xff :: 0xfe :: l => (lowFirst, l)
  | 0xfe :: 0xff :: l => (highFirst, l)
  | 0xef :: 0xbb :: 0xbf :: l => (marked, l)
  | l => (unmarked, l)

def read? : Spelling → List UInt8 → Option String
  | lowFirst, l => (ofUnits? (unitsOf true l)).map String.ofList
  | highFirst, l => (ofUnits? (unitsOf false l)).map String.ofList
  | marked, l | unmarked, l => Text.ofBytes? l

end Spelling

def ofMarkedBytes (l : List UInt8) : Except Spelling String :=
  let (spelling, l) := Spelling.ofBytes l
  match spelling.read? l with
  | some s => .ok s
  | none => .error spelling

end EtcdLocator.Text
