namespace EtcdLocator.Tls.Der

inductive Tag where
  | boolean
  | integer
  | bitString
  | octetString
  | objectId
  | sequence
  /-- A field that is told by its number and holds an element. -/
  | field (number : Nat)
  | other (byte : UInt8)
deriving DecidableEq, Repr

def Tag.ofByte (b : UInt8) : Tag :=
  if b = 0x01 then boolean
  else if b = 0x02 then integer
  else if b = 0x03 then bitString
  else if b = 0x04 then octetString
  else if b = 0x06 then objectId
  else if b = 0x30 then sequence
  else if 0xa0 ≤ b && b < 0xc0 then field (b.toNat - 0xa0)
  else other b

structure Element where
  tag : Tag
  content : List UInt8
deriving DecidableEq, Repr

/-- The number that octets spell, the first of which counts most. -/
def number (l : List UInt8) : Nat := l.foldl (fun n b => n * 256 + b.toNat) 0

/-- A length and the octets after it. A length is written as shortly as can be, in two octets at
most. -/
def length? : List UInt8 → Option (Nat × List UInt8)
  | [] => none
  | b :: l =>
    if b < 0x80 then some (b.toNat, l)
    else
      let size := b.toNat - 0x80
      let n := number (l.take size)
      let least := if size = 1 then 0x80 else 0x100
      if 0 < size && size ≤ 2 && size ≤ l.length && least ≤ n then some (n, l.drop size) else none

/-- Whether a tag goes on in the octets that follow, which none has to. -/
def isLongTag (b : UInt8) : Bool := b &&& 0x1f = 0x1f

def element? : List UInt8 → Option (Element × List UInt8)
  | [] => none
  | tag :: l =>
    match length? l with
    | none => none
    | some (n, l) =>
      if n ≤ l.length && !isLongTag tag then some (⟨.ofByte tag, l.take n⟩, l.drop n) else none

/-- At most `count` elements, which leave nothing over. -/
def elementsUpTo? : Nat → List UInt8 → Option (List Element)
  | _, [] => some []
  | 0, _ :: _ => none
  | count + 1, l => do
    let (e, l) ← element? l
    return e :: (← elementsUpTo? count l)

def elements? (l : List UInt8) : Option (List Element) := elementsUpTo? l.length l

def sequence? (l : List UInt8) : Option (List Element) :=
  match elements? l with
  | some [⟨.sequence, content⟩] => elements? content
  | _ => none

/-- An integer that is not negative and has no octet too many. -/
def natural? : Element → Option Nat
  | ⟨.integer, [b]⟩ => if b < 0x80 then some b.toNat else none
  | ⟨.integer, b :: c :: l⟩ =>
    if (b = 0 && 0x80 ≤ c) || (0 < b && b < 0x80) then some (number (b :: c :: l)) else none
  | _ => none

/-- Bits that fill up their octets. -/
def bits? : Element → Option (List UInt8)
  | ⟨.bitString, unused :: l⟩ => if unused = 0 then some l else none
  | _ => none

end EtcdLocator.Tls.Der
