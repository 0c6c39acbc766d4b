namespace EtcdLocator.Tls.Base64

inductive Fault where
  | invalidCharacter (byte : UInt8)
  /-- Padding that more follows. -/
  | prematurePadding
  | invalidTrailingPadding
deriving DecidableEq, Repr

def Fault.text : Fault → String
  | invalidCharacter byte => "InvalidCharacter(" ++ toString byte.toNat ++ ")"
  | prematurePadding => "PrematurePadding"
  | invalidTrailingPadding => "InvalidTrailingPadding"

def isBlank (b : UInt8) : Bool := b = 0x20 || (0x09 ≤ b && b ≤ 0x0d)

def isDigit (b : UInt8) : Bool :=
  (0x41 ≤ b && b ≤ 0x5a) || (0x61 ≤ b && b ≤ 0x7a) || (0x30 ≤ b && b ≤ 0x39) || b = 0x2b || b = 0x2f

def isPadding (b : UInt8) : Bool := b = 0x3d

/-- The last eight symbols at most, `true` for padding. Blanks count for nothing, and every eight
symbols that are not the last hold no padding. -/
def lastBlock (block : List Bool) : List UInt8 → Except Fault (List Bool)
  | [] => .ok block
  | b :: l =>
    if isBlank b then lastBlock block l
    else if !isDigit b && !isPadding b then .error (.invalidCharacter b)
    else if block.length < 8 then lastBlock (block ++ [isPadding b]) l
    else if block.contains true then .error .prematurePadding
    else lastBlock [isPadding b] l

/-- The groups that may come last: up to two paddings fill up four symbols, or may be left out. -/
def endings : List (List Bool) := [
  [],
  [false, false, false, false],
  [false, false, false, true],
  [false, false, true, true],
  [false, false, false],
  [false, false]]

def checkEnd (block : List Bool) : Except Fault Unit :=
  let ahead := if block.length > 4 then block.take 4 else []
  if ahead.contains true then .error .prematurePadding
  else if endings.contains (block.drop ahead.length) then .ok ()
  else .error .invalidTrailingPadding

def check (l : List UInt8) : Except Fault Unit := do
  checkEnd (← lastBlock [] l)

end EtcdLocator.Tls.Base64
