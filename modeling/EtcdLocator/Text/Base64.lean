import EtcdLocator.Text.Numeral

namespace EtcdLocator.Text.Base64

inductive Fault where
  | invalidSymbol (byte : UInt8) (offset : Nat)
  | invalidLength (length : Nat)
  /-- The last symbol has bits that belong to no octet. -/
  | invalidLast (byte : UInt8) (offset : Nat)
  | invalidPadding
deriving DecidableEq, Repr

def Fault.text : Fault → String
  | invalidSymbol byte offset =>
    "Invalid symbol " ++ decimal byte.toNat ++ ", offset " ++ decimal offset ++ "."
  | invalidLength length => "Invalid input length: " ++ decimal length
  | invalidLast byte offset =>
    "Invalid last symbol " ++ decimal byte.toNat ++ ", offset " ++ decimal offset ++ "."
  | invalidPadding => "Invalid padding"

def digit? (b : UInt8) : Option Nat :=
  if 0x41 ≤ b && b ≤ 0x5a then some (b.toNat - 0x41)
  else if 0x61 ≤ b && b ≤ 0x7a then some (b.toNat - 0x61 + 26)
  else if 0x30 ≤ b && b ≤ 0x39 then some (b.toNat - 0x30 + 52)
  else if b = 0x2b then some 62
  else if b = 0x2f then some 63
  else none

/-- The octets that groups of six bits fill. Bits left over are dropped. -/
def join : List Nat → List UInt8
  | a :: b :: c :: d :: l =>
    UInt8.ofNat (a * 4 + b / 16) :: UInt8.ofNat (b % 16 * 16 + c / 4) ::
      UInt8.ofNat (c % 4 * 64 + d) :: join l
  | [a, b, c] => [UInt8.ofNat (a * 4 + b / 16), UInt8.ofNat (b % 16 * 16 + c / 4)]
  | [a, b] => [UInt8.ofNat (a * 4 + b / 16)]
  | _ => []

/-- The last four symbols at most, which alone may hold padding. `symbols` are those before, and
`found` the digits among these four. -/
def lastDigits (symbols : Nat) (found : List (UInt8 × Nat)) :
    List UInt8 → Except Fault (List (UInt8 × Nat) × Nat)
  | [] => .ok (found, 0)
  | b :: l =>
    let offset := symbols + found.length
    if b = 0x3d then
      if found.length < 2 then .error (.invalidSymbol b offset)
      else if l.all (· = 0x3d) then .ok (found, l.length + 1)
      else .error (.invalidSymbol b offset)
    else
      match digit? b with
      | none => .error (.invalidSymbol b offset)
      | some n => lastDigits symbols (found ++ [(b, n)]) l

def decodeEnd (symbols : Nat) (l : List UInt8) : Except Fault (List Nat) := do
  let (found, padding) ← lastDigits symbols [] l
  if found.length < 2 then .error (.invalidLength (symbols + found.length))
  else if found.length + padding ≠ 4 then .error .invalidPadding
  else
    let digits := found.map (·.2)
    let (last, n) := found.getLast?.getD (0, 0)
    let spare := if found.length = 2 then 16 else if found.length = 3 then 4 else 1
    if n % spare ≠ 0 then .error (.invalidLast last (symbols + found.length - 1))
    else return digits

def decodeFrom (symbols : Nat) : List UInt8 → Except Fault (List Nat)
  | a :: b :: c :: d :: e :: l => do
    let digit (byte : UInt8) (k : Nat) : Except Fault Nat :=
      match digit? byte with
      | some n => .ok n
      | none => .error (.invalidSymbol byte (symbols + k))
    let a ← digit a 0
    let b ← digit b 1
    let c ← digit c 2
    let d ← digit d 3
    let more ← decodeFrom (symbols + 4) (e :: l)
    return a :: b :: c :: d :: more
  | l => decodeEnd symbols l

/-- A single symbol too many is looked at first. -/
def decode (l : List UInt8) : Except Fault (List UInt8) :=
  match l.getLast? with
  | some last =>
    if l.length % 4 = 1 && last ≠ 0x3d && (digit? last).isNone then
      .error (.invalidSymbol last (l.length - 1))
    else (decodeFrom 0 l).map join
  | none => .ok []

end EtcdLocator.Text.Base64
