import EtcdLocator.Text.Numeral
import EtcdLocator.Yaml.Basic

namespace EtcdLocator.Yaml

def digits? (base : Nat) (l : List Char) : Option Nat := do
  let values ← l.mapM Text.hexValue?
  if l.isEmpty || values.any (base ≤ ·) then none
  return values.foldl (fun n d => n * base + d) 0

def hasNeedlessZero (l : List Char) : Bool :=
  1 < l.length && l.head? = some '0' && l.all Char.isDigit

def natural? : List Char → Option Nat
  | '0' :: 'x' :: l => digits? 16 l
  | '0' :: 'o' :: l => digits? 8 l
  | '0' :: 'b' :: l => digits? 2 l
  | l => if hasNeedlessZero l then none else digits? 10 l

def integer? : List Char → Option Int
  | '+' :: l => (natural? l).map Int.ofNat
  | '-' :: l => (natural? l).map fun n => -Int.ofNat n
  | l => (natural? l).map Int.ofNat

def withoutSign : List Char → List Char
  | '+' :: l | '-' :: l => l
  | l => l

def exponent? : List Char → Option Int
  | '+' :: l => (digits? 10 l).map Int.ofNat
  | '-' :: l => (digits? 10 l).map fun n => -Int.ofNat n
  | l => (digits? 10 l).map Int.ofNat

/-- A decimal without its sign, as a natural number and a power of ten. -/
def decimal? (l : List Char) : Option (Nat × Int) := do
  let whole := l.takeWhile Char.isDigit
  let l := l.dropWhile Char.isDigit
  let (part, l) := match l with
    | '.' :: l => (l.takeWhile Char.isDigit, l.dropWhile Char.isDigit)
    | l => ([], l)
  let n ← digits? 10 (whole ++ part)
  match l with
  | [] => return (n, -part.length)
  | 'e' :: l | 'E' :: l => return (n, (← exponent? l) - part.length)
  | _ => none

/-- What is too large for a number of 64 bits with a binary point, by rounding to the nearest. -/
def floatBound : Nat := Nat.pow 2 1024 - Nat.pow 2 970

/-- Whether `n * 10 ^ e` is below the bound. The bound has 309 digits. -/
def isFinite (n : Nat) (e : Int) : Bool :=
  let places : Int := (Nat.toDigits 10 n).length + e
  if n = 0 || places < 309 then true
  else if places > 309 then false
  else if 0 ≤ e then n * Nat.pow 10 e.toNat < floatBound
  else n < floatBound * Nat.pow 10 (-e).toNat

def nulls : List String := ["", "~", "null", "Null", "NULL"]

def trues : List String := ["true", "True", "TRUE"]

def falses : List String := ["false", "False", "FALSE"]

def extremes : List String := [
  ".inf", ".Inf", ".INF", "+.inf", "+.Inf", "+.INF", "-.inf", "-.Inf", "-.INF",
  ".nan", ".NaN", ".NAN"]

def isFloat (s : String) : Bool :=
  extremes.contains s ||
    !hasNeedlessZero (withoutSign s.toList) &&
      match decimal? (withoutSign s.toList) with
      | some (n, e) => isFinite n e
      | none => false

/-- The meaning of a scalar. An integer that needs more than 64 bits is refused if 128 would do; a
larger one is a number as long as it is finite. -/
def ofScalar? (s : String) : Option Yaml :=
  if nulls.contains s then some .null
  else if trues.contains s then some (.bool true)
  else if falses.contains s then some (.bool false)
  else
    let n := integer? s.toList
    if n.any fun n => Int64.minValue.toInt ≤ n && n < UInt64.size then some (.num s)
    else if n.any fun n => -(Nat.pow 2 127 : Int) ≤ n && n < Nat.pow 2 128 then none
    else some (if isFloat s then .num s else .str s)

end EtcdLocator.Yaml
