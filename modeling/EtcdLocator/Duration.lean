import EtcdLocator.Text.Blank
import EtcdLocator.Text.Numeral

namespace EtcdLocator

structure Duration where
  millis : Nat
deriving DecidableEq, Repr

namespace Duration

/-- A unit with the milliseconds in it and the greatest count of it that is accepted. -/
structure Unit where
  suffix : List Char
  millis : Nat
  greatest : Nat

/-- A longer suffix comes before one that it ends in. No length may exceed what 64 bits hold in
seconds, or in milliseconds where it is given in them. -/
def units : List Unit := [
  ⟨['m', 's'], 1, UInt64.size - 1⟩,
  ⟨['s'], 1000, UInt64.size - 1⟩,
  ⟨['m'], 60000, (UInt64.size - 1) / 60⟩,
  ⟨[], 1000, UInt64.size - 1⟩]

/-- A count is a run of digits with at most one plus before it. -/
def count? : List Char → Option Nat
  | '+' :: l => Text.natOfDigits? l
  | l => Text.natOfDigits? l

def parse? (s : String) : Option Duration := do
  let l := Text.trim s.toList
  let unit ← units.find? (·.suffix.isSuffixOf l)
  let n ← count? (l.take (l.length - unit.suffix.length))
  if n ≤ unit.greatest then some ⟨n * unit.millis⟩ else none

def fraction (millis : Nat) : List Char :=
  let digits := [millis / 100, millis / 10 % 10, millis % 10].map Nat.digitChar
  (digits.reverse.dropWhile (· = '0')).reverse

/-- The largest unit of seconds and milliseconds that leaves a whole part. -/
def text (d : Duration) : String :=
  if d.millis = 0 then "0ns"
  else if d.millis < 1000 then Text.decimal d.millis ++ "ms"
  else
    let point := if d.millis % 1000 = 0 then [] else '.' :: fraction (d.millis % 1000)
    Text.decimal (d.millis / 1000) ++ String.ofList point ++ "s"

end Duration

end EtcdLocator
