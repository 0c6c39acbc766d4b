import EtcdLocator.Text.Extenders
import EtcdLocator.Text.Numeral
import EtcdLocator.Text.Unprintable

namespace EtcdLocator.Text

def within (ranges : List (Nat × Nat)) (c : Char) : Bool :=
  ranges.any fun r => r.1 ≤ c.toNat && c.toNat ≤ r.2

/-- Letters that are ignored when text is displayed: the fillers of the Korean alphabet. -/
def fillers : List (Nat × Nat) := [(0x115f, 0x1160), (0x3164, 0x3164), (0xffa0, 0xffa0)]

/-- A character that cannot be seen, or that would merge with the one before it. -/
def isHidden (c : Char) : Bool :=
  if 0x20 ≤ c.toNat ∧ c.toNat < 0x7f then false
  else within extenders c || within fillers c || within unprintables c

def escape (mark : Char → Bool) (c : Char) : List Char :=
  if c = '\x00' then ['\\', '0']
  else if c = '\t' then ['\\', 't']
  else if c = '\r' then ['\\', 'r']
  else if c = '\n' then ['\\', 'n']
  else if c = '\\' || mark c then ['\\', c]
  else if isHidden c then ['\\', 'u', '\x7b'] ++ Nat.toDigits 16 c.toNat ++ ['\x7d']
  else [c]

/-- Text between double quotes, with single quotes left alone. -/
def quote (s : String) : String :=
  String.ofList ('\"' :: s.toList.flatMap (escape (· = '\"')) ++ ['\"'])

end EtcdLocator.Text
