import EtcdLocator.Json.Basic

namespace EtcdLocator.Json

/-- The spelling of a character inside a string: only quotes, backslashes and the controls below
U+0020 are escaped. -/
def escape (c : Char) : List Char :=
  if c = '\"' then ['\\', '\"']
  else if c = '\\' then ['\\', '\\']
  else if c = '\x08' then ['\\', 'b']
  else if c = '\x0c' then ['\\', 'f']
  else if c = '\n' then ['\\', 'n']
  else if c = '\r' then ['\\', 'r']
  else if c = '\t' then ['\\', 't']
  else if c.toNat < 0x20 then
    ['\\', 'u', '0', '0', Nat.digitChar (c.toNat / 16), Nat.digitChar (c.toNat % 16)]
  else [c]

def printString (s : String) : List Char :=
  '\"' :: s.toList.flatMap escape ++ ['\"']

def printInt (i : Int) : List Char :=
  if i < 0 then '-' :: Nat.toDigits 10 i.natAbs else Nat.toDigits 10 i.natAbs

def printNumber (n : Number) : List Char :=
  if n.exponent = 0 then printInt n.mantissa else printInt n.mantissa ++ 'e' :: printInt n.exponent

inductive Style where
  /-- No white space at all. -/
  | compact
  /-- Each part on a line of its own, two blanks deeper than what holds it. -/
  | indented
deriving DecidableEq, Repr

def Style.line (style : Style) (depth : Nat) : List Char :=
  match style with
  | .compact => []
  | .indented => '\n' :: List.replicate (2 * depth) ' '

def Style.colon : Style → List Char
  | .compact => [':']
  | .indented => [':', ' ']

mutual

def print (style : Style) (depth : Nat) : Json → List Char
  | .null => ['n', 'u', 'l', 'l']
  | .bool true => ['t', 'r', 'u', 'e']
  | .bool false => ['f', 'a', 'l', 's', 'e']
  | .num n => printNumber n
  | .str s => printString s
  | .arr [] => ['[', ']']
  | .arr (v :: items) =>
    '[' :: style.line (depth + 1) ++ print style (depth + 1) v ++
      printItems style (depth + 1) items ++ style.line depth ++ [']']
  | .obj [] => ['\x7b', '\x7d']
  | .obj ((k, v) :: fields) =>
    '\x7b' :: style.line (depth + 1) ++ printString k ++ style.colon ++
      print style (depth + 1) v ++ printFields style (depth + 1) fields ++ style.line depth ++
      ['\x7d']

def printItems (style : Style) (depth : Nat) : List Json → List Char
  | [] => []
  | v :: items => ',' :: style.line depth ++ print style depth v ++ printItems style depth items

def printFields (style : Style) (depth : Nat) : List (String × Json) → List Char
  | [] => []
  | (k, v) :: fields =>
    ',' :: style.line depth ++ printString k ++ style.colon ++ print style depth v ++
      printFields style depth fields

end

def compact (v : Json) : String := String.ofList (print .compact 0 v)

def pretty (v : Json) : String := String.ofList (print .indented 0 v)

end EtcdLocator.Json
