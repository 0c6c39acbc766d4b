import EtcdLocator.Json.Basic
import EtcdLocator.Text.Numeral
import EtcdLocator.Text.Units

namespace EtcdLocator.Json

def isBlank (c : Char) : Bool := c = ' ' || c = '\t' || c = '\n' || c = '\r'

def skipBlanks (l : List Char) : List Char := l.dropWhile isBlank

def hex4? : List Char → Option (Nat × List Char)
  | a :: b :: c :: d :: l => do
    let a ← Text.hexValue? a
    let b ← Text.hexValue? b
    let c ← Text.hexValue? c
    let d ← Text.hexValue? d
    some (((a * 16 + b) * 16 + c) * 16 + d, l)
  | _ => none

/-- The character after `\u`; one beyond U+FFFF is spelled as a pair of surrogates. -/
def readUnicode (l : List Char) : Option (Char × List Char) := do
  let (hi, rest) ← hex4? l
  if hi.isValidChar then return (Char.ofNat hi, rest)
  match rest with
  | '\\' :: 'u' :: more =>
    let (lo, rest) ← hex4? more
    if Text.isHighSurrogate hi && Text.isLowSurrogate lo then
      return (Char.ofNat (Text.joinSurrogates hi lo), rest)
    else none
  | _ => none

def readEscape : List Char → Option (Char × List Char)
  | '\"' :: l => some ('\"', l)
  | '\\' :: l => some ('\\', l)
  | '/' :: l => some ('/', l)
  | 'b' :: l => some ('\x08', l)
  | 'f' :: l => some ('\x0c', l)
  | 'n' :: l => some ('\n', l)
  | 'r' :: l => some ('\r', l)
  | 't' :: l => some ('\t', l)
  | 'u' :: l => readUnicode l
  | _ => none

/-- The rest of a string after its opening quote, reading at most `fuel` characters of it. -/
def readChars : Nat → List Char → Option (List Char × List Char)
  | 0, _ => none
  | _ + 1, [] => none
  | _ + 1, '\"' :: l => some ([], l)
  | fuel + 1, '\\' :: l => do
    let (c, l) ← readEscape l
    let (cs, l) ← readChars fuel l
    return (c :: cs, l)
  | fuel + 1, c :: l => do
    if c.toNat < 0x20 then none
    let (cs, l) ← readChars fuel l
    return (c :: cs, l)

def readString (l : List Char) : Option (String × List Char) := do
  let (cs, l) ← readChars l.length l
  return (String.ofList cs, l)

def readDigits (l : List Char) : Option (List Char × List Char) :=
  let ds := l.takeWhile Char.isDigit
  if ds.isEmpty then none else some (ds, l.dropWhile Char.isDigit)

def readExponent (l : List Char) : Option (Int × List Char) :=
  match l with
  | '+' :: l => (readDigits l).map fun (ds, l) => (Int.ofNat (Nat.ofDigitChars 10 ds 0), l)
  | '-' :: l => (readDigits l).map fun (ds, l) => (-Int.ofNat (Nat.ofDigitChars 10 ds 0), l)
  | l => (readDigits l).map fun (ds, l) => (Int.ofNat (Nat.ofDigitChars 10 ds 0), l)

def readPlaces : List Char → Option (List Char × List Char)
  | '.' :: l => readDigits l
  | l => some ([], l)

def readPower : List Char → Option (Int × List Char)
  | 'e' :: l => readExponent l
  | 'E' :: l => readExponent l
  | l => some (0, l)

/-- A number without its sign. No digit may follow a leading zero. -/
def readUnsigned (l : List Char) : Option (Nat × Int × List Char) := do
  let (whole, l) ← readDigits l
  if whole.head? = some '0' ∧ whole ≠ ['0'] then none
  let (places, l) ← readPlaces l
  let (e, l) ← readPower l
  return (Nat.ofDigitChars 10 (whole ++ places) 0, e - places.length, l)

def readNumber (l : List Char) : Option (Number × List Char) :=
  match l with
  | '-' :: l => (readUnsigned l).map fun (m, e, l) => (⟨-m, e⟩, l)
  | l => (readUnsigned l).map fun (m, e, l) => (⟨m, e⟩, l)

mutual

/-- The value that `l` starts with, which may not nest deeper than `fuel` allows. -/
def readValue : Nat → List Char → Option (Json × List Char)
  | 0, _ => none
  | fuel + 1, l =>
    match skipBlanks l with
    | 'n' :: 'u' :: 'l' :: 'l' :: l => some (.null, l)
    | 't' :: 'r' :: 'u' :: 'e' :: l => some (.bool true, l)
    | 'f' :: 'a' :: 'l' :: 's' :: 'e' :: l => some (.bool false, l)
    | '\"' :: l => (readString l).map fun (s, l) => (.str s, l)
    | '[' :: l =>
      match skipBlanks l with
      | ']' :: l => some (.arr [], l)
      | l => (readItems fuel l).map fun (vs, l) => (.arr vs, l)
    | '\x7b' :: l =>
      match skipBlanks l with
      | '\x7d' :: l => some (.obj [], l)
      | l => (readFields fuel l).map fun (fs, l) => (.obj fs, l)
    | l => (readNumber l).map fun (n, l) => (.num n, l)

def readItems : Nat → List Char → Option (List Json × List Char)
  | 0, _ => none
  | fuel + 1, l =>
    match readValue fuel l with
    | none => none
    | some (v, l) =>
      match skipBlanks l with
      | ',' :: l => (readItems fuel l).map fun (vs, l) => (v :: vs, l)
      | ']' :: l => some ([v], l)
      | _ => none

def readFields : Nat → List Char → Option (List (String × Json) × List Char)
  | 0, _ => none
  | fuel + 1, l =>
    match skipBlanks l with
    | '\"' :: l =>
      match readString l with
      | none => none
      | some (k, l) =>
        match skipBlanks l with
        | ':' :: l =>
          match readValue fuel l with
          | none => none
          | some (v, l) =>
            match skipBlanks l with
            | ',' :: l => (readFields fuel l).map fun (fs, l) => ((k, v) :: fs, l)
            | '\x7d' :: l => some ([(k, v)], l)
            | _ => none
        | _ => none
    | _ => none

end

def parse? (s : String) : Option Json :=
  match readValue (s.length + 1) s.toList with
  | some (v, l) => if (skipBlanks l).isEmpty then some v else none
  | none => none

end EtcdLocator.Json
