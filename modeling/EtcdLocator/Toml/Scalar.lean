import EtcdLocator.Toml.Word

namespace EtcdLocator.Toml

/-- Reads as much as it can of a shape. -/
abbrev Reader (α : Type) := List Char → Option (α × List Char)

def readChar (ok : Char → Bool) : Reader Char
  | c :: l => if ok c then some (c, l) else none
  | [] => none

def readFixed (n least greatest : Nat) : Reader Nat := fun l =>
  let digits := l.take n
  let v := Nat.ofDigitChars 10 digits 0
  if digits.length = n ∧ digits.all Char.isDigit ∧ least ≤ v ∧ v ≤ greatest then some (v, l.drop n)
  else none

def isLeapYear (year : Nat) : Bool := year % 4 = 0 && (year % 100 ≠ 0 || year % 400 = 0)

def daysOfMonth (year month : Nat) : Nat :=
  if month = 2 then if isLeapYear year then 29 else 28
  else if month = 4 ∨ month = 6 ∨ month = 9 ∨ month = 11 then 30
  else 31

def skipDate (l : List Char) : Option (List Char) := do
  let (year, l) ← readFixed 4 0 9999 l
  let (_, l) ← readChar (· = '-') l
  let (month, l) ← readFixed 2 1 12 l
  let (_, l) ← readChar (· = '-') l
  let (_, l) ← readFixed 2 1 (daysOfMonth year month) l
  return l

/-- The rest after a time of day. A minute may have a leap second. -/
def skipTime (l : List Char) : Option (List Char) := do
  let (_, l) ← readFixed 2 0 23 l
  let (_, l) ← readChar (· = ':') l
  let (_, l) ← readFixed 2 0 59 l
  let (_, l) ← readChar (· = ':') l
  let (_, l) ← readFixed 2 0 60 l
  match l with
  | '.' :: d :: l => if d.isDigit then some (l.dropWhile Char.isDigit) else some ('.' :: d :: l)
  | l => some l

def skipOffset : List Char → Option (List Char)
  | c :: l =>
    if c = 'Z' ∨ c = 'z' then some l
    else if c = '+' ∨ c = '-' then do
      let (_, l) ← readFixed 2 0 23 l
      let (_, l) ← readChar (· = ':') l
      let (_, l) ← readFixed 2 0 59 l
      return l
    else none
  | [] => none

/-- The rest after a date, a time or both; an offset only goes with both. -/
def skipMoment (l : List Char) : Option (List Char) :=
  match skipDate l with
  | none => skipTime l
  | some l =>
    match l with
    | c :: time =>
      if c = 'T' ∨ c = 't' ∨ c = ' ' then
        match skipTime time with
        | some l => some ((skipOffset l).getD l)
        | none => some l
      else some l
    | [] => some []

/-- Digits after the first, each with at most one underscore before it. -/
def readMore (ok : Char → Bool) : List Char → List Char × List Char
  | '_' :: c :: l =>
    if ok c then
      let (cs, l) := readMore ok l
      (c :: cs, l)
    else ([], '_' :: c :: l)
  | c :: l =>
    if ok c then
      let (cs, l) := readMore ok l
      (c :: cs, l)
    else ([], c :: l)
  | [] => ([], [])

/-- Digits that single underscores may set apart. -/
def readDigits (ok : Char → Bool) : Reader (List Char)
  | c :: l =>
    if ok c then
      let (cs, l) := readMore ok l
      some (c :: cs, l)
    else none
  | [] => none

/-- Whether there is a minus, and the rest after any sign. -/
def readSign : List Char → Bool × List Char
  | '+' :: l => (false, l)
  | '-' :: l => (true, l)
  | l => (false, l)

def readWhole : Reader (List Char)
  | '0' :: l => some (['0'], l)
  | l => readDigits Char.isDigit l

/-- Whether the value of `digits` times ten to the `exponent` is too large for 64 bits, that is, at
least halfway from the greatest such number to the next power of two. -/
def overflows (digits : List Char) (exponent : Int) : Bool :=
  let m := Nat.ofDigitChars 10 digits 0
  let places : Int := (Nat.toDigits 10 m).length + exponent
  if m = 0 ∨ places < 309 then false
  else if 309 < places then true
  else
    let greatest := Nat.pow 2 1024 - Nat.pow 2 970
    match exponent with
    | .ofNat e => greatest ≤ m * Nat.pow 10 e
    | .negSucc e => greatest * Nat.pow 10 (e + 1) ≤ m

def readExponent : Reader Int
  | c :: l =>
    if c = 'e' ∨ c = 'E' then
      let (isNegative, l) := readSign l
      (readDigits Char.isDigit l).map fun (ds, l) =>
        let e : Int := Nat.ofDigitChars 10 ds 0
        (if isNegative then -e else e, l)
    else none
  | [] => none

/-- The rest after a number with a fraction, an exponent or both. -/
def skipFraction (l : List Char) : Option (List Char) := do
  let (isNegative, l) := readSign l
  let (whole, l) ← readWhole l
  let (digits, exponent, l) ← match l with
    | '.' :: l => do
      let (part, l) ← readDigits Char.isDigit l
      let (e, l) := (readExponent l).getD (0, l)
      some (whole ++ part, e - part.length, l)
    | l => (readExponent l).map fun (e, l) => (whole, e, l)
  if !isNegative && overflows digits exponent then none else some l

def skipSpecial (l : List Char) : Option (List Char) :=
  match (readSign l).2 with
  | 'i' :: 'n' :: 'f' :: l => some l
  | 'n' :: 'a' :: 'n' :: l => some l
  | _ => none

def skipFloat (l : List Char) : Option (List Char) :=
  match skipFraction l with
  | some l => some l
  | none => skipSpecial l

def isOctalDigit (c : Char) : Bool := '0' ≤ c && c ≤ '7'

def isBinaryDigit (c : Char) : Bool := c = '0' || c = '1'

def ofInt64? (i : Int) : Option Int :=
  if Int64.minValue.toInt ≤ i ∧ i ≤ Int64.maxValue.toInt then some i else none

def readBase (base : Nat) (ok : Char → Bool) : Reader Int := fun l => do
  let (ds, l) ← readDigits ok l
  let i ← ofInt64? (ds.foldl (fun v c => base * v + hexValue c) 0 : Nat)
  return (i, l)

/-- An integer, in decimal or after the mark of another base without a sign. -/
def readInt : Reader Int
  | '0' :: 'x' :: l => readBase 16 isHexDigit l
  | '0' :: 'o' :: l => readBase 8 isOctalDigit l
  | '0' :: 'b' :: l => readBase 2 isBinaryDigit l
  | l => do
    let (isNegative, l) := readSign l
    let (ds, l) ← readWhole l
    let n : Int := Nat.ofDigitChars 10 ds 0
    let i ← ofInt64? (if isNegative then -n else n)
    return (i, l)

end EtcdLocator.Toml
