import EtcdLocator.Text.Numeral

namespace EtcdLocator.Toml

def isBlank (c : Char) : Bool := c = ' ' || c = '\t'

def skipBlanks (l : List Char) : List Char := l.dropWhile isBlank

/-- Controls other than the tab may stand nowhere. -/
def isAllowed (c : Char) : Bool := c = '\t' || (0x20 ≤ c.toNat && c.toNat ≠ 0x7f)

def newline? : List Char → Option (List Char)
  | '\n' :: l => some l
  | '\r' :: '\n' :: l => some l
  | _ => none

/-- The rest after the end of a line, which blanks and a comment may come before. -/
def lineEnd? (l : List Char) : Option (List Char) :=
  let l := match skipBlanks l with
    | '#' :: l => l.dropWhile isAllowed
    | l => l
  match l with
  | [] => some []
  | l => newline? l

def skipSpace (inComment : Bool) : List Char → List Char
  | [] => []
  | '\n' :: l => skipSpace false l
  | '\r' :: '\n' :: l => skipSpace false l
  | c :: l =>
    if inComment && isAllowed c then skipSpace true l
    else if isBlank c then skipSpace false l
    else if c = '#' then skipSpace true l
    else c :: l

def skipLines : List Char → List Char
  | [] => []
  | '\n' :: l => skipLines l
  | '\r' :: '\n' :: l => skipLines l
  | c :: l => if isBlank c then skipLines l else c :: l

def isHexDigit (c : Char) : Bool := (Text.hexValue? c).isSome

def hexValue (c : Char) : Nat := (Text.hexValue? c).getD 0

def readCode (n : Nat) (l : List Char) : Option (Char × List Char) :=
  let digits := l.take n
  let code := digits.foldl (fun v c => 16 * v + hexValue c) 0
  if digits.length = n ∧ digits.all isHexDigit ∧ code.isValidChar then
    some (Char.ofNat code, l.drop n)
  else none

def readEscape : List Char → Option (Char × List Char)
  | 'b' :: l => some ('\x08', l)
  | 't' :: l => some ('\t', l)
  | 'n' :: l => some ('\n', l)
  | 'f' :: l => some ('\x0c', l)
  | 'r' :: l => some ('\r', l)
  | '\"' :: l => some ('\"', l)
  | '\\' :: l => some ('\\', l)
  | 'u' :: l => readCode 4 l
  | 'U' :: l => readCode 8 l
  | _ => none

/-- How a string is written: what it stands between, and whether a backslash means anything. -/
structure Quotes where
  mark : Char
  escapes : Bool

def Quotes.basic : Quotes := ⟨'\"', true⟩

def Quotes.literal : Quotes := ⟨'\'', false⟩

def readShort (q : Quotes) : Nat → List Char → Option (List Char × List Char)
  | 0, _ => none
  | _ + 1, [] => none
  | fuel + 1, c :: l =>
    if c = q.mark then some ([], l)
    else if q.escapes && c = '\\' then do
      let (c, l) ← readEscape l
      let (cs, l) ← readShort q fuel l
      return (c :: cs, l)
    else if isAllowed c then do
      let (cs, l) ← readShort q fuel l
      return (c :: cs, l)
    else none

/-- The rest of a string that may go over lines, up to three closing marks. Up to two marks before
these belong to the string. A backslash at the end of a line joins it to the next text. -/
def readLong (q : Quotes) : Nat → List Char → Option (List Char × List Char)
  | 0, _ => none
  | _ + 1, [] => none
  | fuel + 1, c :: l =>
    let marks := ((c :: l).takeWhile (· = q.mark)).length
    if 3 ≤ marks then
      let kept := min (marks - 3) 2
      some (List.replicate kept q.mark, (c :: l).drop (kept + 3))
    else if q.escapes && c = '\\' then
      match newline? (skipBlanks l) with
      | some l => readLong q fuel (skipLines l)
      | none => do
        let (c, l) ← readEscape l
        let (cs, l) ← readLong q fuel l
        return (c :: cs, l)
    else
      match newline? (c :: l) with
      | some l => do
        let (cs, l) ← readLong q fuel l
        return ('\n' :: cs, l)
      | none =>
        if isAllowed c then do
          let (cs, l) ← readLong q fuel l
          return (c :: cs, l)
        else none

def readString (q : Quotes) (l : List Char) : Option (String × List Char) :=
  let text (r : List Char × List Char) := (String.ofList r.1, r.2)
  match l with
  | b :: c :: more =>
    if b = q.mark ∧ c = q.mark then
      (readLong q (more.length + 1) ((newline? more).getD more)).map text
    else (readShort q l.length l).map text
  | l => (readShort q l.length l).map text

def isBare (c : Char) : Bool := c.isAlphanum || c = '-' || c = '_'

def readPart : List Char → Option (String × List Char)
  | '\"' :: l => (readShort .basic l.length l).map fun r => (String.ofList r.1, r.2)
  | '\'' :: l => (readShort .literal l.length l).map fun r => (String.ofList r.1, r.2)
  | l =>
    let word := l.takeWhile isBare
    if word.isEmpty then none else some (String.ofList word, l.dropWhile isBare)

/-- A key of one or more parts with dots between them, in blanks. -/
def readParts : Nat → List Char → Option (List String × List Char)
  | 0, _ => none
  | fuel + 1, l => do
    let (part, l) ← readPart (skipBlanks l)
    match skipBlanks l with
    | '.' :: l =>
      let (parts, l) ← readParts fuel l
      return (part :: parts, l)
    | l => return ([part], l)

def depthLimit : Nat := 80

def readKey (l : List Char) : Option (List String × List Char) := do
  let (parts, l) ← readParts l.length l
  if parts.length < depthLimit then some (parts, l) else none

end EtcdLocator.Toml
