import EtcdLocator.Yaml.Composer
import EtcdLocator.Yaml.Scalar

namespace EtcdLocator.Yaml

def isBreak (c : Char) : Bool :=
  c = '\n' || c = '\r' || c = '\x85' || c = '\u2028' || c = '\u2029'

def isSpace (c : Char) : Bool := c = ' ' || c = '\t'

/-- Whether a character, or the end, sets apart what comes before it. -/
def isGapOrEnd (c : Option Char) : Bool := c.all fun c => isSpace c || isBreak c

def isBracket (c : Char) : Bool := c = '[' || c = ']' || c = '\x7b' || c = '\x7d'

def isAllowed (c : Char) : Bool :=
  let n := c.toNat
  n = 0x9 || n = 0xa || n = 0xd || (0x20 ≤ n && n ≤ 0x7e) || n = 0x85 ||
    (0xa0 ≤ n && n ≠ 0xfffe && n ≠ 0xffff)

/-- A character with its place. A line break of any spelling but two is a line feed. -/
structure Spot where
  char : Char
  place : Place
  /-- Whether it starts a line. -/
  first : Bool
  /-- The characters after it. -/
  ahead : List Char

def spotsFrom (index line : Nat) (first : Bool) : List Char → List Spot
  | [] => []
  | '\r' :: '\n' :: l => ⟨'\n', ⟨index, line⟩, first, l⟩ :: spotsFrom (index + 2) (line + 1) true l
  | c :: l =>
    let char := if c = '\r' || c = '\x85' then '\n' else c
    let next := if isBreak c then line + 1 else line
    ⟨char, ⟨index, line⟩, first, l⟩ :: spotsFrom (index + 1) next (isBreak c) l

namespace Spot

def next (p : Spot) : Option Char := p.ahead.head?

/-- Whether three of a character and a gap start the line. -/
def isMark (c : Char) (p : Spot) : Bool :=
  p.first && p.char = c && p.ahead.take 2 = [c, c] && isGapOrEnd p.ahead[2]?

def isAnyMark (p : Spot) : Bool := p.isMark '-' || p.isMark '.'

end Spot

/-- White space inside a scalar, the last character first. -/
inductive Gap where
  | spaces (l : List Char)
  | breaks (l : List Char)
  /-- Line breaks after one that a backslash hides. -/
  | joined (l : List Char)

namespace Gap

def none : Gap := spaces []

def isNone : Gap → Bool
  | spaces [] => true
  | _ => false

/-- Adds white space. Around line breaks all other white space is dropped. -/
def add (c : Char) : Gap → Gap
  | spaces l => if isBreak c then breaks [c] else spaces (c :: l)
  | breaks l => breaks (if isBreak c then c :: l else l)
  | joined l => joined (if isBreak c then c :: l else l)

/-- What a gap puts between two words. A single line feed is a space, and the first of several line
breaks is dropped if it is a line feed. -/
def text : Gap → List Char
  | spaces l | joined l => l.reverse
  | breaks l =>
    match l.reverse with
    | ['\n'] => [' ']
    | '\n' :: l => l
    | l => l

end Gap

structure Draft where
  start : Place
  /-- The characters before the gap, the last one first. -/
  text : List Char := []
  gap : Gap := .none

namespace Draft

def flush (d : Draft) : Draft := { d with text := d.gap.text.reverse ++ d.text, gap := .none }

def push (c : Char) (d : Draft) : Draft :=
  let d := d.flush
  { d with text := c :: d.text }

def skip (c : Char) (d : Draft) : Draft := { d with gap := d.gap.add c }

def word (d : Draft) : String := String.ofList d.text.reverse

end Draft

inductive Mode where
  | between
  | comment
  /-- The rest of a mark between documents. -/
  | mark (left : Nat)
  | plain (d : Draft)
  | quoted (quotes : Char) (d : Draft)
  /-- After the first of two single quotes that stand for one. -/
  | doubled (d : Draft)
  /-- After a backslash. -/
  | escape (d : Draft)
  | hex (left value : Nat) (d : Draft)

structure Scanner where
  mode : Mode := .between
  /-- Outside of brackets no tab may stand where a document could start. -/
  tabs : Bool := false
  composer : Composer := {}

namespace Scanner

def inBrackets (s : Scanner) : Bool := !s.composer.frames.isEmpty

/-- Goes on between tokens after one that changed the composer. -/
def settle (c : Composer) : Scanner := { composer := c, tabs := true }

def escaped? (c : Char) : Option Char :=
  match c with
  | '0' => some '\x00'
  | 'a' => some '\x07'
  | 'b' => some '\x08'
  | 't' | '\t' => some '\t'
  | 'n' => some '\n'
  | 'v' => some '\x0b'
  | 'f' => some '\x0c'
  | 'r' => some '\r'
  | 'e' => some '\x1b'
  | ' ' | '\"' | '/' | '\\' => some c
  | 'N' => some '\x85'
  | '_' => some '\xa0'
  | 'L' => some '\u2028'
  | 'P' => some '\u2029'
  | _ => none

def hexLength? (c : Char) : Option Nat :=
  match c with
  | 'x' => some 2
  | 'u' => some 4
  | 'U' => some 8
  | _ => none

def startsPlain (p : Spot) : Bool :=
  if p.char = '-' then !isGapOrEnd p.next
  else !"?:,[]\x7b\x7d#&*!|>'\"%@`\t".toList.contains p.char

def between (s : Scanner) (p : Spot) : Option Scanner :=
  if p.isMark '-' then s.composer.announce.map fun c => { settle c with mode := .mark 2 }
  else if p.isMark '.' then s.composer.conclude.map fun c => { settle c with mode := .mark 2 }
  else if p.first && p.char = '%' then none
  else if p.first && p.char = '\ufeff' then some s
  else if isBreak p.char then some (if s.inBrackets then s else { s with tabs := false })
  else
    match p.char with
    | ' ' => some s
    | '\t' => if s.inBrackets || s.tabs then some s else none
    | '#' => some { s with mode := .comment }
    | '[' => (s.composer.enter (.seq []) p.place).map settle
    | '\x7b' => (s.composer.enter (.map []) p.place).map settle
    | ']' => (s.composer.leave false).map settle
    | '\x7d' => (s.composer.leave true).map settle
    | ',' => s.composer.comma.map settle
    | ':' => (s.composer.colon p.place).map settle
    | '\"' => some { s with mode := .quoted '\"' { start := p.place } }
    | '\'' => some { s with mode := .quoted '\'' { start := p.place } }
    | c => if startsPlain p then some { s with mode := .plain { start := p.place, text := [c] } }
      else none

def endPlain (s : Scanner) (d : Draft) : Option Scanner := do
  let v ← ofScalar? d.word
  (s.composer.node v d.start).map settle

def plain (s : Scanner) (d : Draft) (p : Spot) : Option Scanner :=
  if p.isAnyMark then (s.endPlain d).bind (between · p)
  else if isSpace p.char || isBreak p.char then some { s with mode := .plain (d.skip p.char) }
  else if p.char = '#' && !d.gap.isNone then (s.endPlain d).bind (between · p)
  else if p.char = ':' && isGapOrEnd p.next then (s.endPlain d).bind (between · p)
  else if s.inBrackets && (p.char = ',' || isBracket p.char) then (s.endPlain d).bind (between · p)
  else if s.inBrackets && p.char = ':' && p.next.any fun c => c = ',' || c = '?' || isBracket c then
    none
  else some { s with mode := .plain (d.push p.char) }

def quoted (s : Scanner) (quotes : Char) (d : Draft) (p : Spot) : Option Scanner :=
  if p.isAnyMark then none
  else if isSpace p.char || isBreak p.char then
    some { s with mode := .quoted quotes (d.skip p.char) }
  else if p.char = quotes then
    if quotes = '\'' && p.next = some '\'' then some { s with mode := .doubled d.flush }
    else (s.composer.node (.str d.flush.word) d.start).map settle
  else if p.char = '\\' && quotes = '\"' then some { s with mode := .escape d.flush }
  else some { s with mode := .quoted quotes (d.push p.char) }

def escape (s : Scanner) (d : Draft) (p : Spot) : Option Scanner :=
  if isBreak p.char then some { s with mode := .quoted '\"' { d with gap := .joined [] } }
  else
    match hexLength? p.char with
    | some n => some { s with mode := .hex n 0 d }
    | none => (escaped? p.char).map fun c => { s with mode := .quoted '\"' (d.push c) }

/-- A hexadecimal digit. The number has to be that of a character. -/
def hex (s : Scanner) (left value : Nat) (d : Draft) (p : Spot) : Option Scanner := do
  let value := value * 16 + (← Text.hexValue? p.char)
  if 1 < left then return { s with mode := .hex (left - 1) value d }
  if value.isValidChar then return { s with mode := .quoted '\"' (d.push (Char.ofNat value)) }
  none

def step (s : Scanner) (p : Spot) : Option Scanner :=
  match s.mode with
  | .between => s.between p
  | .comment =>
    if isBreak p.char then ({ s with mode := .between } : Scanner).between p else some s
  | .mark left => some { s with mode := if 1 < left then .mark (left - 1) else .between }
  | .plain d => s.plain d p
  | .quoted quotes d => s.quoted quotes d p
  | .doubled d => some { s with mode := .quoted '\'' (d.push '\'') }
  | .escape d => s.escape d p
  | .hex left value d => s.hex left value d p

def result (s : Scanner) : Option (List Yaml) :=
  match s.mode with
  | .between | .comment => s.composer.result
  | .plain d => (s.endPlain d).bind (·.composer.result)
  | _ => none

end Scanner

/-- The documents that a text spells in flow style, of which JSON is a part. Block style is not
read. -/
def flow? (s : String) : Option (List Yaml) :=
  if s.toList.all isAllowed then
    ((spotsFrom 0 0 true s.toList).foldlM Scanner.step {}).bind Scanner.result
  else none

end EtcdLocator.Yaml
