namespace EtcdLocator

/-- A URL by its parts. What follows a `#` is not kept. -/
structure Url where
  scheme : Option String := none
  authority : String := ""
  /-- Path and query. -/
  target : String := ""
deriving DecidableEq, Repr

namespace Url

inductive Fault where
  | empty
  | tooLong
  | invalidCharacter
  | invalidAuthority
  | invalidFormat
  | longScheme
deriving DecidableEq, Repr

def Fault.text : Fault → String
  | empty => "empty string"
  | tooLong => "uri too long"
  | invalidCharacter => "invalid uri character"
  | invalidAuthority => "invalid authority"
  | invalidFormat => "invalid format"
  | longScheme => "scheme too long"

def greatestLength : Nat := 65534

def isPathChar (c : Char) : Bool :=
  let n := c.toNat
  n = 0x21 || n = 0x22 || (0x24 ≤ n && n ≤ 0x3b) || n = 0x3d || (0x40 ≤ n && n ≤ 0x5f) ||
    (0x61 ≤ n && n ≤ 0x7e) || 0x80 ≤ n

def isQueryChar (c : Char) : Bool :=
  let n := c.toNat
  n = 0x21 || (0x24 ≤ n && n ≤ 0x3b) || n = 0x3d || (0x3f ≤ n && n ≠ 0x7f)

/-- Whether the characters up to a `#` may stand in a path and its query. -/
def isTarget (inQuery : Bool) : List Char → Bool
  | [] => true
  | c :: l =>
    if c = '#' then true
    else if inQuery then isQueryChar c && isTarget true l
    else if c = '?' then isTarget true l
    else isPathChar c && isTarget false l

def targetOf (l : List Char) : Except Fault String :=
  if isTarget false l then .ok (String.ofList (l.takeWhile (· ≠ '#')))
  else .error .invalidCharacter

def endsAuthority (c : Char) : Bool := c = '/' || c = '?' || c = '#'

def isAuthorityChar (c : Char) : Bool :=
  c.isAlphanum || "!$&'()*+,-.:;=@[]_~".toList.contains c

structure Glance where
  /-- The colons since the last `@` or closing bracket. -/
  colons : Nat := 0
  opened : Bool := false
  closed : Bool := false
  /-- Whether a `%` came since the last `@` or closing bracket. -/
  percent : Bool := false
  /-- Whether the last character was a `@`. -/
  afterAt : Bool := false

namespace Glance

def see (g : Glance) (c : Char) : Except Fault Glance :=
  let g := { g with afterAt := c = '@' }
  if c = '%' then .ok { g with percent := true }
  else if !isAuthorityChar c then .error .invalidCharacter
  else if c = ':' then
    if g.colons ≥ 8 then .error .invalidAuthority else .ok { g with colons := g.colons + 1 }
  else if c = '[' then
    if g.percent || g.opened then .error .invalidAuthority else .ok { g with opened := true }
  else if c = ']' then
    if !g.opened || g.closed then .error .invalidAuthority
    else .ok { g with closed := true, colons := 0, percent := false }
  else if c = '@' then .ok { g with colons := 0, percent := false }
  else .ok g

/-- Whether an authority may end here: brackets closed, one colon at most, something after the last
`@`, and no `%` but before it or between brackets. -/
def isWhole (g : Glance) : Bool :=
  g.opened == g.closed && g.colons ≤ 1 && !g.afterAt && !g.percent

end Glance

def splitAuthority (l : List Char) : Except Fault (String × List Char) := do
  let name := l.takeWhile (!endsAuthority ·)
  let g ← name.foldlM Glance.see {}
  if g.isWhole then return (String.ofList name, l.drop name.length)
  else .error .invalidAuthority

def isSchemeChar (c : Char) : Bool := c.isAlphanum || c = '+' || c = '-' || c = '.'

/-- The scheme that a text starts with, if it has one, and what follows it. -/
def splitScheme (l : List Char) : Except Fault (Option String × List Char) :=
  let name := l.takeWhile isSchemeChar
  match l.drop name.length with
  | ':' :: '/' :: '/' :: rest =>
    let lower := String.ofList (name.map Char.toLower)
    if lower = "http" || lower = "https" then .ok (some lower, rest)
    else if name.isEmpty && rest.isEmpty then .ok (none, l)
    else if name.length > 64 then .error .longScheme
    else .ok (some (String.ofList name), rest)
  | _ => .ok (none, l)

def ofLong (l : List Char) : Except Fault Url := do
  let (scheme, rest) ← splitScheme l
  let (authority, rest') ← splitAuthority rest
  match scheme with
  | none => if rest'.isEmpty then return { authority } else .error .invalidFormat
  | some _ =>
    if rest.isEmpty then .error .empty
    else if authority = "" then .error .invalidFormat
    else return { scheme, authority, target := ← targetOf rest' }

def parse (s : String) : Except Fault Url :=
  if s.utf8ByteSize > greatestLength then .error .tooLong
  else
    match s.toList with
    | [] => .error .empty
    | ['/'] => .ok { target := "/" }
    | ['*'] => .ok { target := "*" }
    | [c] => do
      let (authority, rest) ← splitAuthority [c]
      if rest.isEmpty then return { authority } else .error .invalidCharacter
    | '/' :: l => do return { target := ← targetOf ('/' :: l) }
    | l => ofLong l

/-- The written form. A URL with a scheme has a path. -/
def text (u : Url) : String :=
  match u.scheme with
  | none => u.authority ++ u.target
  | some scheme =>
    let path := if u.target.toList.head? = some '/' then u.target else "/" ++ u.target
    scheme ++ "://" ++ u.authority ++ path

/-- The host of an authority, between what names a user and a port. -/
def host (u : Url) : String :=
  let l := (u.authority.toList.reverse.takeWhile (· ≠ '@')).reverse
  match l with
  | '[' :: l => String.ofList (l.takeWhile (· ≠ ']'))
  | l => String.ofList (l.takeWhile (· ≠ ':'))

end Url

end EtcdLocator
