import EtcdLocator.Text.Base64
import EtcdLocator.Text.Blank
import EtcdLocator.Text.Bytes
import EtcdLocator.Text.Fields

namespace EtcdLocator.Tls.Bundle

open Text (bytes)

inductive Fault where
  | noBegin
  | noEnd
  | mismatch (first last : String)
  | notText
  | data (fault : Text.Base64.Fault)
  | header (line : String)
deriving DecidableEq, Repr

def Fault.messages : Fault → List String
  | noBegin => ["missing BEGIN tag"]
  | noEnd => ["missing END tag"]
  | mismatch first last =>
    ["mismatching BEGIN (\"" ++ first ++ "\") and END (\"" ++ last ++ "\") tags"]
  | notText => ["invalid utf-8 value"]
  | data fault => ["invalid data: " ++ fault.text, fault.text]
  | header line => ["invalid header: " ++ line]

/-- Looks for what is left of a marker, and gives the octets up to its end and those after it. After
a failed attempt the whole marker has to come anew. -/
def seek (marker : List UInt8) : List UInt8 → List UInt8 → Option (List UInt8 × List UInt8)
  | [], l => some ([], l)
  | _ :: _, [] => none
  | m :: left, b :: l =>
    (seek marker (if b = m then left else marker) l).map fun (seen, rest) => (b :: seen, rest)

def cut (marker : List UInt8) (l : List UInt8) : Option (List UInt8 × List UInt8) :=
  (seek marker marker l).map fun (seen, rest) => (seen.take (seen.length - marker.length), rest)

def isBlank (b : UInt8) : Bool := b = 0x20 || b = 0x09 || b = 0x0a || b = 0x0d

def skipBlanks (l : List UInt8) : List UInt8 := l.dropWhile isBlank

structure Section where
  first : List UInt8
  payload : List UInt8
  last : List UInt8

def firstSection? (l : List UInt8) : Option (Section × List UInt8) := do
  let (_, l) ← cut (bytes "-----BEGIN ") l
  let (first, l) ← cut (bytes "-----") l
  let (payload, l) ← cut (bytes "-----END ") (skipBlanks l)
  let (last, l) ← cut (bytes "-----") l
  return (⟨first, payload, last⟩, skipBlanks l)

/-- At most `count` sections. What cannot be a section ends the bundle. -/
def sectionsUpTo : Nat → List UInt8 → List Section
  | 0, _ => []
  | count + 1, l =>
    match firstSection? l with
    | none => []
    | some (s, l) => s :: sectionsUpTo count l

def sections (l : List UInt8) : List Section := sectionsUpTo l.length l

def textOf (l : List UInt8) : Except Fault String :=
  match Text.ofBytes? l with
  | some s => .ok s
  | none => .error .notText

/-- The lines of a text without the white space at their ends. -/
def lines (s : String) : List String :=
  ((Text.fields '\n' s.toList).map fun l => (l.reverse.dropWhile Text.isBlank).reverse).map
    String.ofList

/-- The lines of headers and the data: a blank line comes after the headers, if there are any. -/
def headersAndData (payload : List UInt8) : List UInt8 × List UInt8 :=
  match cut (bytes "\n\n") payload <|> cut (bytes "\r\n\r\n") payload with
  | some parts => parts
  | none => ([], payload)

def checkHeader (line : String) : Except Fault Unit :=
  if line = "" || line.toList.contains ':' then .ok () else .error (.header line)

def Section.certificate (s : Section) : Except Fault (Option (List UInt8)) := do
  let first ← textOf s.first
  if first = "" then .error .noBegin
  let last ← textOf s.last
  if last = "" then .error .noEnd
  if first ≠ last then .error (.mismatch first last)
  let (headers, data) := headersAndData s.payload
  let symbols := (← textOf data).toList.filter (!Text.isBlank ·)
  let octets ← (Text.Base64.decode (Text.bytes (String.ofList symbols))).mapError .data
  (lines (← textOf headers)).forM checkHeader
  return if first = "CERTIFICATE" then some octets else none

/-- The octets of each certificate. Sections of other kinds are dropped once they are read. -/
def certificates (l : List UInt8) : Except Fault (List (List UInt8)) := do
  return (← (sections l).mapM Section.certificate).filterMap id

end EtcdLocator.Tls.Bundle
