import EtcdLocator.Text.Base64
import EtcdLocator.Text.Bytes
import EtcdLocator.Text.Quoted
import EtcdLocator.Tls.Base64

namespace EtcdLocator.Tls.Pem

open Text (bytes)

inductive Content where
  | certificate
  | publicKey
  | rsaKey
  | pkcs8Key
  | ecKey
  | revocationList
  | request
  | echConfig
deriving DecidableEq, Repr

namespace Content

def ofLabel? (label : List UInt8) : Option Content :=
  if label = bytes "CERTIFICATE" then some certificate
  else if label = bytes "PUBLIC KEY" then some publicKey
  else if label = bytes "RSA PRIVATE KEY" then some rsaKey
  else if label = bytes "PRIVATE KEY" then some pkcs8Key
  else if label = bytes "EC PRIVATE KEY" then some ecKey
  else if label = bytes "X509 CRL" then some revocationList
  else if label = bytes "CERTIFICATE REQUEST" then some request
  else if label = bytes "ECHCONFIG" then some echConfig
  else none

def isPrivateKey : Content → Bool
  | rsaKey | pkcs8Key | ecKey => true
  | _ => false

end Content

structure Section where
  content : Content
  /-- The base64 between the marks. -/
  body : List UInt8
deriving DecidableEq, Repr

def Section.octets (s : Section) : List UInt8 :=
  Text.Base64.join (s.body.filterMap Text.Base64.digit?)

inductive Fault where
  /-- The file ends inside a section. -/
  | endMissing (label : List UInt8)
  | illegalStart (line : List UInt8)
  | content (fault : Base64.Fault)
deriving DecidableEq, Repr

def Fault.text : Fault → String
  | endMissing label => "section end " ++ Text.quote (Text.lossy label) ++ " missing"
  | illegalStart line => "illegal section start: " ++ Text.quote (Text.lossy line)
  | content fault => fault.text

def isLineEnd (b : UInt8) : Bool := b = 0x0a || b = 0x0d

/-- The lines of a file, each with the line feed or carriage return that ends it. -/
def lines : List UInt8 → List (List UInt8)
  | [] => []
  | b :: l =>
    if isLineEnd b then [b] :: lines l
    else
      match lines l with
      | [] => [[b]]
      | line :: more => (b :: line) :: more

def dash : UInt8 := 0x2d

def dashes : List UInt8 := List.replicate 5 dash

def beginMark : List UInt8 := bytes "-----BEGIN "

def endMark : List UInt8 := bytes "-----END "

def isTrailing (b : UInt8) : Bool := b = dash || isLineEnd b || b = 0x20

/-- The label of a line that starts a section. After it come five dashes and any blanks. -/
def label? (line : List UInt8) : Option (List UInt8) :=
  let tail := (line.reverse.takeWhile isTrailing).reverse.dropWhile (· ≠ dash)
  if tail.count dash = 5 then
    some ((line.take (line.length - tail.length)).drop beginMark.length)
  else none

/-- The sections of the lines that follow, up to the first fault. `label` is that of the section
that is open, and `body` its lines so far. A section that starts inside another one takes over its
lines. What has no known label is skipped. -/
def sections (label : Option (List UInt8)) (body : List UInt8) :
    List (List UInt8) → List (Except Fault Section)
  | [] =>
    match label with
    | none => []
    | some label => [.error (.endMissing label)]
  | line :: more =>
    if beginMark.isPrefixOf line then
      match label? line with
      | none => [.error (.illegalStart line)]
      | some label => sections (some label) body more
    else
      match label with
      | none => sections none body more
      | some current =>
        if (endMark ++ current ++ dashes).isPrefixOf line then
          match Content.ofLabel? current with
          | none => sections none [] more
          | some content =>
            match Base64.check body with
            | .error fault => [.error (.content fault)]
            | .ok () => .ok ⟨content, body⟩ :: sections none [] more
        else sections label (body ++ line) more

def read (file : List UInt8) : List (Except Fault Section) := sections none [] (lines file)

end EtcdLocator.Tls.Pem
