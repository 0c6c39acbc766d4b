import EtcdLocator.Files
import EtcdLocator.Tls.Pem

namespace EtcdLocator.Tls

inductive Part where
  | caBundle
  | clientCertificate
  | clientKey
deriving DecidableEq, Repr

def Part.text : Part → String
  | caBundle => "CA bundle"
  | clientCertificate => "client certificate"
  | clientKey => "client key"

inductive Failure where
  | unreadable (path : String) (fault : ReadFault)
  | malformed (part : Part) (fault : Pem.Fault)
  | noCertificate (part : Part)
  | noPrivateKey
deriving DecidableEq, Repr

namespace Failure

def message : Failure → String
  | unreadable path fault => "unable to read " ++ path ++ ": " ++ fault.text
  | malformed part fault => "invalid PEM in " ++ part.text ++ ": " ++ fault.text
  | noCertificate part => "no certificate found in " ++ part.text
  | noPrivateKey => "no private key found in client key"

def sources : Failure → List String
  | unreadable _ fault => [fault.text]
  | malformed _ fault => [fault.text]
  | noCertificate _ | noPrivateKey => []

end Failure

/-- Reads a bundle to its end, and wants a certificate in it. -/
def checkCertificates (part : Part) (found : Bool) :
    List (Except Pem.Fault Pem.Section) → Except Failure Unit
  | [] => if found then .ok () else .error (.noCertificate part)
  | .error fault :: _ => .error (.malformed part fault)
  | .ok s :: more => checkCertificates part (found || s.content = .certificate) more

/-- Reads up to the first private key. -/
def checkKey : List (Except Pem.Fault Pem.Section) → Except Failure Unit
  | [] => .error .noPrivateKey
  | .error fault :: _ => .error (.malformed .clientKey fault)
  | .ok s :: more => if s.content.isPrivateKey then .ok () else checkKey more

/-- The parts as they were read, and the name that the member's certificate has to bear. -/
structure Material where
  ca : List UInt8
  certificate : List UInt8
  key : List UInt8
  serverName : Option String := none
deriving DecidableEq, Repr

namespace Material

def ofPem (ca certificate key : List UInt8) : Except Failure Material := do
  checkCertificates .caBundle false (Pem.read ca)
  checkCertificates .clientCertificate false (Pem.read certificate)
  checkKey (Pem.read key)
  return { ca, certificate, key }

def readPart (files : Files) (path : String) : Except Failure (List UInt8) :=
  (files path).mapError (.unreadable path)

/-- Reads all parts before any of them is checked. -/
def ofFiles (files : Files) (ca certificate key : String) : Except Failure Material := do
  let ca ← readPart files ca
  let certificate ← readPart files certificate
  let key ← readPart files key
  ofPem ca certificate key

def withServerName (m : Material) (name : String) : Material := { m with serverName := some name }

/-- Shows the material without its secrets. -/
def text (m : Material) : String :=
  let name := match m.serverName with
    | none => "None"
    | some name => "Some(" ++ Text.quote name ++ ")"
  "TlsMaterial \x7b server_name: " ++ name ++ ", .. \x7d"

end Material

end EtcdLocator.Tls
