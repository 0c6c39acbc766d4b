import EtcdLocator.Failure
import EtcdLocator.Host
import EtcdLocator.Tls.PrivateKey

namespace EtcdLocator.Tls

inductive Misfit where
  | malformed (fault : Pem.Fault)
  | unknownKey
  | noKey
  | noCertificate
  | badKey
  | badCertificate (fault : Certificate.Fault)
  /-- The certificate is for another key. -/
  | strangers
  | badRoot (fault : Certificate.Fault)
  | badName
deriving DecidableEq, Repr

def Misfit.cause : Misfit → Cause
  | malformed fault => ⟨"identity PEM is invalid: " ++ fault.text, [fault.text]⟩
  | unknownKey => ⟨"unknown private key format", []⟩
  | noKey =>
    ⟨"identity PEM is missing a private key: the key must be PKCS8 or RSA/PKCS1", []⟩
  | noCertificate => ⟨"identity PEM is missing certificate", []⟩
  | badKey => labelled "unexpected error: failed to parse private key as RSA, ECDSA, or EdDSA"
  | badCertificate fault => labelled fault.text
  | strangers => labelled "keys may not be consistent: KeyMismatch"
  | badRoot fault => ⟨"failed to add a root certificate: " ++ fault.text, [fault.text]⟩
  | badName => ⟨"invalid server name: invalid dns name", ["invalid dns name"]⟩
where
  labelled (reason : String) : Cause := ⟨"invalid private key: " ++ reason, [reason]⟩

def checkRoots (roots : List (List UInt8)) : Except Misfit Unit :=
  roots.forM fun l => (Certificate.checkTrusted l).mapError .badRoot

/-- The sections of an identity, all of which are read before any is looked at. -/
def readIdentity (file : List UInt8) : Except Misfit (List Pem.Section) :=
  (Pem.read file).mapM fun s => s.mapError .malformed

def lastOf (kind : Pem.Content) (sections : List Pem.Section) : Option Pem.Section :=
  sections.reverse.find? (·.content = kind)

/-- The key that counts, which is a PKCS8 one if there is any. -/
def keyOf (sections : List Pem.Section) : Option Pem.Section :=
  lastOf .pkcs8Key sections <|> lastOf .rsaKey sections <|> lastOf .ecKey sections

/-- The first certificate. Those after it are only shown along with it. -/
def certificateOf (sections : List Pem.Section) : Option Pem.Section :=
  sections.find? (·.content = .certificate)

def checkIdentity (file : List UInt8) : Except Misfit Unit := do
  let sections ← readIdentity file
  if sections.any fun s => s.content ≠ .certificate && !s.content.isPrivateKey then
    .error .unknownKey
  match keyOf sections, certificateOf sections with
  | none, _ => .error .noKey
  | _, none => .error .noCertificate
  | some key, some certificate =>
    match PrivateKey.ofSection? key with
    | none => .error .badKey
    | some key =>
      let certificate ← (Certificate.read certificate.octets).mapError .badCertificate
      if key.belongsTo certificate then .ok () else .error .strangers

def checkName (name : String) : Except Misfit Unit :=
  if Host.isName name || Host.isAddress name then .ok () else .error .badName

end EtcdLocator.Tls
