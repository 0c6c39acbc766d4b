import EtcdLocator.Tls.Der

namespace EtcdLocator.Tls

/-- What matters of a certificate while it is not yet shown to anyone. -/
structure Certificate where
  /-- The kind of its key and the key. -/
  keyInfo : List UInt8
deriving DecidableEq, Repr

namespace Certificate

inductive Fault where
  | encoding
  | version
  /-- The signed part names another algorithm than the certificate. -/
  | algorithms
  | criticalExtension
  | repeatedExtension
deriving DecidableEq, Repr

def Fault.name : Fault → String
  | encoding => "BadEncoding"
  | version => "Other(OtherError(UnsupportedCertVersion))"
  | algorithms => "Other(OtherError(SignatureAlgorithmMismatch))"
  | criticalExtension => "Other(OtherError(UnsupportedCriticalExtension))"
  | repeatedExtension => "Other(OtherError(ExtensionValueInvalid))"

def Fault.text (fault : Fault) : String := "invalid peer certificate: " ++ fault.name

structure Extension where
  id : List UInt8
  critical : Bool
  value : List UInt8
deriving DecidableEq, Repr

namespace Extension

/-- An extension is not critical unless it says so. -/
def ofElement? : Der.Element → Option Extension
  | ⟨.sequence, content⟩ =>
    match Der.elements? content with
    | some [⟨.objectId, id⟩, ⟨.octetString, value⟩] => some ⟨id, false, value⟩
    | some [⟨.objectId, id⟩, ⟨.boolean, [b]⟩, ⟨.octetString, value⟩] =>
      if b = 0 || b = 0xff then some ⟨id, b = 0xff, value⟩ else none
    | _ => none
  | _ => none

def keyUsage : List UInt8 := [0x55, 0x1d, 15]

/-- The extensions that are understood: the usage of the key, alternative names, constraints on
issuing and on names, where revocations are published, and the extended usage. -/
def understood : List (List UInt8) :=
  [keyUsage, [0x55, 0x1d, 17], [0x55, 0x1d, 19], [0x55, 0x1d, 30], [0x55, 0x1d, 31],
    [0x55, 0x1d, 37]]

def isWellFormed (x : Extension) : Bool :=
  x.id = keyUsage ||
    match Der.elements? x.value with
    | some [⟨.sequence, _⟩] => true
    | _ => false

def check (seen : List (List UInt8)) : List Der.Element → Except Fault Unit
  | [] => .ok ()
  | e :: more =>
    match ofElement? e with
    | none => .error .encoding
    | some x =>
      if understood.contains x.id then
        if seen.contains x.id then .error .repeatedExtension
        else if x.isWellFormed then check (x.id :: seen) more
        else .error .encoding
      else if x.critical then .error .criticalExtension
      else check seen more

end Extension

/-- The third version is the only one, and the only one that has extensions. -/
def checkVersion (content : List UInt8) : Except Fault Unit :=
  match Der.elements? content with
  | some (e :: more) =>
    match Der.natural? e with
    | some n => if n = 2 && more.isEmpty then .ok () else .error .version
    | none => .error .encoding
  | _ => .error .encoding

def checkExtensions : List Der.Element → Except Fault Unit
  | [] => .ok ()
  | [⟨.field 3, content⟩] =>
    match Der.sequence? content with
    | some extensions => Extension.check [] extensions
    | none => .error .encoding
  | _ => .error .encoding

/-- Reads the signed part: version, number, algorithm, issuer, validity, subject and key. -/
def ofSigned (algorithm : List UInt8) (signed : List Der.Element) : Except Fault Certificate :=
  match signed with
  | ⟨.field 0, version⟩ :: more => do
    checkVersion version
    match more with
    | ⟨.integer, _⟩ :: ⟨.sequence, inner⟩ :: ⟨.sequence, _⟩ :: ⟨.sequence, _⟩ ::
        ⟨.sequence, _⟩ :: ⟨.sequence, keyInfo⟩ :: extensions =>
      if inner ≠ algorithm then .error .algorithms
      checkExtensions extensions
      return ⟨keyInfo⟩
    | _ => .error .encoding
  | _ => .error .version

/-- The elements of the signed part, and the algorithm of the signature. -/
def parts? (l : List UInt8) : Option (List Der.Element × List UInt8) :=
  match Der.sequence? l with
  | some [⟨.sequence, signed⟩, ⟨.sequence, algorithm⟩, signature] =>
    match Der.elements? signed, Der.bits? signature with
    | some signed, some _ => some (signed, algorithm)
    | _, _ => none
  | _ => none

def read (l : List UInt8) : Except Fault Certificate :=
  match parts? l with
  | some (signed, algorithm) => ofSigned algorithm signed
  | none => .error .encoding

def isFirstVersion (signed : List Der.Element) : Bool :=
  signed.map (·.tag) = [.integer, .sequence, .sequence, .sequence, .sequence, .sequence]

/-- Checks a certificate that is trusted, which may be of the first version. -/
def checkTrusted (l : List UInt8) : Except Fault Unit :=
  match read l with
  | .ok _ => .ok ()
  | .error .version =>
    if (parts? l).any fun (signed, _) => isFirstVersion signed then .ok () else .error .encoding
  | .error fault => .error fault

end Certificate

end EtcdLocator.Tls
