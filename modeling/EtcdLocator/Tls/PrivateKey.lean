import EtcdLocator.Tls.Certificate
import EtcdLocator.Tls.Pem

namespace EtcdLocator.Tls

inductive Curve where
  | p256
  | p384
deriving DecidableEq, Repr

namespace Curve

def name : Curve → List UInt8
  | p256 => [0x06, 0x08, 0x2a, 0x86, 0x48, 0xce, 0x3d, 0x03, 0x01, 0x07]
  | p384 => [0x06, 0x05, 0x2b, 0x81, 0x04, 0x00, 0x22]

def algorithm (c : Curve) : List UInt8 :=
  [0x06, 0x07, 0x2a, 0x86, 0x48, 0xce, 0x3d, 0x02, 0x01] ++ c.name

def size : Curve → Nat
  | p256 => 32
  | p384 => 48

end Curve

/-- A private key by its public part. -/
inductive PrivateKey where
  | rsa (modulus exponent : Nat)
  | elliptic (curve : Curve) (point : List UInt8)
  /-- The public part is known only if it is attached. -/
  | edwards (attached : Option (List UInt8))
deriving DecidableEq, Repr

namespace PrivateKey

def rsaAlgorithm : List UInt8 :=
  [0x06, 0x09, 0x2a, 0x86, 0x48, 0x86, 0xf7, 0x0d, 0x01, 0x01, 0x01, 0x05, 0x00]

def edwardsAlgorithm : List UInt8 := [0x06, 0x03, 0x2b, 0x65, 0x70]

/-- A modulus has 2048 to 4096 bits, and the exponent is not a small one. -/
def isStrong (modulus exponent : Nat) : Bool :=
  Nat.pow 2 2047 ≤ modulus && modulus < Nat.pow 2 4096 && 65537 ≤ exponent &&
    exponent < Nat.pow 2 33 && exponent % 2 = 1

/-- Version, modulus, both exponents, both primes and three numbers that make signing faster. -/
def ofRsa? (l : List UInt8) : Option PrivateKey := do
  match ← (← Der.sequence? l).mapM Der.natural? with
  | [0, modulus, exponent, _, p, q, _, _, _] =>
    if isStrong modulus exponent && p * q = modulus then some (.rsa modulus exponent) else none
  | _ => none

def fieldBits? (content : List UInt8) : Option (List UInt8) :=
  match Der.elements? content with
  | some [e] => Der.bits? e
  | _ => none

/-- A point with both coordinates, which has to come with the number that it was made from. -/
def ofPoint? (curve : Curve) (scalar point : List UInt8) : Option PrivateKey := do
  let point ← fieldBits? point
  if scalar.length = curve.size && point.length = 2 * curve.size + 1 && point.head? = some 0x04 then
    some (.elliptic curve point)
  else none

/-- Version, number, maybe the name of the curve, and point. -/
def ofElliptic? (curve : Curve) (l : List UInt8) : Option PrivateKey := do
  match ← Der.sequence? l with
  | version :: ⟨.octetString, scalar⟩ :: more =>
    if (← Der.natural? version) = 1 then
      match more with
      | [⟨.field 1, point⟩] => ofPoint? curve scalar point
      | [⟨.field 0, name⟩, ⟨.field 1, point⟩] =>
        if name = curve.name then ofPoint? curve scalar point else none
      | _ => none
    else none
  | _ => none

def ofSeed? (attached : Option (List UInt8)) (l : List UInt8) : Option PrivateKey :=
  match Der.elements? l with
  | some [⟨.octetString, seed⟩] => if seed.length = 32 then some (.edwards attached) else none
  | _ => none

def attached? : Der.Element → Option (List UInt8)
  | ⟨.other byte, content⟩ => if byte = 0x81 then Der.bits? ⟨.bitString, content⟩ else none
  | ⟨.field 1, content⟩ => fieldBits? content
  | _ => none

def ofAlgorithm? (algorithm key : List UInt8) : Option PrivateKey :=
  if algorithm = rsaAlgorithm then ofRsa? key
  else if algorithm = Curve.p256.algorithm then ofElliptic? .p256 key
  else if algorithm = Curve.p384.algorithm then ofElliptic? .p384 key
  else if algorithm = edwardsAlgorithm then ofSeed? none key
  else none

/-- Elements without the attributes that may come first. -/
def afterAttributes : List Der.Element → List Der.Element
  | ⟨.field 0, _⟩ :: more => more
  | l => l

/-- A key of any kind: version, algorithm, key and maybe attributes. A public key after them makes
it the next version, which only Edwards curves have. -/
def ofPkcs8? (l : List UInt8) : Option PrivateKey := do
  match ← Der.sequence? l with
  | version :: ⟨.sequence, algorithm⟩ :: ⟨.octetString, key⟩ :: more =>
    match ← Der.natural? version, afterAttributes more with
    | 0, [] => ofAlgorithm? algorithm key
    | 1, [e] => if algorithm = edwardsAlgorithm then ofSeed? (some (← attached? e)) key else none
    | _, _ => none
  | _ => none

def ofSection? (s : Pem.Section) : Option PrivateKey :=
  match s.content with
  | .pkcs8Key => ofPkcs8? s.octets
  | .rsaKey => ofRsa? s.octets
  | .ecKey => ofElliptic? .p256 s.octets <|> ofElliptic? .p384 s.octets
  | _ => none

def fits (k : PrivateKey) (algorithm octets : List UInt8) : Bool :=
  match k with
  | rsa modulus exponent =>
    algorithm = rsaAlgorithm &&
      (Der.sequence? octets).any fun es => es.mapM Der.natural? = some [modulus, exponent]
  | elliptic curve point => algorithm = curve.algorithm && octets = point
  | edwards attached => algorithm = edwardsAlgorithm && attached.all (· = octets)

def belongsTo (k : PrivateKey) (c : Certificate) : Bool :=
  match Der.elements? c.keyInfo with
  | some [⟨.sequence, algorithm⟩, key] => (Der.bits? key).any (k.fits algorithm)
  | _ => false

end PrivateKey

end EtcdLocator.Tls
