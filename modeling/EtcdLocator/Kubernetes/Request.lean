import EtcdLocator.Kubernetes.Failure
import EtcdLocator.Text.Bytes

namespace EtcdLocator.Kubernetes

inductive Request where
  /-- The pods of a namespace that a selector matches. -/
  | list (namespaceName selector : String)
  | get (namespaceName pod : String)
  /-- A stream to a port of a pod. -/
  | portForward (namespaceName pod : String) (port : UInt16)
deriving DecidableEq, Repr

namespace Request

def isPlain (b : UInt8) : Bool :=
  (0x30 ≤ b && b ≤ 0x39) || (0x41 ≤ b && b ≤ 0x5a) || (0x61 ≤ b && b ≤ 0x7a) ||
    b = 0x2a || b = 0x2d || b = 0x2e || b = 0x5f

def hexDigit (n : Nat) : Char := (Nat.digitChar n).toUpper

def formEncodeByte (b : UInt8) : List Char :=
  if isPlain b then [Char.ofNat b.toNat]
  else if b = 0x20 then ['+']
  else ['%', hexDigit (b.toNat / 16), hexDigit (b.toNat % 16)]

def formEncode (s : String) : String := String.ofList ((Text.bytes s).flatMap formEncodeByte)

def podsPath (namespaceName : String) : String := "/api/v1/namespaces/" ++ namespaceName ++ "/pods"

def target : Request → String
  | list namespaceName selector =>
    podsPath namespaceName ++ "?&labelSelector=" ++ formEncode selector
  | get namespaceName pod => podsPath namespaceName ++ "/" ++ pod
  | portForward namespaceName pod port =>
    podsPath namespaceName ++ "/" ++ pod ++ "/portforward?&ports=" ++ Text.decimal port.toNat

def text (r : Request) : String := "GET " ++ r.target

/-- Whether the request can be sent. A request for one pod has to name it. -/
def check (r : Request) : Except Unwritable Unit :=
  match r with
  | get _ "" => .error .emptyName
  | _ =>
    match Url.parse r.target with
    | .error fault => .error (.target fault)
    | .ok _ => .ok ()

end Request

end EtcdLocator.Kubernetes
