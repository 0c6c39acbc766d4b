import EtcdLocator.Kubernetes.Request
import EtcdLocator.Kubernetes.Response
import EtcdLocator.Member
import EtcdLocator.Rpc
import EtcdLocator.Tls.Material

namespace EtcdLocator

inductive FarEnd where
  /-- No connection comes about. -/
  | refuses (cause : Cause)
  /-- Connecting never ends. -/
  | stalls
  | answers (leaderId : Rpc.Reply UInt64) (members : Rpc.Reply (List Member))

structure Cluster where
  respond : Kubernetes.Request → Kubernetes.Response
  /-- What speaks at the far end of a tunnel, by the number of the tunnel and its pod, to a client
  with that TLS material. -/
  farEnd : Nat → String → Option Tls.Material → FarEnd
  /-- The local port on which the tunnel of that number listens. -/
  listen : Nat → Except String UInt16
  /-- How many connections are made through the tunnel of that number for a call, when so many were
  made before. One is made first, and serves for all calls while it lasts. -/
  connections : Nat → Nat → Nat := fun _ before => if before = 0 then 1 else 0

inductive Network where
  /-- Every request ends in that cause. -/
  | unreachable (cause : Cause)
  | serving (cluster : Cluster)

namespace Network

def offline : Network := .unreachable
  ⟨"client error (Connect)", ["tcp connect error", "Network is unreachable (os error 101)"]⟩

def respond : Network → Kubernetes.Request → Except Kubernetes.Failure Kubernetes.Response
  | unreachable cause, _ => .error (.unreachable cause)
  | serving cluster, r => .ok (cluster.respond r)

def isServing : Network → Bool
  | unreachable _ => false
  | serving _ => true

def farEnd : Network → Nat → String → Option Tls.Material → FarEnd
  | unreachable cause, _, _, _ => .refuses cause
  | serving cluster, tunnel, pod, tls => cluster.farEnd tunnel pod tls

def listen : Network → Nat → Except String UInt16
  | unreachable _, _ => .ok 0
  | serving cluster, tunnel => cluster.listen tunnel

def connections : Network → Nat → Nat → Nat
  | unreachable _, _, _ => 0
  | serving cluster, tunnel, before => cluster.connections tunnel before

end Network

end EtcdLocator
