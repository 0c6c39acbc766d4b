import EtcdLocator.Kubernetes.Pod
import EtcdLocator.Layout
import EtcdLocator.Network
import EtcdLocator.Tunnel.Failure

namespace EtcdLocator.Tunnel

inductive Ending where
  | failed (failure : Failure)
  | closed
deriving DecidableEq, Repr

/-- A connection through a tunnel. An ended one stays until it is cleared away. -/
structure Bridge where
  number : Nat
  ending : Option Ending := none
deriving DecidableEq, Repr

structure Endpoint where
  number : Nat
  target : Target
  pod : String
  port : UInt16
  /-- How many connections it accepted. -/
  accepted : Nat := 0
  bridges : List Bridge := []
  isListening : Bool := true
deriving DecidableEq, Repr

namespace Endpoint

def url (e : Endpoint) (scheme : String) : String :=
  scheme ++ "://127.0.0.1:" ++ Text.decimal e.port.toNat

def forward (e : Endpoint) : Kubernetes.Request :=
  .portForward e.target.namespaceName e.pod e.target.port

def joined (e : Endpoint) : Endpoint :=
  { e with accepted := e.accepted + 1, bridges := e.bridges ++ [⟨e.accepted, none⟩] }

def ended (bridge : Nat) (ending : Ending) (e : Endpoint) : Endpoint :=
  { e with bridges := e.bridges.map fun b =>
      if b.number = bridge ∧ b.ending = none then { b with ending := some ending } else b }

def cleared (bridge : Nat) (e : Endpoint) : Endpoint :=
  { e with bridges := e.bridges.filter fun b => b.number ≠ bridge || b.ending.isNone }

/-- Unable to accept more connections, which ends all that there are. -/
def broken (e : Endpoint) : Endpoint := { e with isListening := false, bridges := [] }

end Endpoint

/-- The open tunnels, and the requests that got to the API server, the first one first. -/
structure Traffic where
  requests : List Kubernetes.Request := []
  tunnels : List Endpoint := []
  /-- How many tunnels were opened. -/
  opened : Nat := 0

namespace Traffic

open Kubernetes (Request Response Pod)

def send (network : Network) (r : Request) (t : Traffic) :
    Except Kubernetes.Failure Response × Traffic :=
  match r.check with
  | .error fault => (.error (.unwritable fault), t)
  | .ok () =>
    (network.respond r,
      if network.isServing then { t with requests := t.requests ++ [r] } else t)

/-- The phase of a pod, without which it counts as unknown. -/
def phase (p : Pod) : String := p.phase.getD "Unknown"

/-- Opens a tunnel to a running pod. Nothing is forwarded before a connection is accepted. -/
def establish (network : Network) (target : Target) (pod : String) (t : Traffic) :
    Except Failure Endpoint × Traffic :=
  let (answer, t) := t.send network (.get target.namespaceName pod)
  match answer.bind Pod.ofResponse with
  | .error f => (.error (.lookup pod f), t)
  | .ok p =>
    if phase p ≠ "Running" then (.error (.podNotRunning pod (phase p)), t)
    else
      match network.listen t.opened with
      | .error text => (.error (.bind text), t)
      | .ok port =>
        let tunnel : Endpoint := { number := t.opened, target, pod, port }
        (.ok tunnel, { t with tunnels := t.tunnels ++ [tunnel], opened := t.opened + 1 })

def find? (t : Traffic) (number : Nat) : Option Endpoint := t.tunnels.find? (·.number = number)

def modify (t : Traffic) (number : Nat) (f : Endpoint → Endpoint) : Traffic :=
  { t with tunnels := t.tunnels.map fun e => if e.number = number then f e else e }

def accept (network : Network) (number : Nat) (t : Traffic) : Traffic :=
  match t.find? number with
  | none => t
  | some e =>
    if e.isListening then (t.send network e.forward).2.modify number .joined else t

def connect (network : Network) (number : Nat) (t : Traffic) : Traffic :=
  match t.find? number with
  | none => t
  | some e => Nat.repeat (accept network number) (network.connections number e.accepted) t

def finish (number bridge : Nat) (ending : Ending) (t : Traffic) : Traffic :=
  t.modify number (.ended bridge ending)

def reap (number bridge : Nat) (t : Traffic) : Traffic := t.modify number (.cleared bridge)

def fail (number : Nat) (t : Traffic) : Traffic := t.modify number .broken

def drop (number : Nat) (t : Traffic) : Traffic :=
  { t with tunnels := t.tunnels.filter (·.number ≠ number) }

/-- What happens to tunnels, in any order. -/
inductive Event where
  | established (target : Target) (pod : String)
  | accepted (tunnel : Nat)
  | finished (tunnel bridge : Nat) (ending : Ending)
  | reaped (tunnel bridge : Nat)
  | failed (tunnel : Nat)
  | dropped (tunnel : Nat)
deriving DecidableEq, Repr

def step (network : Network) (t : Traffic) : Event → Traffic
  | .established target pod => (t.establish network target pod).2
  | .accepted tunnel => t.accept network tunnel
  | .finished tunnel bridge ending => t.finish tunnel bridge ending
  | .reaped tunnel bridge => t.reap tunnel bridge
  | .failed tunnel => t.fail tunnel
  | .dropped tunnel => t.drop tunnel

end Traffic

end EtcdLocator.Tunnel
