import EtcdLocator.Locator.World
import EtcdLocator.Tunnel.Traffic

namespace EtcdLocator

/-- How the members are found and spoken to; without TLS material in plain text. -/
structure Connector where
  layout : Layout := {}
  tls : Option Tls.Material := none

structure Site where
  network : Network
  traffic : Tunnel.Traffic := {}

inductive Incident where
  | replaced (network : Network)
  /-- A connection is made anew through an open tunnel. -/
  | accepted (tunnel : Nat)
  | finished (tunnel bridge : Nat) (ending : Tunnel.Ending)
  | reaped (tunnel bridge : Nat)
  /-- A tunnel can accept no more connections. -/
  | failed (tunnel : Nat)

def Site.befall (s : Site) : Incident → Site
  | .replaced network => { s with network }
  | .accepted tunnel => { s with traffic := s.traffic.accept s.network tunnel }
  | .finished tunnel bridge ending => { s with traffic := s.traffic.finish tunnel bridge ending }
  | .reaped tunnel bridge => { s with traffic := s.traffic.reap tunnel bridge }
  | .failed tunnel => { s with traffic := s.traffic.fail tunnel }

namespace Connector

open Tunnel (Traffic)

def standard (tls : Option Tls.Material) (dialTimeout callTimeout : Duration) : Connector :=
  { layout := ({} : Layout).withTimeouts dialTimeout callTimeout, tls }

/-- A connection to the member behind a pod, with the tunnel that it uses and keeps open. -/
structure Connection where
  pod : String
  leaderId : UInt64
  tunnel : Nat
deriving DecidableEq, Repr

def Connection.text (c : Connection) : String :=
  "ProxiedClient \x7b endpoint: " ++ Text.quote c.pod ++ ", leader_id: " ++
    Text.hex c.leaderId.toNat ++ ", .. \x7d"

def list (k : Connector) (s : Site) : PodMap.Listing × Site :=
  let (answer, traffic) :=
    s.traffic.send s.network (.list k.layout.namespaceName k.layout.labelSelector)
  ((answer.bind Kubernetes.Pod.proxiesOfResponse).mapError fun f =>
      f.cause.context "pod list request failed",
    { s with traffic })

def scheme (k : Connector) : String := if k.tls.isSome then "https" else "http"

def identify (k : Connector) (pod url : String) : FarEnd → Except Cause UInt64
  | .refuses cause => .error (cause.context ("unable to create etcd client for pod " ++ pod))
  | .stalls => .error ⟨"dial to " ++ url ++ " timed out after " ++ k.layout.dialTimeout.text, []⟩
  | .answers .silence _ =>
    .error ⟨"status call timed out after " ++ k.layout.callTimeout.text, []⟩
  | .answers (.failure status) _ =>
    .error ⟨"unable to get etcd status via pod " ++ pod, [status.text]⟩
  | .answers (.value leaderId) _ => .ok leaderId

/-- Opens a tunnel to a pod and asks the member for its leader. The tunnel stays open only if that
succeeds. -/
def dial (k : Connector) (pod : String) (s : Site) : Except Cause Connection × Site :=
  match s.traffic.establish s.network k.layout.target pod with
  | (.error f, traffic) =>
    (.error (f.cause.context ("unable to open tunnel to etcd proxy pod " ++ pod)),
      { s with traffic })
  | (.ok tunnel, traffic) =>
    let traffic := traffic.connect s.network tunnel.number
    match k.identify pod (tunnel.url k.scheme) (s.network.farEnd tunnel.number pod k.tls) with
    | .error cause => (.error cause, { s with traffic := traffic.drop tunnel.number })
    | .ok leaderId => (.ok ⟨pod, leaderId, tunnel.number⟩, { s with traffic })

/-- Asks for the members over an open connection. One that has gone away gives no answer. -/
def members (k : Connector) (c : Connection) (s : Site) : Except Cause (List Member) × Site :=
  let answer : Except Cause (List Member) :=
    match s.network.farEnd c.tunnel c.pod k.tls with
    | .answers _ (.value members) => .ok members
    | .answers _ (.failure status) => .error ⟨"member list failed", [status.text]⟩
    | _ => .error ⟨"member list timed out after " ++ k.layout.callTimeout.text, []⟩
  (answer, { s with traffic := s.traffic.connect s.network c.tunnel })

def release (c : Connection) (s : Site) : Site :=
  { s with traffic := s.traffic.drop c.tunnel }

def backend (k : Connector) : Backend Site Connection where
  list := k.list
  dial := k.dial
  members := k.members
  release := release
  endpoint := Connection.pod
  leaderId := Connection.leaderId

end Connector

end EtcdLocator
