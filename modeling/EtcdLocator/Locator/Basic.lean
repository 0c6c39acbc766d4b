import EtcdLocator.Locator.Walk

namespace EtcdLocator

structure Locator (σ κ : Type) where
  pods : PodMap := {}
  world : World σ κ

namespace Locator

variable {σ κ : Type} (b : Backend σ κ)

def start (state : σ) : Locator σ κ := { world := ⟨state, []⟩ }

def refresh (l : Locator σ κ) : Except Failure Unit × Locator σ κ :=
  let (listing, world) := l.world.list b
  let (outcome, pods) := l.pods.rebuild listing
  (outcome, ⟨pods, world⟩)

def ensure (l : Locator σ κ) : Except Failure Unit × Locator σ κ :=
  if l.pods.isBuilt then (.ok (), l) else refresh b l

def invalidate (l : Locator σ κ) : Locator σ κ := { l with pods := l.pods.invalidate }

def resolve (node : String) (l : Locator σ κ) : Except Failure String := l.pods.resolve node

def proxyPods (l : Locator σ κ) : Except Failure (List ProxyPod) × Locator σ κ :=
  match ensure b l with
  | (.error f, l) => (.error f, l)
  | (.ok (), l) => (.ok l.pods.entries, l)

def firstAvailable (nodes : List String) (l : Locator σ κ) : Except Failure κ × Locator σ κ :=
  if nodes.isEmpty then
    (.error (.invalidArgument
      "for_first_available_node can't be called with an empty list of nodes"), l)
  else
    match ensure b l with
    | (.error f, l) => (.error f, l)
    | (.ok (), l) =>
      let (outcome, world) := Walk.firstAvailable b l.pods nodes {} l.world
      (outcome, { l with world })

/-- Connects to the leader, whose node has to be one of `nodes`. -/
def leader (nodes : List String) (l : Locator σ κ) : Except Failure κ × Locator σ κ :=
  if nodes.isEmpty then
    (.error (.invalidArgument "for_leader can't be called with an empty list of nodes"), l)
  else
    match ensure b l with
    | (.error f, l) => (.error f, l)
    | (.ok (), l) =>
      let (outcome, world) := Walk.leader b l.pods nodes nodes {} l.world
      (outcome, { l with world })

end Locator

end EtcdLocator
