import EtcdLocator.Failure
import EtcdLocator.Text.Bytes

namespace EtcdLocator

structure ProxyPod where
  node : String
  name : String
deriving DecidableEq, Repr

namespace ProxyPod

/-- Puts `p` at its place in a list in ascending order of nodes, instead of the pod of its node. -/
def insert (p : ProxyPod) : List ProxyPod → List ProxyPod
  | [] => [p]
  | q :: l =>
    if p.node = q.node then p :: l
    else if Text.BytesLt p.node q.node then p :: q :: l
    else q :: insert p l

/-- One pod for each node in ascending order of nodes; of several the last. -/
def byNode (l : List ProxyPod) : List ProxyPod := l.foldl (fun sorted p => p.insert sorted) []

theorem find?_insert (p : ProxyPod) (l : List ProxyPod) (node : String) :
    (p.insert l).find? (·.node = node) =
      if p.node = node then some p else l.find? (·.node = node) := by
  induction l with
  | nil => grind [insert]
  | cons q l ih => grind [insert]

theorem find?_foldl_insert (l sorted : List ProxyPod) (node : String) :
    (l.foldl (fun sorted p => p.insert sorted) sorted).find? (·.node = node) =
      (l.reverse ++ sorted).find? (·.node = node) := by
  induction l generalizing sorted with
  | nil => simp
  | cons p l ih =>
    have := find?_insert p sorted node
    grind

theorem find?_byNode (l : List ProxyPod) (node : String) :
    (byNode l).find? (·.node = node) = l.reverse.find? (·.node = node) := by
  rw [byNode, find?_foldl_insert, List.append_nil]

end ProxyPod

/-- Unbuilt until a listing gave pods. -/
structure PodMap where
  pods : Option (List ProxyPod) := none
deriving DecidableEq, Repr

namespace PodMap

abbrev Listing := Except Cause (List ProxyPod)

def isBuilt (m : PodMap) : Bool := m.pods.isSome

def entries (m : PodMap) : List ProxyPod := m.pods.getD []

def size (m : PodMap) : Nat := m.entries.length

def resolve (m : PodMap) (node : String) : Except Failure String :=
  match m.entries.find? (·.node = node) with
  | some p => .ok p.name
  | none => .error (.noProxyPod node)

/-- Takes over a listing. One that failed or gave nothing leaves the map as it was. -/
def rebuild (m : PodMap) : Listing → Except Failure Unit × PodMap
  | .error cause => (.error (.listing cause), m)
  | .ok [] => (.error .noPods, m)
  | .ok pods => (.ok (), ⟨some (ProxyPod.byNode pods)⟩)

def invalidate (_ : PodMap) : PodMap := {}

end PodMap

end EtcdLocator
