import EtcdLocator.Locator.World

namespace EtcdLocator

inductive Behaviour where
  | refuses (cause : Cause)
  /-- The member names a leader, and answers for the members as given. -/
  | serves (leaderId : UInt64) (members : Except Cause (List Member))

structure Script where
  listing : PodMap.Listing := .ok []
  behaviours : List (String × List Behaviour) := []

namespace Script

structure Connection where
  pod : String
  leaderId : UInt64
  members : Except Cause (List Member)

def behaviours? (s : Script) (pod : String) : List Behaviour :=
  ((s.behaviours.find? (·.1 = pod)).map (·.2)).getD []

def setBehaviours (s : Script) (pod : String) (l : List Behaviour) : Script :=
  { s with behaviours := (pod, l) :: s.behaviours.filter (·.1 ≠ pod) }

/-- The behaviour of a dial and those left for later ones. The last one stays. -/
def next : List Behaviour → Behaviour × List Behaviour
  | [] => (.refuses ⟨"dial tcp: connection refused", []⟩, [])
  | [b] => (b, [b])
  | b :: l => (b, l)

def dial (pod : String) (s : Script) : Except Cause Connection × Script :=
  let (behaviour, rest) := next (s.behaviours? pod)
  let s := s.setBehaviours pod rest
  match behaviour with
  | .refuses cause => (.error cause, s)
  | .serves leaderId members => (.ok ⟨pod, leaderId, members⟩, s)

def backend : Backend Script Connection where
  list s := (s.listing, s)
  dial := dial
  members c s := (c.members, s)
  release _ s := s
  endpoint := Connection.pod
  leaderId := Connection.leaderId

end Script

end EtcdLocator
