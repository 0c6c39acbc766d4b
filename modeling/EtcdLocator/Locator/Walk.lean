import EtcdLocator.Locator.World

namespace EtcdLocator.Walk

variable {σ κ : Type} (b : Backend σ κ) (pods : PodMap)

def connect (node : String) (w : World σ κ) : Except Failure κ × World σ κ :=
  match pods.resolve node with
  | .error f => (.error f, w)
  | .ok pod =>
    match w.dial b pod with
    | (.ok c, w) => (.ok c, w)
    | (.error cause, w) => (.error (.connection node pod cause), w)

/-- Connects to the first of the nodes that can be reached, after the failures in `met`. -/
def firstAvailable : List String → Attempts → World σ κ → Except Failure κ × World σ κ
  | [], met, w => (.error (.noAvailableNode met.failures), w)
  | node :: nodes, met, w =>
    match connect b pods node w with
    | (.ok c, w) => (.ok c, w)
    | (.error f, w) => firstAvailable nodes (met.record f) w

/-- Connects to the node of the leader that a member named, if it is a candidate. -/
def follow (candidates : List String) (leaderId : UInt64) (queriedNode : String)
    (members : List Member) (w : World σ κ) : Except Failure κ × World σ κ :=
  match members.find? (·.id = leaderId) with
  | none => (.error (.leaderNotInMembers leaderId queriedNode), w)
  | some m =>
    if m.nodeName ∈ candidates then
      match connect b pods m.nodeName w with
      | (.ok c, w) => (.ok c, w)
      | (.error f, w) => (.error (.leaderUnreachable leaderId m.nodeName f), w)
    else (.error (.leaderNodeNotCandidate leaderId m.nodeName), w)

def leaderVia (candidates : List String) (node : String) (w : World σ κ) :
    Except Failure κ × World σ κ :=
  match connect b pods node w with
  | (.error f, w) => (.error f, w)
  | (.ok probe, w) =>
    let (answer, w) := w.members b probe
    let w := w.close b probe
    match answer with
    | .error cause => (.error (.memberQuery node cause), w)
    | .ok members => follow b pods candidates (b.leaderId probe) node members w

/-- Connects to the leader that the first node to give an answer names, after the failures in
`met`. -/
def leader (candidates : List String) :
    List String → Attempts → World σ κ → Except Failure κ × World σ κ
  | [], met, w => (.error (.noReachableLeader met.failures), w)
  | node :: nodes, met, w =>
    match leaderVia b pods candidates node w with
    | (.ok c, w) => (.ok c, w)
    | (.error f, w) =>
      if f.isRetryable then leader candidates nodes (met.record f) w else (.error f, w)

end EtcdLocator.Walk
