import EtcdLocator.Text.Numeral
import EtcdLocator.Text.Quoted

namespace EtcdLocator

/-- A failure beyond this library, in the words of each layer that passed it on. -/
structure Cause where
  outer : String
  inner : List String := []
deriving DecidableEq, Repr

namespace Cause

def chain (c : Cause) : List String := c.outer :: c.inner

/-- No messages at all count as one empty message. -/
def ofList : List String → Cause
  | [] => ⟨"", []⟩
  | m :: ms => ⟨m, ms⟩

def brief (c : Cause) : String := c.outer

def full (c : Cause) : String := ": ".intercalate c.chain

def context (message : String) (c : Cause) : Cause := ⟨message, c.chain⟩

end Cause

inductive Failure where
  /-- The request makes no sense. -/
  | invalidArgument (complaint : String)
  /-- The proxy pods could not be listed. -/
  | listing (cause : Cause)
  /-- The listing came back without any pod. -/
  | noPods
  | noProxyPod (node : String)
  | connection (node pod : String) (cause : Cause)
  | memberQuery (node : String) (cause : Cause)
  /-- The member asked names a leader that its own member list does not have. -/
  | leaderNotInMembers (leaderId : UInt64) (queriedNode : String)
  /-- The leader runs on a node that was not asked for. -/
  | leaderNodeNotCandidate (leaderId : UInt64) (nodeName : String)
  | leaderUnreachable (leaderId : UInt64) (node : String) (source : Failure)
  | noAvailableNode (attempts : List Failure)
  | noReachableLeader (attempts : List Failure)
deriving Inhabited, Repr

def summary : List String → String
  | [] => "no errors recorded"
  | [message] => message
  | messages => "[" ++ ", ".intercalate messages ++ "]"

namespace Failure

mutual

/-- A listing shows the outermost message of its cause; connections and queries show them all. -/
def message : Failure → String
  | invalidArgument complaint => "invalid argument: " ++ complaint
  | listing cause => "unable to list etcd-proxy pods in target cluster: " ++ cause.brief
  | noPods => "there isn't any etcd-proxy pods in target cluster"
  | noProxyPod node => "unable to find etcd proxy pod for node " ++ node
  | connection node pod cause =>
    "failed to connect to etcd node " ++ node ++ " via pod " ++ pod ++ ": " ++ cause.full
  | memberQuery node cause =>
    "failed to list etcd members via node " ++ node ++ ": " ++ cause.full
  | leaderNotInMembers leaderId queriedNode =>
    "etcd leader is reported as " ++ Text.hex leaderId.toNat ++
      ", but we couldn't find any matching member (queried via node " ++ queriedNode ++ ")"
  | leaderNodeNotCandidate leaderId nodeName =>
    "etcd leader is reported as " ++ Text.hex leaderId.toNat ++ " with node name " ++
      Text.quote nodeName ++ ", but we couldn't find a corresponding Node in the cluster"
  | leaderUnreachable leaderId node source =>
    "failed to connect to etcd leader " ++ Text.hex leaderId.toNat ++ " on node " ++ node ++ ": " ++
      message source
  | noAvailableNode attempts =>
    "could not establish a connection to any node: " ++ summary (messages attempts)
  | noReachableLeader attempts =>
    "could not establish a connection to the etcd leader: " ++ summary (messages attempts)

def messages : List Failure → List String
  | [] => []
  | f :: fs => message f :: messages fs

end

theorem messages_eq_map (l : List Failure) : messages l = l.map message := by
  induction l with
  | nil => simp [messages]
  | cons f l ih => simp [messages, ih]

theorem message_noProxyPod (node : String) :
    (noProxyPod node).message = "unable to find etcd proxy pod for node " ++ node := rfl

theorem message_connection (node pod : String) (cause : Cause) :
    (connection node pod cause).message =
      "failed to connect to etcd node " ++ node ++ " via pod " ++ pod ++ ": " ++ cause.full := rfl

theorem message_memberQuery (node : String) (cause : Cause) :
    (memberQuery node cause).message =
      "failed to list etcd members via node " ++ node ++ ": " ++ cause.full := rfl

/-- The messages beneath a failure, from the nearest to the root. Several attempts have no one
message beneath them. -/
def sources : Failure → List String
  | listing cause => cause.chain
  | connection _ _ cause => cause.chain
  | memberQuery _ cause => cause.chain
  | leaderUnreachable _ _ source => source.message :: sources source
  | _ => []

inductive Kind where
  | connectivity
  | inventory
  | notFound
  | inconsistency
  | invalidArgument
  | aggregate
deriving DecidableEq, Repr

def kind : Failure → Kind
  | .invalidArgument _ => .invalidArgument
  | .listing _ | .noPods => .inventory
  | .noProxyPod _ => .notFound
  | .connection .. | .memberQuery .. | .leaderUnreachable .. => .connectivity
  | .leaderNotInMembers .. | .leaderNodeNotCandidate .. => .inconsistency
  | .noAvailableNode _ | .noReachableLeader _ => .aggregate

/-- Whether the failure concerns one candidate only, so that the next may do better. A leader that
is known but out of reach does not, for it lives on one node. -/
def isRetryable : Failure → Bool
  | noProxyPod _ | connection .. | memberQuery .. => true
  | _ => false

def causes : Failure → Option (List Failure)
  | noAvailableNode attempts | noReachableLeader attempts => some attempts
  | _ => none

end Failure

structure Attempts where
  failures : List Failure := []

namespace Attempts

def record (a : Attempts) (f : Failure) : Attempts := ⟨a.failures ++ [f]⟩

def ofList (l : List Failure) : Attempts := ⟨l⟩

def size (a : Attempts) : Nat := a.failures.length

def isEmpty (a : Attempts) : Bool := a.failures.isEmpty

def message (a : Attempts) : String := summary (Failure.messages a.failures)

theorem failures_foldl_record (l : List Failure) (a : Attempts) :
    (l.foldl record a).failures = a.failures ++ l := by
  induction l generalizing a with
  | nil => simp
  | cons f l ih => simp [ih, record]

end Attempts

end EtcdLocator
