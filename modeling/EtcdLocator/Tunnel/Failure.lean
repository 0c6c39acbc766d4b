import EtcdLocator.Kubernetes.Failure

namespace EtcdLocator.Tunnel

inductive Failure where
  /-- No local port could be had. -/
  | bind (text : String)
  | lookup (pod : String) (failure : Kubernetes.Failure)
  | podNotRunning (pod phase : String)
  | forward (pod : String) (failure : Kubernetes.Failure)
  | streamUnavailable (pod : String) (port : UInt16)
  | io (text : String)
deriving DecidableEq, Repr

namespace Failure

def cause : Failure → Cause
  | bind text => ⟨"unable to bind local tunnel listener: " ++ text, [text]⟩
  | lookup pod f => ⟨"unable to get proxy pod " ++ pod ++ ": " ++ f.message, f.cause.chain⟩
  | podNotRunning pod phase =>
    ⟨"proxy pod " ++ pod ++ " is not running (phase: " ++ phase ++ ")", []⟩
  | forward pod f => ⟨"unable to port-forward to pod " ++ pod ++ ": " ++ f.message, f.cause.chain⟩
  | streamUnavailable pod port =>
    ⟨"port-forward to pod " ++ pod ++ " has no stream for port " ++ Text.decimal port.toNat, []⟩
  | io text => ⟨"tunnel i/o error: " ++ text, [text]⟩

def message (f : Failure) : String := f.cause.brief

def sources (f : Failure) : List String := f.cause.inner

end Failure

end EtcdLocator.Tunnel
