import EtcdLocator.Failure
import EtcdLocator.Url

namespace EtcdLocator.Kubernetes

structure Status where
  status : String
  message : String := ""
  reason : String := ""
  code : Nat
deriving DecidableEq, Repr

namespace Status

def brief (s : Status) : String := s.message ++ ": " ++ s.reason

def text (s : Status) : String :=
  "ErrorResponse \x7b status: " ++ Text.quote s.status ++ ", message: " ++ Text.quote s.message ++
    ", reason: " ++ Text.quote s.reason ++ ", code: " ++ Text.decimal s.code ++ " \x7d"

end Status

inductive Unwritable where
  | target (fault : Url.Fault)
  | emptyName
deriving DecidableEq, Repr

def Unwritable.cause : Unwritable → Cause
  | target fault => ⟨"failed to build request: " ++ fault.text, [fault.text]⟩
  | emptyName => ⟨"failed to validate request: A non-empty name is required", []⟩

inductive Failure where
  | refused (status : Status)
  /-- The server was not reached. -/
  | unreachable (cause : Cause)
  /-- The answer is not of the kind that was asked for. -/
  | undecodable (complaint : Cause)
  | unwritable (fault : Unwritable)
deriving DecidableEq, Repr

namespace Failure

def cause : Failure → Cause
  | refused s => ⟨"ApiError: " ++ s.brief ++ " (" ++ s.text ++ ")", [s.brief]⟩
  | unreachable c => ⟨"ServiceError: " ++ c.brief, c.chain⟩
  | undecodable c => c
  | unwritable fault => ⟨"Failed to build request: " ++ fault.cause.brief, fault.cause.chain⟩

def message (f : Failure) : String := f.cause.brief

def sources (f : Failure) : List String := f.cause.inner

end Failure

end EtcdLocator.Kubernetes
