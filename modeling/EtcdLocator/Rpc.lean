import EtcdLocator.Text.Numeral
import EtcdLocator.Text.Quoted

namespace EtcdLocator.Rpc

/-- The names of the codes from `1` on. -/
def codeNames : List String := [
  "Cancelled", "Unknown", "InvalidArgument", "DeadlineExceeded", "NotFound", "AlreadyExists",
  "PermissionDenied", "ResourceExhausted", "FailedPrecondition", "Aborted", "OutOfRange",
  "Unimplemented", "Internal", "Unavailable", "DataLoss", "Unauthenticated"]

def codeName (code : Nat) : String :=
  match code with
  | 0 => "Unknown"
  | n + 1 => codeNames.getD n "Unknown"

structure Status where
  code : Nat
  message : String
  /-- Whether the member sent it, and not the client itself. -/
  isAnswer : Bool
deriving DecidableEq, Repr

def Status.text (s : Status) : String :=
  let headers := if s.isAnswer then "\"content-type\": \"application/grpc\"" else ""
  "grpc request error: status: " ++ codeName s.code ++ ", message: " ++ Text.quote s.message ++
    ", details: [], metadata: MetadataMap \x7b headers: \x7b" ++ headers ++ "\x7d \x7d"

inductive Reply (α : Type) where
  | value (a : α)
  | failure (status : Status)
  /-- No answer comes in time. -/
  | silence
deriving Repr

end EtcdLocator.Rpc
