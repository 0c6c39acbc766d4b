import EtcdLocator.Json.Printer

namespace EtcdLocator.Report

inductive Format where
  | text
  | json
deriving DecidableEq, Repr

/-- Fills up with blanks on the right to `width` characters; longer text is left alone. -/
def pad (width : Nat) (s : String) : String :=
  s ++ String.ofList (List.replicate (width - s.length) ' ')

end EtcdLocator.Report
