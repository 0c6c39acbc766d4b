import EtcdLocator.Json.Printer

namespace EtcdLocator

structure Member where
  id : UInt64
  name : String
  peerUrls : List String
  clientUrls : List String
  isLearner : Bool
deriving DecidableEq, Repr

/-- A member is registered as its node's name, a dash and a suffix without dashes. A name without a
dash is taken for the node's. -/
def nodeOfMemberName (name : String) : String :=
  match name.toList.reverse.dropWhile (· ≠ '-') with
  | [] => name
  | _ :: node => String.ofList node.reverse

namespace Member

def nodeName (m : Member) : String := nodeOfMemberName m.name

def toJson (m : Member) : Json := .obj [
  ("id", .nat m.id.toNat),
  ("name", .str m.name),
  ("peer_urls", .strs m.peerUrls),
  ("client_urls", .strs m.clientUrls),
  ("is_learner", .bool m.isLearner)]

end Member

end EtcdLocator
