import EtcdLocator.Member
import EtcdLocator.Report.Format
import EtcdLocator.Text.Numeral

namespace EtcdLocator.Report

inductive Role where
  | leader
  | learner
  | follower
deriving DecidableEq, Repr

def Role.text : Role → String
  | leader => "leader"
  | learner => "learner"
  | follower => "follower"

structure MemberRow where
  id : String
  name : String
  node : String
  isLeader : Bool
  isLearner : Bool
  clientUrls : List String
deriving DecidableEq, Repr

namespace MemberRow

def ofMember (leaderId : UInt64) (m : Member) : MemberRow where
  id := Text.hex m.id.toNat
  name := m.name
  node := m.nodeName
  isLeader := m.id = leaderId
  isLearner := m.isLearner
  clientUrls := m.clientUrls

/-- A leader is shown as such whatever else it is. -/
def role (r : MemberRow) : Role :=
  if r.isLeader then .leader else if r.isLearner then .learner else .follower

def toJson (r : MemberRow) : Json := .obj [
  ("id", .str r.id),
  ("name", .str r.name),
  ("node", .str r.node),
  ("leader", .bool r.isLeader),
  ("learner", .bool r.isLearner),
  ("client_urls", .strs r.clientUrls)]

end MemberRow

structure Connection where
  pod : String
  leaderId : String
  members : List MemberRow
deriving DecidableEq, Repr

namespace Connection

def ofMembers (pod : String) (leaderId : UInt64) (members : List Member) : Connection where
  pod := pod
  leaderId := Text.hex leaderId.toNat
  members := members.map (MemberRow.ofMember leaderId)

def line (id name node role : String) : String :=
  pad 18 id ++ " " ++ pad 32 name ++ " " ++ pad 24 node ++ " " ++ role ++ "\n"

def rowLine (r : MemberRow) : String := line r.id r.name r.node r.role.text

def text (c : Connection) : String :=
  "pod:       " ++ c.pod ++ "\n" ++
  "leader id: " ++ c.leaderId ++ "\n" ++
  line "ID" "NAME" "NODE" "ROLE" ++
  String.join (c.members.map rowLine)

def toJson (c : Connection) : Json := .obj [
  ("pod", .str c.pod),
  ("leader_id", .str c.leaderId),
  ("members", .arr (c.members.map MemberRow.toJson))]

def render (c : Connection) : Format → String
  | .text => c.text
  | .json => c.toJson.pretty

end Connection

end EtcdLocator.Report
