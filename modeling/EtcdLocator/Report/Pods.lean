import EtcdLocator.PodMap
import EtcdLocator.Report.Format

namespace EtcdLocator.Report

structure Pods where
  pods : List ProxyPod
deriving DecidableEq, Repr

namespace Pods

def line (node pod : String) : String := pad 32 node ++ " " ++ pod ++ "\n"

def text (r : Pods) : String :=
  line "NODE" "POD" ++ String.join (r.pods.map fun p => line p.node p.name)

def podJson (p : ProxyPod) : Json := .obj [("node", .str p.node), ("pod", .str p.name)]

def toJson (r : Pods) : Json := .obj [("pods", .arr (r.pods.map podJson))]

def render (r : Pods) : Format → String
  | .text => r.text
  | .json => r.toJson.pretty

end Pods

end EtcdLocator.Report
