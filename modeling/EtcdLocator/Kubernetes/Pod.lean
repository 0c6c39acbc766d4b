import EtcdLocator.Kubernetes.Response
import EtcdLocator.PodMap

namespace EtcdLocator.Kubernetes

structure Pod where
  name : Option String := none
  nodeName : Option String := none
  phase : Option String := none
deriving DecidableEq, Repr

/-- A field that holds a text, holds nothing or is left out. -/
def optionalText (name : String) (v : Json) : Option (Option String) :=
  match v.field? name with
  | none | some .null => some none
  | some (.str s) => some (some s)
  | some _ => none

def optionalObject (name : String) (v : Json) : Option Json :=
  match v.field? name with
  | none | some .null => some (.obj [])
  | some (.obj fields) => some (.obj fields)
  | some _ => none

/-- Accepts no other kind than the one expected, where the kind is given. -/
def hasKind (kind : String) (v : Json) : Bool :=
  match v.field? "kind" with
  | none => true
  | some (.str s) => s = kind
  | some _ => false

namespace Pod

def ofJson? (v : Json) : Option Pod :=
  match v with
  | .obj _ => do
    if !hasKind "Pod" v then none
    let metadata ← optionalObject "metadata" v
    let spec ← optionalObject "spec" v
    let status ← optionalObject "status" v
    return {
      name := ← optionalText "name" metadata
      nodeName := ← optionalText "nodeName" spec
      phase := ← optionalText "phase" status }
  | _ => none

/-- The pods of a list. The list has to be there, but may be empty. -/
def listOfJson? (v : Json) : Option (List Pod) :=
  match v.field? "items" with
  | some .null => some []
  | some (.arr items) => items.mapM ofJson?
  | _ => none

def proxy? (p : Pod) : Option ProxyPod := do
  return { node := ← p.nodeName, name := ← p.name }

def ofResponse (r : Response) : Except Failure Pod := do
  match ofJson? (← r.document) with
  | some p => .ok p
  | none => .error (.undecodable r.complaint)

def proxiesOfResponse (r : Response) : Except Failure (List ProxyPod) := do
  match listOfJson? (← r.document) with
  | some pods => .ok (pods.filterMap proxy?)
  | none => .error (.undecodable r.complaint)

end Pod

end EtcdLocator.Kubernetes
