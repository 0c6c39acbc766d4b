namespace EtcdLocator.Kubernetes

structure Plugin where
  command : Option String := none
  /-- Whether it is told about the cluster. -/
  wantsCluster : Bool := false
deriving DecidableEq, Repr

structure Provider where
  name : String
  settings : List (String × String) := []
deriving DecidableEq, Repr

/-- A file, or its content in base64, which comes first. -/
structure Source where
  data : Option String := none
  path : Option String := none
deriving DecidableEq, Repr

structure User where
  username : Option String := none
  password : Option String := none
  token : Option String := none
  tokenFile : Option String := none
  certificate : Source := {}
  key : Source := {}
  /-- The user in whose name requests are made, and the groups. -/
  impersonated : Option String := none
  groups : List String := []
  provider : Option Provider := none
  plugin : Option Plugin := none
deriving DecidableEq, Repr

structure ClusterEntry where
  server : Option String := none
  authority : Source := {}
  proxy : Option String := none
  /-- The name that the certificate of the server has to bear. -/
  serverName : Option String := none
deriving DecidableEq, Repr

structure Context where
  cluster : String
  user : Option String := none
deriving DecidableEq, Repr

/-- Of several entries with one name the first counts. An entry may be empty. -/
structure Kubeconfig where
  kind : Option String := none
  version : Option String := none
  currentContext : Option String := none
  contexts : List (String × Option Context) := []
  clusters : List (String × Option ClusterEntry) := []
  users : List (String × Option User) := []
deriving DecidableEq, Repr

namespace Kubeconfig

def entry {α : Type} (l : List (String × Option α)) (name : String) : Option α :=
  (l.lookup name).join

def mapEntries {α : Type} (f : α → α) (l : List (String × Option α)) : List (String × Option α) :=
  l.map fun (name, entry) => (name, entry.map f)

end Kubeconfig

end EtcdLocator.Kubernetes
