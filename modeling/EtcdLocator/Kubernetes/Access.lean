import EtcdLocator.Kubernetes.Kubeconfig.Files

namespace EtcdLocator.Kubernetes

structure Access where
  server : Url
  /-- The certificates that are trusted, unless it is those of the system. -/
  roots : Option (List (List UInt8)) := none
  proxy : Option Url := none
  serverName : Option String := none
  user : User := {}

namespace Kubeconfig

def loadAuthority (files : Files) (s : Source) : Except Fault (Option (List UInt8)) :=
  if s.isEmpty then .ok none else ((s.load files).mapError .authority).map some

def proxyOf (url : Option String) : Except Fault (Option Url) :=
  match url with
  | none | some "" => .ok none
  | some url => ((Url.parse url).mapError .proxy).map some

/-- The way to the cluster of a context, which is the current one unless it is named. A user that is
not there counts as one without credentials. -/
def access (k : Kubeconfig) (files : Files) (context : Option String) : Except Fault Access := do
  let some name := context <|> k.currentContext | .error .noCurrentContext
  let some context := entry k.contexts name | .error (.noContext name)
  let some cluster := entry k.clusters context.cluster | .error (.noCluster context.cluster)
  let user := (context.user.bind (entry k.users)).getD {}
  if user.plugin.any (·.wantsCluster) then
    let _ ← loadAuthority files cluster.authority
  let some url := cluster.server | .error .noServer
  let server ← (Url.parse url).mapError .server
  let roots ← match ← loadAuthority files cluster.authority with
    | none => pure none
    | some bundle => ((Tls.Bundle.certificates bundle).mapError .certificates).map some
  return {
    server, roots, user
    proxy := ← proxyOf cluster.proxy
    serverName := cluster.serverName }

end Kubeconfig

end EtcdLocator.Kubernetes
