import EtcdLocator.Kubernetes.Client
import EtcdLocator.Kubernetes.Library

namespace EtcdLocator.Kubernetes

/-- No cluster runs the host, so that leaves the files, whose fault is told. -/
def inference (fault : Kubeconfig.Fault) : Cause :=
  let cause := fault.cause
  ⟨"failed to infer config: in-cluster: (failed to read an incluster environment variable: " ++
    "environment variable not found), kubeconfig: (" ++ cause.brief ++ ")", cause.chain⟩

namespace Library

def configured (files : Files) (a : Access) : Config :=
  ((a.client files).mapError (·.cause)).map (·.network)

/-- A stand-in for a host in no cluster, with kubeconfigs in flow style, on which no plugin can be
started and no name looked up. -/
def outside (files : Files) (kubeconfig home : Option String) : Library :=
  let usual (context : Option String) : Except Kubeconfig.Fault Access :=
    (Kubeconfig.ofUsualFiles files kubeconfig home).bind (·.access files context)
  { readFrom := fun path =>
      ((Kubeconfig.ofFile files path).mapError (·.cause)).map fun k context =>
        ((k.access files context).mapError (·.cause)).map (configured files)
    ofUsualFiles := fun context =>
      ((usual (some context)).mapError (·.cause)).map (configured files)
    infer := ((usual none).mapError inference).map (configured files) }

end Library

end EtcdLocator.Kubernetes
