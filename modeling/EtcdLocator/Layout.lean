import EtcdLocator.Duration

namespace EtcdLocator

structure Target where
  namespaceName : String := "kube-system"
  port : UInt16 := 2379
deriving DecidableEq, Repr

structure Layout where
  namespaceName : String := "kube-system"
  /-- Selects the proxy pods by their labels. -/
  labelSelector : String := "app=etcd-proxy"
  etcdPort : UInt16 := 2379
  /-- How long one connection may take to come about. -/
  dialTimeout : Duration := ⟨10000⟩
  /-- How long one call to a member may take. -/
  callTimeout : Duration := ⟨15000⟩
deriving DecidableEq, Repr

namespace Layout

def withNamespace (l : Layout) (name : String) : Layout := { l with namespaceName := name }

def withLabelSelector (l : Layout) (selector : String) : Layout :=
  { l with labelSelector := selector }

def withEtcdPort (l : Layout) (port : UInt16) : Layout := { l with etcdPort := port }

def withTimeouts (l : Layout) (dial call : Duration) : Layout :=
  { l with dialTimeout := dial, callTimeout := call }

def target (l : Layout) : Target := ⟨l.namespaceName, l.etcdPort⟩

end Layout

end EtcdLocator
