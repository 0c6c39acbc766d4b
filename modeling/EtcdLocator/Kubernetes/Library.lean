import EtcdLocator.Network

namespace EtcdLocator.Kubernetes

namespace Library

/-- A configuration, by the client that it makes, which is known by the network as it meets it. -/
abbrev Config := Except Cause (Network → Network)

/-- A kubeconfig, by the configuration that it gives for a context. -/
abbrev Kubeconfig := Option String → Except Cause Config

end Library

/-- What makes clients for API servers. It is no part of this program, and sends no request. -/
structure Library where
  readFrom : String → Except Cause Library.Kubeconfig
  /-- The configuration for a context of the usual kubeconfig files. -/
  ofUsualFiles : String → Except Cause Library.Config
  /-- The configuration where nothing is said of one. -/
  infer : Except Cause Library.Config

end EtcdLocator.Kubernetes
