import EtcdLocator.Failure
import EtcdLocator.Files
import EtcdLocator.Kubernetes.Kubeconfig.Reader
import EtcdLocator.Text.Base64
import EtcdLocator.Text.Units
import EtcdLocator.Tls.Bundle
import EtcdLocator.Url

namespace EtcdLocator.Kubernetes

inductive Source.Fault where
  | undecodable (fault : Text.Base64.Fault)
  | unreadable (path : String) (fault : ReadFault)
  | missing
deriving DecidableEq, Repr

namespace Source

def Fault.cause : Fault → Cause
  | undecodable fault => ⟨"failed to decode base64 data: " ++ fault.text, [fault.text]⟩
  | unreadable path fault =>
    ⟨"failed to read file '" ++ Text.quote path ++ "': " ++ fault.text, [fault.text]⟩
  | missing => ⟨"no base64 data or file", []⟩

def isEmpty (s : Source) : Bool := s.data.isNone && s.path.isNone

def endLine (l : List UInt8) : List UInt8 :=
  match l.getLast? with
  | none | some 0x0a => l
  | some _ => l ++ [0x0a]

def load (files : Files) (s : Source) : Except Fault (List UInt8) :=
  match s.data, s.path with
  | some data, _ => ((Text.Base64.decode (Text.bytes data)).mapError .undecodable).map endLine
  | none, some path => ((files path).mapError (.unreadable path)).map endLine
  | none, none => .error .missing

def relativeTo (directory : String) (s : Source) : Source :=
  { s with path := s.path.map (Files.within directory) }

end Source

namespace Kubeconfig

inductive Fault where
  | unreadable (path : String) (fault : ReadFault)
  | misspelled (path : String) (spelling : Text.Spelling)
  /-- The text is no kubeconfig in flow style. -/
  | malformed
  | kindMismatch
  | versionMismatch
  | noHome
  | noCurrentContext
  | noContext (name : String)
  | noCluster (name : String)
  | noServer
  | server (fault : Url.Fault)
  | proxy (fault : Url.Fault)
  | authority (fault : Source.Fault)
  | certificates (fault : Tls.Bundle.Fault)
deriving DecidableEq, Repr

def unreadableCause (path complaint : String) : Cause :=
  ⟨"failed to read kubeconfig from '" ++ Text.quote path ++ "': " ++ complaint, [complaint]⟩

def Fault.cause : Fault → Cause
  | unreadable path fault => unreadableCause path fault.text
  | misspelled path spelling => unreadableCause path spelling.complaint
  | malformed => ⟨"the structure of the parsed kubeconfig is invalid", []⟩
  | kindMismatch => ⟨"kubeconfigs with mismatching kind cannot be merged", []⟩
  | versionMismatch => ⟨"kubeconfigs with mismatching api version cannot be merged", []⟩
  | noHome => ⟨"failed to find the path of kubeconfig", []⟩
  | noCurrentContext => ⟨"failed to determine current context", []⟩
  | noContext name => ⟨"failed to load current context: " ++ name, []⟩
  | noCluster name => ⟨"failed to load the cluster of context: " ++ name, []⟩
  | noServer => ⟨"cluster url is missing on selected cluster", []⟩
  | server fault => ⟨"failed to parse cluster url: " ++ fault.text, [fault.text]⟩
  | proxy fault => ⟨"failed to parse proxy url: " ++ fault.text, [fault.text]⟩
  | authority fault => fault.cause.context "failed to load certificate authority"
  | certificates fault =>
    let messages := fault.messages
    ⟨"failed to parse PEM-encoded certificates: " ++ messages.headD "", messages⟩

def isAtOdds (a b : Option String) : Bool := a.isSome && b.isSome && a ≠ b

def merge (k l : Kubeconfig) : Except Fault Kubeconfig :=
  if isAtOdds k.kind l.kind then .error .kindMismatch
  else if isAtOdds k.version l.version then .error .versionMismatch
  else .ok {
    kind := k.kind <|> l.kind
    version := k.version <|> l.version
    currentContext := k.currentContext <|> l.currentContext
    contexts := k.contexts ++ l.contexts
    clusters := k.clusters ++ l.clusters
    users := k.users ++ l.users }

def relativeTo (directory : String) (k : Kubeconfig) : Kubeconfig :=
  let cluster (c : ClusterEntry) : ClusterEntry :=
    { c with authority := c.authority.relativeTo directory }
  let user (u : User) : User := {
    u with
    certificate := u.certificate.relativeTo directory
    key := u.key.relativeTo directory
    tokenFile := u.tokenFile.map (Files.within directory) }
  { k with clusters := mapEntries cluster k.clusters, users := mapEntries user k.users }

/-- What the file at a path says. A file without any document says nothing. -/
def ofFile (files : Files) (path : String) : Except Fault Kubeconfig := do
  let content ← (files path).mapError (.unreadable path)
  let s ← (Text.ofMarkedBytes content).mapError (.misspelled path)
  match ofText? s with
  | none => .error .malformed
  | some documents => (documents.map (relativeTo (Files.directory path))).foldlM merge {}

def ofFiles (files : Files) : Kubeconfig → List String → Except Fault Kubeconfig
  | k, [] => .ok k
  | k, path :: paths => do
    let l ← ofFile files path
    ofFiles files (← k.merge l) paths

def splitPaths (s : String) : List String := (Text.fieldsOf ':' s).filter (· ≠ "")

/-- The paths looked at: those in `list` if it names any, or else the usual one. -/
def usualPaths (list home : Option String) : List String :=
  match splitPaths (list.getD "") with
  | [] => (home.map (· ++ "/.kube/config")).toList
  | paths => paths

def ofUsualFiles (files : Files) (list home : Option String) : Except Fault Kubeconfig :=
  match usualPaths list home with
  | [] => .error .noHome
  | paths => ofFiles files {} paths

def paths (k : Kubeconfig) : List String :=
  (k.clusters.flatMap fun (_, c) => (c.bind (·.authority.path)).toList) ++
    k.users.flatMap fun (_, u) =>
      (u.map fun u => u.certificate.path.toList ++ u.key.path.toList ++ u.tokenFile.toList).getD []

end Kubeconfig

end EtcdLocator.Kubernetes
