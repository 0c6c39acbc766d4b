import EtcdLocator.Layout
import EtcdLocator.Tls.Material
import EtcdLocator.Toml.Reader
import EtcdLocator.Failure

namespace EtcdLocator

structure KubernetesSettings where
  kubeconfig : Option String := none
  context : Option String := none
deriving DecidableEq, Repr

structure TlsSettings where
  ca : String
  cert : String
  key : String
  serverName : Option String := none
deriving DecidableEq, Repr

structure EtcdSettings where
  namespaceName : Option String := none
  labelSelector : Option String := none
  port : Option UInt16 := none
  dialTimeout : Option String := none
  callTimeout : Option String := none
deriving DecidableEq, Repr

structure Settings where
  kubernetes : KubernetesSettings := {}
  tls : Option TlsSettings := none
  etcd : EtcdSettings := {}
deriving DecidableEq, Repr

namespace Settings

/-- The values of a section with those fields. A section is a table without other fields, or a list
of the values of all fields in their order, of which any more are ignored. -/
def fieldsOf (names : List String) : Toml → Option (List (String × Toml))
  | .table fields => if fields.all (names.contains ·.1) then some fields else none
  | .arr items => if names.length ≤ items.length then some (names.zip items) else none
  | _ => none

def value? (fields : List (String × Toml)) (name : String) : Option Toml :=
  (fields.find? (·.1 = name)).map (·.2)

def text? (fields : List (String × Toml)) (name : String) : Option (Option String) :=
  match value? fields name with
  | none => some none
  | some (.str s) => some (some s)
  | some _ => none

def port? (fields : List (String × Toml)) (name : String) : Option (Option UInt16) :=
  match value? fields name with
  | none => some none
  | some (.int i) => if 0 ≤ i ∧ i < UInt16.size then some (some (UInt16.ofNat i.toNat)) else none
  | some _ => none

def kubernetes? (v : Toml) : Option KubernetesSettings := do
  let fields ← fieldsOf ["kubeconfig", "context"] v
  return {
    kubeconfig := ← text? fields "kubeconfig"
    context := ← text? fields "context" }

def tls? (v : Toml) : Option TlsSettings := do
  let fields ← fieldsOf ["ca", "cert", "key", "server_name"] v
  return {
    ca := ← (← text? fields "ca")
    cert := ← (← text? fields "cert")
    key := ← (← text? fields "key")
    serverName := ← text? fields "server_name" }

def etcd? (v : Toml) : Option EtcdSettings := do
  let fields ← fieldsOf ["namespace", "label_selector", "port", "dial_timeout", "call_timeout"] v
  return {
    namespaceName := ← text? fields "namespace"
    labelSelector := ← text? fields "label_selector"
    port := ← port? fields "port"
    dialTimeout := ← text? fields "dial_timeout"
    callTimeout := ← text? fields "call_timeout" }

def section? {α : Type} (read : Toml → Option α) (fields : List (String × Toml)) (name : String) :
    Option (Option α) :=
  match value? fields name with
  | none => some none
  | some v => (read v).map some

def ofToml? (document : List (String × Toml)) : Option Settings := do
  let fields ← fieldsOf ["kubernetes", "tls", "etcd"] (.table document)
  return {
    kubernetes := (← section? kubernetes? fields "kubernetes").getD {}
    tls := ← section? tls? fields "tls"
    etcd := (← section? etcd? fields "etcd").getD {} }

/-- The settings of a file. Of a text that holds none the reader of TOML has its own complaint. -/
def load (complaint : String → List String) (files : Files) (path : String) :
    Except Cause Settings :=
  match files.readText path with
  | .error fault => .error ⟨"unable to read " ++ path, [fault.text]⟩
  | .ok text =>
    match (Toml.parse? text).bind ofToml? with
    | none => .error ⟨"invalid config file " ++ path, complaint text⟩
    | some settings => .ok settings

/-- The settings of a file, of which the reader of TOML says nothing. -/
def ofFile (files : Files) (path : String) : Except Cause Settings := load (fun _ => []) files path

def timeout (name : String) (usual : Duration) : Option String → Except Cause Duration
  | none => .ok usual
  | some s =>
    match Duration.parse? s with
    | some d => .ok d
    | none => .error ⟨"invalid etcd." ++ name ++ ": " ++ Text.quote s, []⟩

def layout (s : Settings) : Except Cause Layout := do
  let usual : Layout := {}
  let dialTimeout ← timeout "dial_timeout" usual.dialTimeout s.etcd.dialTimeout
  let callTimeout ← timeout "call_timeout" usual.callTimeout s.etcd.callTimeout
  return {
    namespaceName := s.etcd.namespaceName.getD usual.namespaceName
    labelSelector := s.etcd.labelSelector.getD usual.labelSelector
    etcdPort := s.etcd.port.getD usual.etcdPort
    dialTimeout
    callTimeout }

def material (files : Files) (s : Settings) : Except Tls.Failure (Option Tls.Material) :=
  match s.tls with
  | none => .ok none
  | some tls => do
    let m ← Tls.Material.ofFiles files tls.ca tls.cert tls.key
    return some { m with serverName := tls.serverName }

end Settings

end EtcdLocator
