import EtcdLocator.CommandLine.Basic
import EtcdLocator.Settings

namespace EtcdLocator.CommandLine.Invocation

/-- The TLS paths of the command line, or else those of the file. A name given on the command line
goes with either. -/
def tls (i : Invocation) (file : Option TlsSettings) : Option TlsSettings :=
  let paths := match i.ca, i.cert, i.key with
    | some ca, some cert, some key => some { ca, cert, key }
    | _, _, _ => file
  match i.serverName with
  | none => paths
  | some name => paths.map ({ · with serverName := some name })

def override (i : Invocation) (file : Settings) : Settings where
  kubernetes := {
    kubeconfig := i.kubeconfig <|> file.kubernetes.kubeconfig
    context := i.context <|> file.kubernetes.context }
  tls := i.tls file.tls
  etcd := { file.etcd with
    dialTimeout := i.dialTimeout <|> file.etcd.dialTimeout
    callTimeout := i.callTimeout <|> file.etcd.callTimeout }

/-- The settings of the file that is named, if any, with those of the command line on top. -/
def load (complaint : String → List String) (i : Invocation) (files : Files) :
    Except Cause Settings :=
  match i.config with
  | none => .ok (i.override {})
  | some path => (Settings.load complaint files path).map i.override

def settings (i : Invocation) (files : Files) : Except Cause Settings :=
  i.load (fun _ => []) files

end EtcdLocator.CommandLine.Invocation
