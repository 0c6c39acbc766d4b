import EtcdLocator.CommandLine.Override
import EtcdLocator.Connector
import EtcdLocator.Kubernetes.Outside
import EtcdLocator.Locator.Inspection
import EtcdLocator.Report.Pods

namespace EtcdLocator.Program

open CommandLine (Invocation Rejection)

structure Surroundings where
  files : Files
  network : Network
  /-- The path of the configuration file, unless the command line names one. -/
  config : Option String := none
  /-- The paths of the kubeconfig files, with colons between them. -/
  kubeconfig : Option String := none
  home : Option String := none
  /-- What makes the client. The usual one is a stand-in. -/
  library : Kubernetes.Library := .outside files kubeconfig home
  /-- What a reader of TOML says of a text that holds no settings. -/
  complaint : String → List String := fun _ => []

def Surroundings.settings (around : Surroundings) (i : Invocation) : Except Cause Settings :=
  i.load around.complaint around.files

def causeOfTls (f : Tls.Failure) : Cause := ⟨f.message, f.sources⟩

def causeOfFailure (f : Failure) : Cause := ⟨f.message, f.sources⟩

def configuration (library : Kubernetes.Library) (s : KubernetesSettings) :
    Except Cause Kubernetes.Library.Config :=
  match s.kubeconfig, s.context with
  | some path, context => do
    let kubeconfig ← (library.readFrom path).mapError
      (·.context ("unable to read kubeconfig " ++ path))
    kubeconfig context
  | none, some context => library.ofUsualFiles context
  | none, none => library.infer

def client (library : Kubernetes.Library) (s : KubernetesSettings) :
    Except Cause (Network → Network) := do
  let config ← configuration library s
  config.mapError (·.context "unable to create client to target cluster")

structure Setup where
  connector : Connector
  /-- The network as the client meets it. -/
  network : Network

/-- Everything that is settled before the first request. -/
def prepare (around : Surroundings) (i : Invocation) : Except Cause Setup := do
  let settings ← around.settings i
  let layout ← settings.layout
  let tls ← (settings.material around.files).mapError causeOfTls
  let client ← client around.library settings.kubernetes
  return { connector := { layout, tls }, network := client around.network }

abbrev State := Locator Site Connector.Connection

def finish (b : Backend Site Connector.Connection) (purpose : String) (format : Report.Format) :
    Except Failure Connector.Connection × State → Except Cause String × State
  | (.error f, l) => (.error ((causeOfFailure f).context purpose), l)
  | (.ok c, l) =>
    let (report, l) := l.inspect b c
    (report.map (·.render format), l)

def perform (k : Connector) (i : Invocation) (l : State) : Except Cause String × State :=
  match i.command with
  | .leader nodes =>
    finish k.backend "unable to connect to the etcd leader" i.output (l.leader k.backend nodes)
  | .firstAvailable nodes =>
    finish k.backend "unable to connect to an etcd member" i.output
      (l.firstAvailable k.backend nodes)
  | .pods =>
    match l.proxyPods k.backend with
    | (.error f, l) => (.error (causeOfFailure f), l)
    | (.ok pods, l) => (.ok ((⟨pods⟩ : Report.Pods).render i.output), l)

def run (around : Surroundings) (i : Invocation) : Except Cause String × State :=
  match prepare around i with
  | .error cause => (.error cause, .start { network := around.network })
  | .ok setup => perform setup.connector i (.start { network := setup.network })

structure Outcome where
  exitCode : UInt32
  output : String := ""
  error : Option Cause := none

def version : String := "kthrees-etcdctl 0.1.0\n"

def usage : String :=
  "Locate and inspect etcd members behind etcd-proxy pods\n\n" ++
  "Usage: kthrees-etcdctl [OPTIONS] <COMMAND>\n\n" ++
  "Commands:\n" ++
  "  leader           Connect to the etcd leader and list members\n" ++
  "  first-available  Connect to the first reachable etcd member and list members\n" ++
  "  pods             List the etcd-proxy pods by node\n" ++
  "  help             Print this message or the help of the given subcommand(s)\n"

def printed : Rejection → String
  | .displayHelp => usage
  | .displayVersion => version
  | _ => ""

/-- Runs the program on the words after its name. A command that succeeds prints its whole report,
and one that fails prints nothing. -/
def call (around : Surroundings) (words : List String) : Outcome :=
  match CommandLine.parse around.config words with
  | .error r => { exitCode := r.exitCode, output := printed r }
  | .ok i =>
    match Duration.parse? i.timeout with
    | none => { exitCode := 1, error := some ⟨"invalid --timeout: " ++ Text.quote i.timeout, []⟩ }
    | some _ =>
      match (run around i).1 with
      | .error cause => { exitCode := 1, error := some cause }
      | .ok output => { exitCode := 0, output }

end EtcdLocator.Program
