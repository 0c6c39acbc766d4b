import EtcdLocator.Program
import EtcdLocator.Proofs.Overriding

namespace EtcdLocator

namespace Tls

def Part.check : Part → List UInt8 → Except Failure Unit
  | caBundle, content => checkCertificates .caBundle false (Pem.read content)
  | clientCertificate, content => checkCertificates .clientCertificate false (Pem.read content)
  | clientKey, content => checkKey (Pem.read content)

def Material.Unread (files : Files) (path : Part → String) (part : Part) (f : Failure) : Prop :=
  ∃ fault, files (path part) = .error fault ∧ f = .unreadable (path part) fault

theorem Material.readPart_eq_error_iff {files : Files} (path : Part → String) {part : Part}
    {f : Failure} : readPart files (path part) = .error f ↔ Unread files path part f := by
  rw [readPart, mapError_eq_error_iff]
  constructor
  · rintro ⟨fault, h, rfl⟩
    exact ⟨fault, h, rfl⟩
  · rintro ⟨fault, h, rfl⟩
    exact ⟨fault, h, rfl⟩

end Tls

def TlsSettings.path (t : TlsSettings) : Tls.Part → String
  | .caBundle => t.ca
  | .clientCertificate => t.cert
  | .clientKey => t.key

namespace Report

end Report

namespace Program

open CommandLine (Invocation Command)

inductive Stage where
  | deadline
  | settings
  | timeout (t : Timeout)
  | reading (part : Tls.Part)
  | checking (part : Tls.Part)
  | client
  /-- Finding a member, or listing the pods. -/
  | resolution
  /-- Asking the member for all members. -/
  | query
deriving DecidableEq

namespace Stage

def material : List Stage := [
  .reading .caBundle, .reading .clientCertificate, .reading .clientKey,
  .checking .caBundle, .checking .clientCertificate, .checking .clientKey]

def setup : List Stage :=
  [.settings, .timeout .dial, .timeout .call] ++ material ++ [.client]

/-- The stages that may not take longer than the deadline. -/
def running : List Stage := setup ++ [.resolution, .query]

def all : List Stage := .deadline :: running

end Stage

inductive MaterialFails (files : Files) (t : TlsSettings) : Stage → Tls.Failure → Prop
  | reading {part f} (h : Tls.Material.Unread files t.path part f) :
      MaterialFails files t (.reading part) f
  | checking {part content f} (hc : files (t.path part) = .ok content)
      (h : part.check content = .error f) : MaterialFails files t (.checking part) f

section Material

variable {files : Files} {t : TlsSettings}

end Material

section Client

open Kubernetes (Library)

/-- What comes of asking for the configuration that settings name. -/
inductive Configured (library : Library) (s : KubernetesSettings) :
    Except Cause Library.Config → Prop
  | named {path kubeconfig} (hs : s.kubeconfig = some path)
      (h : library.readFrom path = .ok kubeconfig) : Configured library s (kubeconfig s.context)
  | usual {context} (hs : s.kubeconfig = none) (hc : s.context = some context) :
      Configured library s (library.ofUsualFiles context)
  | inferred (hs : s.kubeconfig = none) (hc : s.context = none) :
      Configured library s library.infer

/-- Why there is no client. What the library says of a configuration is told as it stands. -/
inductive ClientFails (library : Library) (s : KubernetesSettings) : Cause → Prop
  | unread {path cause} (hs : s.kubeconfig = some path) (h : library.readFrom path = .error cause) :
      ClientFails library s (cause.context ("unable to read kubeconfig " ++ path))
  | unconfigured {cause} (h : Configured library s (.error cause)) : ClientFails library s cause
  | unmade {cause} (h : Configured library s (.ok (.error cause))) :
      ClientFails library s (cause.context "unable to create client to target cluster")

variable {library : Library} {s : KubernetesSettings}

end Client

inductive Found where
  | connection (c : Connector.Connection)
  | pods (pods : List ProxyPod)

namespace Setup

def backend (s : Setup) : Backend Site Connector.Connection := s.connector.backend

def start (s : Setup) : State := .start { network := s.network }

def resolve (s : Setup) : Command → Except Failure Found × State
  | .leader nodes =>
    let (outcome, l) := s.start.leader s.backend nodes
    (outcome.map .connection, l)
  | .firstAvailable nodes =>
    let (outcome, l) := s.start.firstAvailable s.backend nodes
    (outcome.map .connection, l)
  | .pods =>
    let (outcome, l) := s.start.proxyPods s.backend
    (outcome.map .pods, l)

def report (s : Setup) (format : Report.Format) : Found → State → Except Cause String
  | .connection c, l => (l.inspect s.backend c).1.map (·.render format)
  | .pods pods, _ => .ok ((⟨pods⟩ : Report.Pods).render format)

end Setup

def told : Command → Failure → Cause
  | .leader _, f => (causeOfFailure f).context "unable to connect to the etcd leader"
  | .firstAvailable _, f => (causeOfFailure f).context "unable to connect to an etcd member"
  | .pods, f => causeOfFailure f

variable {around : Surroundings} {i : Invocation}

/-- What is wrong at a stage, whatever is wrong at others. A stage fails on what stages before it
give, so that it cannot where they do not. -/
inductive Fails (around : Surroundings) (i : Invocation) : Stage → Cause → Prop
  | deadline (h : Duration.parse? i.timeout = none) :
      Fails around i .deadline ⟨"invalid --timeout: " ++ Text.quote i.timeout, []⟩
  | settings {cause} (h : i.Unloaded around.complaint around.files cause) :
      Fails around i .settings cause
  | timeout {s} {t : Timeout} {text} (hs : around.settings i = .ok s)
      (h : Malformed (t.setting s.etcd) text) : Fails around i (.timeout t) (t.complaint text)
  | material {s t stage f} (hs : around.settings i = .ok s) (ht : s.tls = some t)
      (h : MaterialFails around.files t stage f) : Fails around i stage (causeOfTls f)
  | client {s cause} (hs : around.settings i = .ok s)
      (h : ClientFails around.library s.kubernetes cause) : Fails around i .client cause
  | resolution {setup f} (hp : prepare around i = .ok setup)
      (h : (setup.resolve i.command).1 = .error f) :
      Fails around i .resolution (told i.command f)
  | query {setup c l cause} (hp : prepare around i = .ok setup)
      (h : setup.resolve i.command = (.ok (.connection c), l))
      (hq : (l.world.members setup.backend c).1 = .error cause) : Fails around i .query cause

theorem perform_fst (setup : Setup) :
    (perform setup.connector i setup.start).1 =
      (setup.resolve i.command).1.mapError (told i.command) >>= fun found =>
        setup.report i.output found (setup.resolve i.command).2 := by
  unfold perform Setup.resolve
  cases i.command with
  | leader nodes =>
    dsimp only [Setup.backend]
    rcases setup.start.leader setup.connector.backend nodes with ⟨_ | c, l⟩ <;> rfl
  | firstAvailable nodes =>
    dsimp only [Setup.backend]
    rcases setup.start.firstAvailable setup.connector.backend nodes with ⟨_ | c, l⟩ <;> rfl
  | pods =>
    dsimp only [Setup.backend]
    rcases setup.start.proxyPods setup.connector.backend with ⟨_ | pods, l⟩ <;> rfl

theorem run_fst :
    (run around i).1 =
      prepare around i >>= fun setup => (perform setup.connector i setup.start).1 := by
  unfold run
  cases prepare around i <;> rfl

def Outcome.of : Except Cause String → Outcome
  | .error cause => { exitCode := 1, error := some cause }
  | .ok output => { exitCode := 0, output }

def deadline (i : Invocation) : Except Cause Duration :=
  match Duration.parse? i.timeout with
  | none => .error ⟨"invalid --timeout: " ++ Text.quote i.timeout, []⟩
  | some d => .ok d

end Program

end EtcdLocator
