import EtcdLocator.Failure
import EtcdLocator.Files
import EtcdLocator.Kubernetes.Kubeconfig.Basic

namespace EtcdLocator.Kubernetes

inductive Credentials where
  | anonymous
  | password (username password : String)
  | token (token : String)
  /-- A token from a file, which is judged only when it is used. -/
  | tokenFile (token : String)
deriving DecidableEq, Repr

namespace Credentials

inductive Fault where
  | refused (reason : String)
  | unreadable (path : String) (fault : ReadFault)
  | noCommand
  /-- No program of that name can be run. -/
  | notStarted
deriving DecidableEq, Repr

def Fault.cause : Fault → Cause
  | refused reason => ⟨"failed exec auth: " ++ reason, []⟩
  | unreadable path fault =>
    ⟨"failed to read token file '" ++ Text.quote path ++ "': " ++ fault.text, [fault.text]⟩
  | noCommand => ⟨"command must be specified to use exec authentication plugin", []⟩
  | notStarted =>
    let reason := ReadFault.notFound.text
    ⟨"unable to run auth exec: " ++ reason, [reason]⟩

/-- The token that a service handed out before. No program is started for a new one. -/
def ofProvider (p : Provider) : Except Fault Credentials :=
  match p.name, p.settings.lookup "id-token", p.settings.lookup "cmd-path" with
  | "oidc", some known, _ | "gcp", some known, _ => .ok (.token known)
  | "oidc", none, _ => .error (.refused "No id-token for oidc Authentication provider")
  | "gcp", none, some command =>
    .error (.refused ("Executing " ++ command ++ " failed: Os \x7b code: 2, kind: NotFound, " ++
      "message: \"No such file or directory\" \x7d"))
  | name, _, _ => .error (.refused ("Authentication with provider " ++ name ++ " not supported"))

/-- A service comes first, then a password, a token, the file of one, and a plugin, which cannot be
started. -/
def ofUser (files : Files) (u : User) : Except Fault Credentials :=
  match u.provider, u.username, u.password, u.token, u.tokenFile, u.plugin with
  | some p, _, _, _, _, _ => ofProvider p
  | _, some name, some secret, _, _, _ => .ok (.password name secret)
  | _, _, _, some known, _, _ => .ok (.token known)
  | _, _, _, _, some path, _ => do
    return .tokenFile (← (files.readText path).mapError (.unreadable path))
  | _, _, _, _, _, some plugin =>
    if plugin.command.isNone then .error .noCommand else .error .notStarted
  | _, _, _, _, _, none => .ok .anonymous

def isHeaderValue (s : String) : Bool :=
  s.toList.all fun c => c = '\t' || (0x20 ≤ c.toNat && c.toNat ≠ 0x7f)

/-- Whether requests can be made with them. All but a token from a file are known to be fit. -/
def isUsable : Credentials → Bool
  | tokenFile known => isHeaderValue known
  | _ => true

end Credentials

end EtcdLocator.Kubernetes
