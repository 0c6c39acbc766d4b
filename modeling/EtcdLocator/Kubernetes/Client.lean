import EtcdLocator.Kubernetes.Access
import EtcdLocator.Kubernetes.Credentials
import EtcdLocator.Network
import EtcdLocator.Tls.Identity

namespace EtcdLocator.Kubernetes

inductive ClientFault where
  /-- There is no way through the proxy. -/
  | proxy (url : Url)
  | credentials (fault : Credentials.Fault)
  | tls (fault : Tls.Misfit)
  | header
deriving DecidableEq, Repr

def headerComplaint : String := "failed to parse header value"

/-- Puts a label before the message of a cause, and the cause beneath it. -/
def labelled (label : String) (c : Cause) : Cause := ⟨label ++ c.brief, c.chain⟩

def ClientFault.cause : ClientFault → Cause
  | proxy url =>
    let trouble := match url.scheme with
      | some "http" => "requires the disabled feature \"kube/http-proxy\""
      | some "socks5" => "requires the disabled feature \"kube/socks5\""
      | _ => "uses an unsupported protocol"
    ⟨"configured proxy " ++ url.text ++ " " ++ trouble, []⟩
  | credentials fault => labelled "auth error: " fault.cause
  | tls fault => labelled "rustls tls error: " fault.cause
  | header => labelled "HttpError: " ⟨headerComplaint, []⟩

structure Client where
  server : Url
  credentials : Credentials

namespace Access

/-- The certificate and key of the user, unless one of them cannot be had. -/
def identity (a : Access) (files : Files) : Option (List UInt8) :=
  match a.user.certificate.load files, a.user.key.load files with
  | .ok certificate, .ok key => some (key ++ certificate)
  | _, _ => none

/-- Checks all that a client needs to speak TLS, which it does not have to. -/
def checkTls (a : Access) (files : Files) : Except Tls.Misfit Unit := do
  a.roots.forM Tls.checkRoots
  (a.identity files).forM Tls.checkIdentity
  a.serverName.forM Tls.checkName

/-- The client for a server. Nothing is sent yet. -/
def client (a : Access) (files : Files) : Except ClientFault Client := do
  a.proxy.forM fun url => .error (.proxy url)
  let credentials ← (Credentials.ofUser files a.user).mapError .credentials
  (a.checkTls files).mapError .tls
  let impersonation := a.user.impersonated.toList ++ a.user.groups
  if impersonation.all Credentials.isHeaderValue then
    return { server := a.server, credentials }
  else .error .header

end Access

namespace Client

def obstacle (c : Client) : Option Cause :=
  if !c.credentials.isUsable then
    some ⟨"invalid bearer token: " ++ headerComplaint, [headerComplaint]⟩
  else
    match c.server.scheme with
    | none => some ⟨"client error (UserAbsoluteUriRequired)", []⟩
    | some "http" | some "https" => none
    | some scheme => some ⟨"client error (Connect)", ["unsupported scheme " ++ scheme]⟩

/-- What a request meets with where nobody is there to look up a name. -/
def nameless : Cause :=
  ⟨"client error (Connect)", ["dns error",
    "failed to lookup address information: Temporary failure in name resolution"]⟩

def knowsHost (c : Client) : Bool := Host.isAddress c.server.host || c.server.host = "localhost"

/-- The network as the client meets it where no name is looked up. -/
def network (c : Client) (n : Network) : Network :=
  match c.obstacle, n with
  | some cause, _ => .unreachable cause
  | none, .unreachable cause => .unreachable (if c.knowsHost then cause else nameless)
  | none, .serving cluster => .serving cluster

end Client

end EtcdLocator.Kubernetes
