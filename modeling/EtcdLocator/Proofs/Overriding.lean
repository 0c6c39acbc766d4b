import EtcdLocator.Proofs.Invocations

namespace EtcdLocator

variable {config : Option String} {words : List String} {files : Files} {file s : Settings}

/-- An option that is given counts, and else the file does. -/
inductive Prevails {α : Type} : Option α → Option α → Option α → Prop
  | flag (v : α) {inFile} : Prevails (some v) inFile (some v)
  | file {inFile} : Prevails none inFile inFile

theorem prevails_iff {α : Type} {given inFile value : Option α} :
    Prevails given inFile value ↔ value = (given <|> inFile) := by
  constructor
  · rintro (⟨v⟩ | _) <;> rfl
  · rintro rfl
    cases given with
    | none => exact .file
    | some v => exact .flag v

inductive Timeout where
  | dial
  | call
deriving DecidableEq

namespace Timeout

def name : Timeout → String
  | dial => "dial_timeout"
  | call => "call_timeout"

def given (i : CommandLine.Invocation) : Timeout → Option String
  | dial => i.dialTimeout
  | call => i.callTimeout

def setting (s : EtcdSettings) : Timeout → Option String
  | dial => s.dialTimeout
  | call => s.callTimeout

def length (l : Layout) : Timeout → Duration
  | dial => l.dialTimeout
  | call => l.callTimeout

def complaint (t : Timeout) (text : String) : Cause :=
  ⟨"invalid etcd." ++ t.name ++ ": " ++ Text.quote text, []⟩

end Timeout

def Malformed (setting : Option String) (text : String) : Prop :=
  setting = some text ∧ Duration.parse? text = none

namespace Settings

end Settings

namespace Settings

end Settings

namespace CommandLine

variable {complaint : String → List String} {i : Invocation}

/-- Paths that are given leave nothing of the TLS section of the file. Without them it stays, but
for a server name that is given. -/
inductive PrevailsTls (i : Invocation) : Option TlsSettings → Option TlsSettings → Prop
  | given {inFile ca cert key} (hca : i.ca = some ca) (hcert : i.cert = some cert)
      (hkey : i.key = some key) :
      PrevailsTls i inFile (some { ca, cert, key, serverName := i.serverName })
  | file {t name} (hca : i.ca = none) (hcert : i.cert = none) (hkey : i.key = none)
      (hname : Prevails i.serverName t.serverName name) :
      PrevailsTls i (some t) (some { t with serverName := name })
  | absent (hca : i.ca = none) (hcert : i.cert = none) (hkey : i.key = none) :
      PrevailsTls i none none

/-- What is said where the file that an invocation names has no settings. -/
inductive Invocation.Unloaded (complaint : String → List String) (files : Files) (i : Invocation) :
    Cause → Prop
  | unread {path fault} (hc : i.config = some path) (h : files.readText path = .error fault) :
      i.Unloaded complaint files ⟨"unable to read " ++ path, [fault.text]⟩
  | invalid {path text} (hc : i.config = some path) (ht : files.readText path = .ok text)
      (h : (Toml.parse? text).bind Settings.ofToml? = none) :
      i.Unloaded complaint files ⟨"invalid config file " ++ path, complaint text⟩

theorem tls_of_given {ca cert key : String} (hca : i.ca = some ca) (hcert : i.cert = some cert)
    (hkey : i.key = some key) (inFile : Option TlsSettings) :
    i.tls inFile = some { ca, cert, key, serverName := i.serverName } := by
  cases hname : i.serverName <;> simp [Invocation.tls, hca, hcert, hkey, hname]

theorem tls_of_none (hca : i.ca = none) (inFile : Option TlsSettings) :
    i.tls inFile =
      inFile.map fun t => { t with serverName := i.serverName <|> t.serverName } := by
  cases hname : i.serverName <;> simp [Invocation.tls, hca, hname]

theorem prevailsTls_tls {given : List (String × String)} {name : String} {more : List String}
    (hr : Reading config words i given name more) (inFile : Option TlsSettings) :
    PrevailsTls i inFile (i.tls inFile) := by
  rcases hr.paths with ⟨ca, cert, key, hca, hcert, hkey⟩ | ⟨hca, hcert, hkey⟩
  · rw [tls_of_given hca hcert hkey]
    exact .given hca hcert hkey
  · rw [tls_of_none hca]
    cases inFile with
    | none => exact .absent hca hcert hkey
    | some t => exact .file hca hcert hkey (prevails_iff.2 rfl)

end CommandLine

end EtcdLocator
