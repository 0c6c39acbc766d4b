import EtcdLocator.Json.Reader
import EtcdLocator.Kubernetes.Failure

namespace EtcdLocator.Kubernetes

structure Response where
  status : Nat := 200
  body : String
  /-- What is said of the body where it cannot be used. -/
  complaint : Cause := ⟨"Error deserializing response", []⟩
deriving DecidableEq, Repr

def phrases : List (Nat × String) := [
  (400, "Bad Request"), (401, "Unauthorized"), (402, "Payment Required"), (403, "Forbidden"),
  (404, "Not Found"), (405, "Method Not Allowed"), (406, "Not Acceptable"),
  (407, "Proxy Authentication Required"), (408, "Request Timeout"), (409, "Conflict"),
  (410, "Gone"), (411, "Length Required"), (412, "Precondition Failed"),
  (413, "Payload Too Large"), (414, "URI Too Long"), (415, "Unsupported Media Type"),
  (416, "Range Not Satisfiable"), (417, "Expectation Failed"), (418, "I'm a teapot"),
  (421, "Misdirected Request"), (422, "Unprocessable Entity"), (423, "Locked"),
  (424, "Failed Dependency"), (425, "Too Early"), (426, "Upgrade Required"),
  (428, "Precondition Required"), (429, "Too Many Requests"),
  (431, "Request Header Fields Too Large"), (451, "Unavailable For Legal Reasons"),
  (500, "Internal Server Error"), (501, "Not Implemented"), (502, "Bad Gateway"),
  (503, "Service Unavailable"), (504, "Gateway Timeout"), (505, "HTTP Version Not Supported"),
  (506, "Variant Also Negotiates"), (507, "Insufficient Storage"), (508, "Loop Detected"),
  (510, "Not Extended"), (511, "Network Authentication Required")]

def phrase (code : Nat) : String :=
  ((phrases.find? (·.1 = code)).map (·.2)).getD "<unknown status code>"

def textField (name : String) (v : Json) : Option String :=
  match v.field? name with
  | none => some ""
  | some (.str s) => some s
  | some _ => none

def Status.ofJson? (v : Json) : Option Status :=
  match v.field? "status", v.field? "code" with
  | some (.str status), some (.num ⟨.ofNat code, 0⟩) => do
    let message ← textField "message" v
    let reason ← textField "reason" v
    if code < UInt16.size then some { status, message, reason, code } else none
  | _, _ => none

namespace Response

/-- The status of a refusal, made up where the body spells none. -/
def refusal (r : Response) : Status :=
  ((Json.parse? r.body).bind Status.ofJson?).getD {
    status := Text.decimal r.status ++ " " ++ phrase r.status
    message := Text.quote r.body
    reason := "Failed to parse error data"
    code := r.status }

def document (r : Response) : Except Failure Json :=
  if 400 ≤ r.status then .error (.refused r.refusal)
  else
    match Json.parse? r.body with
    | some v => .ok v
    | none => .error (.undecodable r.complaint)

end Response

end EtcdLocator.Kubernetes
