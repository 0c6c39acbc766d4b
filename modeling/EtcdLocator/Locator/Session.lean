import EtcdLocator.Locator.Inspection

namespace EtcdLocator

/-- A request. A name of `""` keeps nothing. -/
inductive Operation (σ : Type) where
  | leader (nodes : List String) (name : String)
  | firstAvailable (nodes : List String) (name : String)
  | members (name : String)
  | report (name : String) (format : Report.Format)
  | close (name : String)
  | drop (name : String)
  | ensure
  | proxyPods
  | refresh
  | invalidate
  | resolve (node : String)
  /-- The cluster changes by itself. -/
  | alter (change : σ → σ)

inductive Answer (κ : Type) where
  | connected (connection : κ)
  | members (members : List Member)
  | report (text : String)
  | pods (pods : List ProxyPod)
  | pod (name : String)
  | done
  /-- No connection is kept under the name. -/
  | notHeld
  | failed (failure : Failure)
  | queryFailed (cause : Cause)

/-- A locator and the connections kept by their names, each name once. -/
structure Session (σ κ : Type) where
  locator : Locator σ κ
  held : List (String × κ) := []

namespace Session

variable {σ κ : Type} (b : Backend σ κ)

def start (state : σ) : Session σ κ := { locator := .start state }

def held? (s : Session σ κ) (name : String) : Option κ :=
  (s.held.find? (·.1 = name)).map (·.2)

def events (s : Session σ κ) : List (Event κ) := s.locator.world.events

def onWorld (s : Session σ κ) (f : World σ κ → World σ κ) : Session σ κ :=
  { s with locator := { s.locator with world := f s.locator.world } }

def forget (s : Session σ κ) (name : String) : Session σ κ :=
  { s with held := s.held.filter (·.1 ≠ name) }

def dropHeld (s : Session σ κ) (name : String) : Session σ κ :=
  match s.held? name with
  | none => s
  | some c => (s.forget name).onWorld (·.drop b c)

/-- Keeps a connection under a name, in place of one that was kept there before. -/
def keep (s : Session σ κ) (name : String) (c : κ) : Session σ κ :=
  if name = "" then s.onWorld (·.drop b c)
  else
    let s := s.dropHeld b name
    { s with held := (name, c) :: s.held }

def settle (s : Session σ κ) (name : String) :
    Except Failure κ × Locator σ κ → Answer κ × Session σ κ
  | (.ok c, locator) => (.connected c, { s with locator }.keep b name c)
  | (.error f, locator) => (.failed f, { s with locator })

def ask (s : Session σ κ) (c : κ) : Except Cause (List Member) × Session σ κ :=
  let (answer, world) := s.locator.world.members b c
  (answer, { s with locator := { s.locator with world } })

def step (s : Session σ κ) : Operation σ → Answer κ × Session σ κ
  | .leader nodes name => s.settle b name (s.locator.leader b nodes)
  | .firstAvailable nodes name => s.settle b name (s.locator.firstAvailable b nodes)
  | .members name =>
    match s.held? name with
    | none => (.notHeld, s)
    | some c =>
      match s.ask b c with
      | (.ok members, s) => (.members members, s)
      | (.error cause, s) => (.queryFailed cause, s)
  | .report name format =>
    match s.held? name with
    | none => (.notHeld, s)
    | some c =>
      match s.locator.inspect b c with
      | (.error cause, locator) => (.queryFailed cause, { s.forget name with locator })
      | (.ok report, locator) => (.report (report.render format), { s.forget name with locator })
  | .close name =>
    match s.held? name with
    | none => (.notHeld, s)
    | some c => (.done, (s.forget name).onWorld (·.close b c))
  | .drop name =>
    match s.held? name with
    | none => (.notHeld, s)
    | some _ => (.done, s.dropHeld b name)
  | .ensure =>
    match s.locator.ensure b with
    | (.ok (), locator) => (.done, { s with locator })
    | (.error f, locator) => (.failed f, { s with locator })
  | .proxyPods =>
    match s.locator.proxyPods b with
    | (.ok pods, locator) => (.pods pods, { s with locator })
    | (.error f, locator) => (.failed f, { s with locator })
  | .refresh =>
    match s.locator.refresh b with
    | (.ok (), locator) => (.done, { s with locator })
    | (.error f, locator) => (.failed f, { s with locator })
  | .invalidate => (.done, { s with locator := s.locator.invalidate })
  | .resolve node =>
    match s.locator.resolve node with
    | .ok pod => (.pod pod, s)
    | .error f => (.failed f, s)
  | .alter change => (.done, s.onWorld fun w => { w with state := change w.state })

def run (s : Session σ κ) : List (Operation σ) → List (Answer κ × Session σ κ)
  | [] => []
  | o :: os =>
    let r := s.step b o
    r :: run r.2 os

def listings (s : Session σ κ) : Nat := s.events.countP Event.isListed

def opened (s : Session σ κ) : Nat := s.events.countP Event.isOpened

def closed (s : Session σ κ) : Nat := s.events.countP Event.isClosed

def dropped (s : Session σ κ) : Nat := s.events.countP Event.isDropped

def dialled (s : Session σ κ) : List String := s.events.filterMap Event.dialled?

end Session

end EtcdLocator
