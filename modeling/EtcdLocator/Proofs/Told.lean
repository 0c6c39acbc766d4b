import EtcdLocator.Connector
import EtcdLocator.Proofs.History
import EtcdLocator.Proofs.Messages
import EtcdLocator.Proofs.Outcomes
import EtcdLocator.Proofs.Renderings
import EtcdLocator.Proofs.Tunnels

namespace EtcdLocator

open Text (Occurs)

theorem Cause.full_eq (c : Cause) :
    c.full = c.outer ++ String.join (c.inner.map (": " ++ ·)) := Text.intercalate_cons _ _ _

theorem Cause.occurs_full {c : Cause} {m : String} (h : m ∈ c.chain) : Occurs m c.full := by
  rw [full_eq]
  rcases List.mem_cons.1 h with rfl | h
  · exact (Occurs.refl _).append_left _
  · exact (Text.occurs_join_map h ": " fun m => m).append_right c.outer

namespace Failure

/-- A call failed with the cause, and so with the failure. -/
inductive Wraps : Failure → Cause → Prop
  | listing (cause) : Wraps (.listing cause) cause
  | connection (node pod cause) : Wraps (.connection node pod cause) cause
  | memberQuery (node cause) : Wraps (.memberQuery node cause) cause

variable {root f : Failure} {cause : Cause} {m : String}

def Told (root : Failure) : Prop :=
  ∀ f cause, root.Reaches f → f.Wraps cause → ∀ m ∈ cause.chain, Occurs m root.message

/-- All messages of a cause are told but the inner ones of a listing. -/
theorem Wraps.occurs (h : f.Wraps cause) (hm : m ∈ cause.chain) :
    Occurs m f.message ∨ f = .listing cause ∧ m ∈ cause.inner := by
  cases h with
  | listing cause =>
    rcases List.mem_cons.1 hm with rfl | hm
    · exact .inl ((Occurs.refl _).append_right _)
    · exact .inr ⟨rfl, hm⟩
  | connection node pod cause =>
    exact .inl ((Cause.occurs_full hm).append_right _)
  | memberQuery node cause =>
    exact .inl ((Cause.occurs_full hm).append_right _)

theorem Reaches.occurs_cause (hr : root.Reaches f) (hw : f.Wraps cause) (hm : m ∈ cause.chain) :
    Occurs m root.message ∨ f = .listing cause ∧ m ∈ cause.inner :=
  (hw.occurs hm).imp_left fun ho => ho.trans hr.occurs

/-- Only what is beneath a listing can go untold. -/
theorem told_iff (root : Failure) :
    root.Told ↔
      ∀ cause, root.Reaches (.listing cause) → ∀ m ∈ cause.inner, Occurs m root.message := by
  constructor
  · intro h cause hr m hm
    exact h _ cause hr (.listing cause) m (List.mem_cons_of_mem _ hm)
  · intro h f cause hr hw m hm
    rcases hr.occurs_cause hw hm with ho | ⟨rfl, hinner⟩
    · exact ho
    · exact h cause hr m hinner

/-- The chain of a failure is told but for what is beneath a listing. -/
theorem Reaches.occurs_source : (f : Failure) → root.Reaches f → m ∈ f.sources →
    Occurs m root.message ∨ ∃ cause, root.Reaches (.listing cause) ∧ m ∈ cause.inner
  | .leaderUnreachable leaderId node g, hr, hm => by
    rcases List.mem_cons.1 hm with rfl | hm
    · exact .inl hr.source.occurs
    · exact occurs_source g hr.source hm
  | .listing c, hr, hm => by
    rcases hr.occurs_cause (.listing c) hm with ho | ⟨-, hinner⟩
    · exact .inl ho
    · exact .inr ⟨c, hr, hinner⟩
  | .connection node pod c, hr, hm => by
    rcases hr.occurs_cause (.connection node pod c) hm with ho | ⟨⟨⟩, -⟩
    exact .inl ho
  | .memberQuery node c, hr, hm => by
    rcases hr.occurs_cause (.memberQuery node c) hm with ho | ⟨⟨⟩, -⟩
    exact .inl ho

mutual

/-- Without what is beneath the listings. -/
def pruned : Failure → Failure
  | listing cause => listing ⟨cause.outer, []⟩
  | leaderUnreachable leaderId node source => leaderUnreachable leaderId node (pruned source)
  | noAvailableNode attempts => noAvailableNode (prunedAll attempts)
  | noReachableLeader attempts => noReachableLeader (prunedAll attempts)
  | f => f

def prunedAll : List Failure → List Failure
  | [] => []
  | f :: fs => pruned f :: prunedAll fs

end

mutual

theorem message_pruned : (f : Failure) → f.pruned.message = f.message
  | listing _ => rfl
  | leaderUnreachable _ _ source => congrArg (_ ++ ·) (message_pruned source)
  | noAvailableNode attempts => congrArg (_ ++ summary ·) (messages_prunedAll attempts)
  | noReachableLeader attempts => congrArg (_ ++ summary ·) (messages_prunedAll attempts)
  | invalidArgument _ | noPods | noProxyPod _ | connection .. | memberQuery ..
  | leaderNotInMembers .. | leaderNodeNotCandidate .. => rfl

theorem messages_prunedAll : (fs : List Failure) → messages (prunedAll fs) = messages fs
  | [] => rfl
  | f :: fs => by
    rw [prunedAll, messages, messages, message_pruned f, messages_prunedAll fs]

end

end Failure

namespace Session

variable {σ κ : Type} {b : Backend σ κ} {s : Session σ κ} {o : Operation σ} {cause : Cause}

/-- A request for which the pods could not be listed fails with the cause of that. -/
theorem failed_of_lists (ho : s.lists o = true) (h : (s.locator.world.list b).1 = .error cause) :
    (s.step b o).1 = .failed (.listing cause) := by
  obtain ⟨made, -, heffect⟩ := affects_step b s o
  generalize (s.step b o).1 = answer at heffect
  generalize (s.step b o).2.locator.pods = m at heffect
  cases heffect with
  | forgot => cases ho
  | kept _ hl =>
    rw [ho] at hl
    cases hl
  | built _ _ hp =>
    rw [h] at hp
    cases hp
  | spoiled _ _ hp =>
    rw [h] at hp
    cases hp
    rfl

end Session

namespace Connector

variable {k : Connector} {network : Network} {why : Kubernetes.Failure}

def Fails (k : Connector) (network : Network) (why : Kubernetes.Failure) : Prop :=
  (network.answer (.list k.layout.namespaceName k.layout.labelSelector)).bind
    Kubernetes.Pod.proxiesOfResponse = .error why

def Rejects (k : Connector) (network : Network) (status : Kubernetes.Status) : Prop :=
  ∃ r, network.answer (.list k.layout.namespaceName k.layout.labelSelector) = .ok r ∧
    400 ≤ r.status ∧ r.refusal = status

theorem Rejects.fails {status : Kubernetes.Status} (h : Rejects k network status) :
    Fails k network (.refused status) := by
  obtain ⟨r, hr, hrefused, hstatus⟩ := h
  have hproxies : Kubernetes.Pod.proxiesOfResponse r = .error (.refused status) := by
    rw [Kubernetes.Pod.proxiesOfResponse, Kubernetes.Response.document, if_pos hrefused, hstatus]
    rfl
  rw [Fails, hr]
  exact hproxies

theorem Fails.list_eq (h : Fails k network why) {s : Site} (hs : s.network = network) :
    (k.list s).1 = .error (why.cause.context "pod list request failed") := by
  rw [list, Tunnel.Traffic.send_eq, hs]
  exact mapError_eq_error_iff.2 ⟨why, h, rfl⟩

def unlisted : String := "unable to list etcd-proxy pods in target cluster: pod list request failed"

/-- Why a listing failed is in the chain, and not in the message. -/
theorem Fails.told (h : Fails k network why) {s : Session Site Connection} {o : Operation Site}
    (hs : s.locator.world.state.network = network) (ho : s.lists o = true) :
    ∃ f, (s.step k.backend o).1 = .failed f ∧ f.message = unlisted ∧
      f.sources = "pod list request failed" :: why.cause.chain :=
  ⟨_, Session.failed_of_lists ho (h.list_eq hs), rfl, rfl⟩

end Connector

def Kubernetes.Status.forbidden : Status where
  status := "Failure"
  message := "pods is forbidden"
  reason := "Forbidden"
  code := 403

open Kubernetes.Status (forbidden)

namespace Failure

/-- A failure tells all that it is due to, at any depth, exactly when it tells what is beneath the
listings within it. All else can be read in its message, and what is beneath a listing makes no
difference to that. Where the server gives no pods, all requests for which they are listed fail with
one text, whatever the reason; so they do where it refuses and says why. -/
theorem told_but_for_listings (root : Failure) (k : Connector) (network : Network) :
    (root.Told ↔
      ∀ cause, root.Reaches (.listing cause) → ∀ m ∈ cause.inner, Occurs m root.message) ∧
    (∀ f, root.Reaches f → ∀ cause, f.Wraps cause → ∀ m ∈ cause.chain,
      Occurs m root.message ∨ f = .listing cause ∧ m ∈ cause.inner) ∧
    (∀ f, root.Reaches f → ∀ m ∈ f.sources,
      Occurs m root.message ∨ ∃ cause, root.Reaches (.listing cause) ∧ m ∈ cause.inner) ∧
    root.pruned.message = root.message ∧
    (∀ status, k.Rejects network status → k.Fails network (.refused status)) ∧
    ∀ why, k.Fails network why → ∀ (s : Session Site Connector.Connection) o,
      s.locator.world.state.network = network → s.lists o = true →
      ∃ f, (s.step k.backend o).1 = .failed f ∧ f.message = Connector.unlisted ∧
        f.sources = "pod list request failed" :: why.cause.chain := by
  refine ⟨told_iff root, ?_, ?_, message_pruned root, fun _ => Connector.Rejects.fails, ?_⟩
  · intro f hr cause hw m hm
    exact hr.occurs_cause hw hm
  · intro f hr m hm
    exact hr.occurs_source f hm
  · intro why h s o hs ho
    exact h.told hs ho

/-- The server says that the pods are forbidden, and the request fails without a word of it. What
became of a dial is told at any depth. -/
theorem told_but_for_listings_forbidden :
    let network : Network := .serving {
      respond := fun _ => {
        status := 403
        body := (Json.obj [("status", .str "Failure"), ("message", .str "pods is forbidden"),
          ("reason", .str "Forbidden"), ("code", .num ⟨403, 0⟩)]).compact }
      farEnd := fun _ _ _ => .stalls
      listen := fun _ => .ok 0 }
    let refused : Failure := .connection "a" "etcd-a" ⟨"dial", ["tcp", "refused"]⟩
    let root : Failure := .noReachableLeader [.noPods, .leaderUnreachable 1 "a" refused]
    Connector.Rejects {} network forbidden ∧
      (∃ f, ((Session.start ⟨network, {}⟩).step (Connector.backend {}) .proxyPods).1 = .failed f ∧
        f.message = Connector.unlisted ∧ forbidden.brief ∈ f.sources) ∧
      ¬Occurs forbidden.reason Connector.unlisted ∧
      root.Reaches refused ∧ Occurs "refused" root.message := by
  intro network refused root
  obtain ⟨-, htold, -, -, hfails, hlisting⟩ := told_but_for_listings root {} network
  have hrejects : Connector.Rejects {} network forbidden := by
    refine ⟨_, rfl, by decide, ?_⟩
    rw [Kubernetes.Response.refusal, (Json.conveys_compact _).parse_eq]
    rfl
  have hreach : root.Reaches refused :=
    .source (.cause .self rfl (List.mem_cons_of_mem _ List.mem_cons_self))
  refine ⟨hrejects, ?_, by decide +kernel, hreach, ?_⟩
  · obtain ⟨f, ha, hf, hsources⟩ := hlisting _ (hfails forbidden hrejects) (.start ⟨network, {}⟩)
      .proxyPods rfl rfl
    refine ⟨f, ha, hf, ?_⟩
    rw [hsources]
    decide
  · have hrefused := htold refused hreach _ (.connection "a" "etcd-a" _) "refused" (by decide)
    exact hrefused.resolve_right (by simp [refused])

/-- The word of the server beneath a listing is not told. -/
theorem not_told_listing : ¬∀ root : Failure, root.Told := by
  intro h
  have hoccurs := h (.listing ((Kubernetes.Failure.refused forbidden).cause.context
    "pod list request failed")) _ _ .self (.listing _) forbidden.brief (by decide)
  exact absurd hoccurs (by decide +kernel)

end Failure

end EtcdLocator
