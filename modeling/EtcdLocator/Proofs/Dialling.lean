import EtcdLocator.Connector
import EtcdLocator.Proofs.Decision
import EtcdLocator.Proofs.Lifecycle
import EtcdLocator.Proofs.Ownership

namespace EtcdLocator

open Tunnel (Endpoint)

namespace Tunnel.Traffic

variable {network : Network} {t : Traffic} {n : Nat}

/-- The connections of a call are accepted one by one. -/
theorem connect_induction {Q : Traffic → Prop} (h : Q t)
    (hstep : ∀ t, Q t → Q (t.accept network n)) : Q (t.connect network n) := by
  unfold connect
  split
  · exact h
  · rename_i e _
    induction network.connections n e.accepted with
    | zero => exact h
    | succ count ih => exact hstep _ ih

theorem Numbered.connect (h : Numbered t) (network : Network) (n : Nat) :
    Numbered (t.connect network n) :=
  connect_induction h fun _ ht => ht.accept network n

def ways (t : Traffic) : List (Nat × String) := t.tunnels.map fun e => (e.number, e.pod)

theorem ways_modify {f : Endpoint → Endpoint}
    (hf : ∀ e, (f e).number = e.number ∧ (f e).pod = e.pod) (t : Traffic) (n : Nat) :
    (t.modify n f).ways = t.ways := by
  unfold ways modify
  rw [List.map_map]
  congr 1
  funext e
  dsimp only [Function.comp_def]
  split
  · rw [(hf e).1, (hf e).2]
  · rfl

theorem ways_accept (network : Network) (t : Traffic) (n : Nat) :
    (t.accept network n).ways = t.ways := by
  unfold accept
  split
  · rfl
  split
  · rw [send_eq, ways_modify (f := .joined) fun _ => ⟨rfl, rfl⟩]
    rfl
  · rfl

theorem ways_connect (network : Network) (t : Traffic) (n : Nat) :
    (t.connect network n).ways = t.ways :=
  connect_induction (Q := fun t' => t'.ways = t.ways) rfl
    fun t' h => (ways_accept network t' n).trans h

theorem ways_drop (t : Traffic) (n : Nat) : (t.drop n).ways = t.ways.filter (·.1 ≠ n) := by
  unfold ways drop
  rw [List.filter_map]
  rfl

theorem map_fst_ways (t : Traffic) : t.ways.map (·.1) = t.tunnels.map (·.number) := by
  rw [ways, List.map_map]
  rfl

theorem tunnels_of_establish_error {target : Target} {pod : String} {f : Failure}
    (h : (t.establish network target pod).1 = .error f) :
    (t.establish network target pod).2.tunnels = t.tunnels := by
  rcases establish_failed_or_opened network target pod t with ⟨f, he⟩ | ⟨-, port, he⟩ <;>
    rw [he] at h ⊢ <;> cases h
  rfl

theorem tunnels_of_establish_ok {target : Target} {pod : String} {e : Endpoint}
    (h : (t.establish network target pod).1 = .ok e) :
    ∃ port, e = { number := t.opened, target, pod, port } ∧
      (t.establish network target pod).2.tunnels = t.tunnels ++ [e] := by
  rcases establish_failed_or_opened network target pod t with ⟨f, he⟩ | ⟨-, port, he⟩ <;>
    rw [he] at h ⊢ <;> cases h
  exact ⟨port, rfl, rfl⟩

/-- What went on at a tunnel is over when it is dropped. -/
theorem tunnels_drop_modify {f : Endpoint → Endpoint} (hf : ∀ e, (f e).number = e.number)
    (t : Traffic) (n : Nat) : ((t.modify n f).drop n).tunnels = (t.drop n).tunnels := by
  unfold drop modify
  dsimp only
  induction t.tunnels with
  | nil => rfl
  | cons e tunnels ih =>
    rw [List.map_cons, List.filter_cons, List.filter_cons, ih]
    by_cases he : e.number = n
    · rw [if_pos he, if_neg (by simp [hf, he]), if_neg (by simp [he])]
    · rw [if_neg he]

theorem tunnels_drop_accept (network : Network) (t : Traffic) (n : Nat) :
    ((t.accept network n).drop n).tunnels = (t.drop n).tunnels := by
  unfold accept
  split
  · rfl
  split
  · rw [tunnels_drop_modify (f := .joined) fun _ => rfl, send_eq]
    rfl
  · rfl

theorem tunnels_drop_connect (network : Network) (t : Traffic) (n : Nat) :
    ((t.connect network n).drop n).tunnels = (t.drop n).tunnels :=
  connect_induction (Q := fun t' => (t'.drop n).tunnels = (t.drop n).tunnels) rfl
    fun t' h => (tunnels_drop_accept network t' n).trans h

/-- A tunnel that is dropped leaves those that there were before it. -/
theorem Numbered.tunnels_drop_opened (h : Numbered t) {target : Target} {pod : String}
    {e : Endpoint} (he : (t.establish network target pod).1 = .ok e) :
    ((t.establish network target pod).2.drop e.number).tunnels = t.tunnels := by
  obtain ⟨port, rfl, htunnels⟩ := tunnels_of_establish_ok he
  rw [Traffic.drop, htunnels, List.filter_append, List.filter_eq_self.2, List.filter_eq_nil_iff.2,
    List.append_nil]
  · simp
  · intro x hx
    exact decide_eq_true (Nat.ne_of_lt (h.lt_opened hx))

end Tunnel.Traffic

def Incident.event? : Incident → Option Tunnel.Traffic.Event
  | replaced _ => none
  | accepted tunnel => some (.accepted tunnel)
  | finished tunnel bridge ending => some (.finished tunnel bridge ending)
  | reaped tunnel bridge => some (.reaped tunnel bridge)
  | failed tunnel => some (.failed tunnel)

theorem Site.traffic_befall (s : Site) (incident : Incident) :
    (s.befall incident).traffic = match incident.event? with
      | none => s.traffic
      | some event => s.traffic.step s.network event := by
  cases incident <;> rfl

/-- In incidents tunnels are neither opened nor closed. -/
theorem Site.ways_befall (s : Site) (incident : Incident) :
    (s.befall incident).traffic.ways = s.traffic.ways := by
  cases incident with
  | replaced => rfl
  | accepted n => exact Tunnel.Traffic.ways_accept s.network s.traffic n
  | finished n bridge ending =>
    exact Tunnel.Traffic.ways_modify (f := .ended bridge ending) (fun _ => ⟨rfl, rfl⟩) s.traffic n
  | reaped n bridge =>
    exact Tunnel.Traffic.ways_modify (f := .cleared bridge) (fun _ => ⟨rfl, rfl⟩) s.traffic n
  | failed n => exact Tunnel.Traffic.ways_modify (f := .broken) (fun _ => ⟨rfl, rfl⟩) s.traffic n

namespace Connector

open Tunnel (Traffic)

variable {k : Connector} {pod : String} {s : Site} {cause : Cause}

structure Opens (k : Connector) (pod : String) (s : Site) (port : UInt16) : Prop where
  runs : s.network.Runs k.layout.namespaceName pod
  listens : s.network.listen s.traffic.opened = .ok port

/-- What a dial of a pod fails with, from the outermost message to the root. Each stage is come to
only if all went well before. -/
inductive Obstacle (k : Connector) (pod : String) (s : Site) : List String → Prop
  | lookup {f : Kubernetes.Failure} (h : s.network.lookUp k.layout.namespaceName pod = .error f) :
      Obstacle k pod s (("unable to open tunnel to etcd proxy pod " ++ pod) ::
        ("unable to get proxy pod " ++ pod ++ ": " ++ f.message) :: f.message :: f.sources)
  | phase {p : Kubernetes.Pod} (h : s.network.lookUp k.layout.namespaceName pod = .ok p)
      (hp : p.phase ≠ some "Running") :
      Obstacle k pod s ["unable to open tunnel to etcd proxy pod " ++ pod,
        "proxy pod " ++ pod ++ " is not running (phase: " ++ p.phase.getD "Unknown" ++ ")"]
  | bind {text : String} (hr : s.network.Runs k.layout.namespaceName pod)
      (h : s.network.listen s.traffic.opened = .error text) :
      Obstacle k pod s ["unable to open tunnel to etcd proxy pod " ++ pod,
        "unable to bind local tunnel listener: " ++ text, text]
  | dial {port : UInt16} {cause : Cause} (ho : Opens k pod s port)
      (h : s.network.farEnd s.traffic.opened pod k.tls = .refuses cause) :
      Obstacle k pod s (("unable to create etcd client for pod " ++ pod) :: cause.chain)
  | dialTimeout {port : UInt16} (ho : Opens k pod s port)
      (h : s.network.farEnd s.traffic.opened pod k.tls = .stalls) :
      Obstacle k pod s ["dial to " ++ (k.scheme ++ "://127.0.0.1:" ++ Text.decimal port.toNat) ++
        " timed out after " ++ k.layout.dialTimeout.text]
  | status {port : UInt16} {status : Rpc.Status} {members : Rpc.Reply (List Member)}
      (ho : Opens k pod s port)
      (h : s.network.farEnd s.traffic.opened pod k.tls = .answers (.failure status) members) :
      Obstacle k pod s ["unable to get etcd status via pod " ++ pod, status.text]
  | statusTimeout {port : UInt16} {members : Rpc.Reply (List Member)} (ho : Opens k pod s port)
      (h : s.network.farEnd s.traffic.opened pod k.tls = .answers .silence members) :
      Obstacle k pod s ["status call timed out after " ++ k.layout.callTimeout.text]

/-- A dial fails without a tunnel, or gives its tunnel up again, or succeeds. -/
theorem dial_cases (k : Connector) (pod : String) (s : Site) :
    let r := s.traffic.establish s.network k.layout.target pod
    (∃ f, r.1 = .error f ∧
      k.dial pod s =
        (.error (f.cause.context ("unable to open tunnel to etcd proxy pod " ++ pod)),
          { s with traffic := r.2 })) ∨
    ∃ e, r.1 = .ok e ∧
      let answer := k.identify pod (e.url k.scheme) (s.network.farEnd e.number pod k.tls)
      (∃ cause, answer = .error cause ∧
        k.dial pod s =
          (.error cause, { s with traffic := (r.2.connect s.network e.number).drop e.number })) ∨
      ∃ leaderId, answer = .ok leaderId ∧
        k.dial pod s =
          (.ok ⟨pod, leaderId, e.number⟩,
            { s with traffic := r.2.connect s.network e.number }) := by
  unfold dial
  dsimp only
  rcases s.traffic.establish s.network k.layout.target pod with ⟨f | e, traffic⟩
  · exact .inl ⟨f, rfl, rfl⟩
  · refine .inr ⟨e, rfl, ?_⟩
    dsimp only
    cases k.identify pod (e.url k.scheme) (s.network.farEnd e.number pod k.tls) with
    | error cause => exact .inl ⟨cause, rfl, rfl⟩
    | ok leaderId => exact .inr ⟨leaderId, rfl, rfl⟩

theorem identify_cases (k : Connector) (pod url : String) (far : FarEnd) :
    (∃ cause, far = .refuses cause ∧
      k.identify pod url far =
        .error (cause.context ("unable to create etcd client for pod " ++ pod))) ∨
    (far = .stalls ∧ k.identify pod url far =
      .error ⟨"dial to " ++ url ++ " timed out after " ++ k.layout.dialTimeout.text, []⟩) ∨
    (∃ status members, far = .answers (.failure status) members ∧
      k.identify pod url far =
        .error ⟨"unable to get etcd status via pod " ++ pod, [status.text]⟩) ∨
    (∃ members, far = .answers .silence members ∧
      k.identify pod url far =
        .error ⟨"status call timed out after " ++ k.layout.callTimeout.text, []⟩) ∨
    ∃ leaderId members, far = .answers (.value leaderId) members ∧
      k.identify pod url far = .ok leaderId := by
  rcases far with cause | _ | ⟨leaderId | status | _, members⟩
  · exact .inl ⟨cause, rfl, rfl⟩
  · exact .inr (.inl ⟨rfl, rfl⟩)
  · exact .inr (.inr (.inr (.inr ⟨leaderId, members, rfl, rfl⟩)))
  · exact .inr (.inr (.inl ⟨status, members, rfl, rfl⟩))
  · exact .inr (.inr (.inr (.inl ⟨members, rfl, rfl⟩)))

theorem dial_of_establish_error {f : Tunnel.Failure}
    (h : (s.traffic.establish s.network k.layout.target pod).1 = .error f) :
    (k.dial pod s).1 =
      .error (f.cause.context ("unable to open tunnel to etcd proxy pod " ++ pod)) := by
  rcases dial_cases k pod s with ⟨f', hf, hd⟩ | ⟨e, he, -⟩
  · cases hf.symm.trans h
    rw [hd]
  · cases he.symm.trans h

theorem dial_of_opens {port : UInt16} (ho : Opens k pod s port) :
    (k.dial pod s).1 = (k.identify pod (k.scheme ++ "://127.0.0.1:" ++ Text.decimal port.toNat)
      (s.network.farEnd s.traffic.opened pod k.tls)).map (⟨pod, ·, s.traffic.opened⟩) := by
  have he : (s.traffic.establish s.network k.layout.target pod).1 =
      .ok { number := s.traffic.opened, target := k.layout.target, pod, port } := by
    rw [Traffic.establish_of_runs k.layout.target ho.runs, ho.listens]
  rcases dial_cases k pod s with ⟨f, hf, hd⟩ | ⟨e, he', ⟨cause, hi, hd⟩ | ⟨leaderId, hi, hd⟩⟩
  · cases hf.symm.trans he
  · cases he'.symm.trans he
    rw [hd]
    exact congrArg (Except.map fun id => (⟨pod, id, s.traffic.opened⟩ : Connection)) hi.symm
  · cases he'.symm.trans he
    rw [hd]
    exact congrArg (Except.map fun id => (⟨pod, id, s.traffic.opened⟩ : Connection)) hi.symm

theorem dial_of_obstacle {messages : List String} (h : Obstacle k pod s messages) :
    (k.dial pod s).1 = .error (Cause.ofList messages) := by
  cases h with
  | lookup h =>
    exact dial_of_establish_error
      (congrArg Prod.fst (Traffic.establish_of_unknown k.layout.target h s.traffic))
  | phase h hp =>
    exact dial_of_establish_error
      (congrArg Prod.fst (Traffic.establish_of_idle k.layout.target h hp s.traffic))
  | bind hr h =>
    have he := Traffic.establish_of_runs k.layout.target hr s.traffic
    rw [h] at he
    exact dial_of_establish_error (congrArg Prod.fst he)
  | dial ho h | dialTimeout ho h | status ho h | statusTimeout ho h =>
    rw [dial_of_opens ho, h]
    rfl

/-- A dial fails where it meets an obstacle, and tells what that says of it. -/
theorem dial_error_iff : (k.dial pod s).1 = .error cause ↔ Obstacle k pod s cause.chain := by
  constructor
  · intro h
    rcases Traffic.establish_cases s.network k.layout.target pod s.traffic with ⟨f, hl, he⟩ |
      ⟨p, hl, hp, he⟩ | ⟨hr, text, hl, he⟩ | ⟨hr, port, hl, he⟩
    · rw [dial_of_establish_error (congrArg Prod.fst he)] at h
      cases h
      exact .lookup hl
    · rw [dial_of_establish_error (congrArg Prod.fst he)] at h
      cases h
      exact .phase hl hp
    · rw [dial_of_establish_error (congrArg Prod.fst he)] at h
      cases h
      exact .bind hr hl
    · have ho : Opens k pod s port := ⟨hr, hl⟩
      rw [dial_of_opens ho] at h
      rcases identify_cases k pod (k.scheme ++ "://127.0.0.1:" ++ Text.decimal port.toNat)
        (s.network.farEnd s.traffic.opened pod k.tls) with ⟨cause', hf, hi⟩ | ⟨hf, hi⟩ |
        ⟨status, members, hf, hi⟩ | ⟨members, hf, hi⟩ | ⟨leaderId, members, hf, hi⟩ <;>
        rw [hi] at h <;> cases h
      · exact .dial ho hf
      · exact .dialTimeout ho hf
      · exact .status ho hf
      · exact .statusTimeout ho hf
  · exact dial_of_obstacle

theorem of_dial_world {w w' : World Site Connection} {r : Except Cause Connection}
    (h : w.dial k.backend pod = (r, w')) :
    (k.dial pod w.state).1 = r ∧ w'.state = (k.dial pod w.state).2 := by
  have hfst := w.dial_fst k.backend pod
  have hstate := w.state_dial k.backend pod
  rw [h] at hfst hstate
  exact ⟨hfst.symm, hstate⟩

theorem numbered_dial (h : s.traffic.Numbered) (k : Connector) (pod : String) :
    (k.dial pod s).2.traffic.Numbered := by
  have he := h.establish s.network k.layout.target pod
  rcases dial_cases k pod s with ⟨f, -, hd⟩ | ⟨e, -, ⟨cause, -, hd⟩ | ⟨leaderId, -, hd⟩⟩ <;> rw [hd]
  · exact he
  · exact (he.connect s.network e.number).drop e.number
  · exact he.connect s.network e.number

/-- The tunnel of a dial that fails is not left open. -/
theorem tunnels_of_dial_error (hn : s.traffic.Numbered) (h : (k.dial pod s).1 = .error cause) :
    (k.dial pod s).2.traffic.tunnels = s.traffic.tunnels := by
  rcases dial_cases k pod s with ⟨f, hf, hd⟩ | ⟨e, he, ⟨cause, -, hd⟩ | ⟨leaderId, -, hd⟩⟩
  · rw [hd]
    exact Traffic.tunnels_of_establish_error hf
  · rw [hd]
    exact (Traffic.tunnels_drop_connect _ _ _).trans (hn.tunnels_drop_opened he)
  · rw [hd] at h
    cases h

theorem ways_of_dial_ok {c : Connection} (h : (k.dial pod s).1 = .ok c) :
    c.pod = pod ∧ (k.dial pod s).2.traffic.ways = s.traffic.ways ++ [(c.tunnel, c.pod)] := by
  rcases dial_cases k pod s with ⟨f, hf, hd⟩ | ⟨e, he, ⟨cause, -, hd⟩ | ⟨leaderId, -, hd⟩⟩
  · rw [hd] at h
    cases h
  · rw [hd] at h
    cases h
  · rw [hd] at h
    cases h
    obtain ⟨port, rfl, htunnels⟩ := Traffic.tunnels_of_establish_ok he
    refine ⟨rfl, ?_⟩
    rw [hd]
    change (Traffic.connect _ _ _).ways = _
    rw [Traffic.ways_connect, Traffic.ways, htunnels, List.map_append]
    rfl

/-- The tunnels that are open are those of the connections `cs`. -/
structure Moored (cs : List Connection) (w : World Site Connection) : Prop where
  numbered : w.state.traffic.Numbered
  perm : w.state.traffic.ways.Perm (cs.map fun c => (c.tunnel, c.pod))

theorem Moored.nodup {cs : List Connection} {w : World Site Connection} (h : Moored cs w) :
    (cs.map (·.tunnel)).Nodup := by
  have hn := h.numbered.nodup
  rwa [← Traffic.map_fst_ways, (h.perm.map _).nodup_iff, List.map_map] at hn

theorem Moored.release {c : Connection} {cs : List Connection} {w w' : World Site Connection}
    (h : Moored (c :: cs) w) (hw : w'.state = release c w.state) : Moored cs w' := by
  have hnodup := h.nodup
  refine ⟨hw ▸ h.numbered.drop c.tunnel, ?_⟩
  -- no other connection has the tunnel of this one
  have hrest : (cs.map fun c => (c.tunnel, c.pod)).filter (·.1 ≠ c.tunnel) =
      cs.map fun c => (c.tunnel, c.pod) := by
    rw [List.filter_eq_self]
    rintro way hway
    obtain ⟨c', hc', rfl⟩ := List.mem_map.1 hway
    rw [List.map_cons, List.nodup_cons] at hnodup
    have hne : c'.tunnel ≠ c.tunnel := fun heq => hnodup.1 (heq ▸ List.mem_map_of_mem hc')
    simpa using hne
  have hperm := h.perm.filter (·.1 ≠ c.tunnel)
  rw [List.map_cons, List.filter_cons_of_neg (by simp), hrest] at hperm
  rw [hw]
  change (Traffic.drop _ _).ways.Perm _
  rw [Traffic.ways_drop]
  exact hperm

theorem upholds_moored (k : Connector) : k.backend.Upholds Moored where
  perm h hp := ⟨h.numbered, h.perm.trans (hp.map _)⟩
  list {cs w} h := by
    have hs : (w.list k.backend).2.state = (k.list w.state).2 := rfl
    have hl : (k.list w.state).2.traffic = w.state.traffic.asking
        (w.state.network.sent (.list k.layout.namespaceName k.layout.labelSelector)) := by
      rw [Connector.list, Traffic.send_eq]
      rfl
    rw [← hs] at hl
    exact ⟨hl ▸ h.numbered.of_eq rfl rfl, hl ▸ h.perm⟩
  -- a dial that fails gives its tunnel up again, and one that succeeds leaves it to its connection
  refused {cs w w' pod cause} h hd := by
    obtain ⟨hfst, hstate⟩ := of_dial_world hd
    refine ⟨hstate ▸ numbered_dial h.numbered k pod, ?_⟩
    rw [hstate, Traffic.ways, tunnels_of_dial_error h.numbered hfst]
    exact h.perm
  opened {cs w w' pod c} h hd := by
    obtain ⟨hfst, hstate⟩ := of_dial_world hd
    refine ⟨hstate ▸ numbered_dial h.numbered k pod, ?_⟩
    rw [hstate, (ways_of_dial_ok hfst).2, List.map_cons]
    exact (h.perm.append_right _).trans (List.perm_append_singleton _ _)
  members {cs w c} h _ := by
    have hs : (w.members k.backend c).2.state.traffic =
        w.state.traffic.connect w.state.network c.tunnel := rfl
    exact ⟨hs ▸ h.numbered.connect w.state.network c.tunnel,
      by rw [hs, Traffic.ways_connect]; exact h.perm⟩
  close h := h.release rfl
  drop h := h.release rfl

theorem Moored.befall {cs : List Connection} {w : World Site Connection} (h : Moored cs w)
    (incident : Incident) : Moored cs { w with state := w.state.befall incident } := by
  refine ⟨?_, ?_⟩
  · change (w.state.befall incident).traffic.Numbered
    rw [w.state.traffic_befall]
    cases incident.event? with
    | none => exact h.numbered
    | some event => exact h.numbered.step w.state.network event
  · change (w.state.befall incident).traffic.ways.Perm _
    rw [w.state.ways_befall]
    exact h.perm

/-- By itself a site changes only by incidents. -/
def Incidental (os : List (Operation Site)) : Prop :=
  ∀ change, .alter change ∈ os → ∃ incident : Incident, change = fun s => s.befall incident

theorem moored_run (k : Connector) (network : Network) {os : List (Operation Site)}
    (hos : Incidental os) {r : Answer Connection × Session Site Connection}
    (hr : r ∈ (Session.start ⟨network, {}⟩).run k.backend os) :
    Moored (r.2.held.map (·.2)) r.2.locator.world := by
  have hstart : Session.Satisfies Moored [] (Session.start ⟨network, {}⟩) :=
    ⟨List.nodup_nil, Traffic.numbered_empty, .nil⟩
  refine (Session.of_mem_run_of_mem k.backend hstart ?_ hr).holds
  intro s o ho hs
  refine hs.step (upholds_moored k) ?_
  rintro change rfl
  obtain ⟨incident, rfl⟩ := hos change ho
  exact Moored.befall hs.holds incident

/-- What a dial that failed with `cause` is to a walk: a failure of the node that it was made for,
and no more, unless the node is known to be the leader's. It takes the world from `w` to `w'`. -/
structure Scoped (k : Connector) (pods : PodMap) (node pod : String) (cause : Cause)
    (w w' : World Site Connection) : Prop where
  firstAvailable (nodes : List String) (met : Attempts) :
    Walk.firstAvailable k.backend pods (node :: nodes) met w =
      Walk.firstAvailable k.backend pods nodes (met.record (.connection node pod cause)) w'
  leader (candidates nodes : List String) (met : Attempts) :
    Walk.leader k.backend pods candidates (node :: nodes) met w =
      Walk.leader k.backend pods candidates nodes (met.record (.connection node pod cause)) w'
  redial {nodes before : List String} {queried : String} {t : Walk.Testimony} {m : Member}
    {w₀ : World Site Connection}
    (h : Walk.Deciding k.backend pods nodes w₀ before queried t w) (hl : t.leader? = some m)
    (hm : m.nodeName = node) (hc : node ∈ nodes) :
    Walk.leader k.backend pods nodes nodes {} w₀ =
      (.error (.leaderUnreachable t.leaderId node (.connection node pod cause)), w')
  tunnels_eq (hn : w.state.traffic.Numbered) :
    w'.state.traffic.tunnels = w.state.traffic.tunnels

/-- What it is to a walk if the member on a node does not tell its members. The world is `w` before
the connection that is made to ask it, and `w'` after that was closed. -/
structure Unanswered (k : Connector) (pods : PodMap) (node : String) (cause : Cause)
    (w w' : World Site Connection) : Prop where
  leader (candidates nodes : List String) (met : Attempts) :
    Walk.leader k.backend pods candidates (node :: nodes) met w =
      Walk.leader k.backend pods candidates nodes (met.record (.memberQuery node cause)) w'
  tunnels_eq (hn : w.state.traffic.Numbered) :
    w'.state.traffic.tunnels = w.state.traffic.tunnels

theorem leader_of_survey_error {σ κ : Type} {b : Backend σ κ} {pods : PodMap} {node : String}
    {f : Failure} {w w' : World σ κ} (h : Walk.survey b pods node w = (.error f, w'))
    (candidates nodes : List String) (met : Attempts) :
    Walk.leader b pods candidates (node :: nodes) met w =
      Walk.leader b pods candidates nodes (met.record f) w' := by
  rw [Walk.leader, Walk.leaderVia_eq, h]
  exact if_pos (Walk.isRetryable_of_survey b pods h)

theorem scoped_of_dial {pods : PodMap} {node : String} {w w' : World Site Connection}
    (hp : pods.pod? node = some pod) (hd : w.dial k.backend pod = (.error cause, w')) :
    Scoped k pods node pod cause w w' where
  firstAvailable nodes met := by
    rw [Walk.firstAvailable, Walk.connect_of_refused k.backend pods hp hd]
  leader candidates nodes met := by
    refine leader_of_survey_error ?_ candidates nodes met
    rw [Walk.survey_eq, Walk.connect_of_refused k.backend pods hp hd]
  redial {nodes before queried t m w₀} h hl hm hc := by
    subst hm
    exact (h.leader_of_dial hl hc hp hd).1
  tunnels_eq hn := by
    obtain ⟨hfst, hstate⟩ := of_dial_world hd
    rw [hstate]
    exact tunnels_of_dial_error hn hfst

theorem unanswered_of_members {pods : PodMap} {node : String} {probe : Connection}
    {w w' : World Site Connection} (hp : pods.pod? node = some pod)
    (hd : w.dial k.backend pod = (.ok probe, w'))
    (hm : (w'.members k.backend probe).1 = .error cause) :
    Unanswered k pods node cause w ((w'.members k.backend probe).2.close k.backend probe) where
  leader candidates nodes met := by
    refine leader_of_survey_error ?_ candidates nodes met
    rw [Walk.survey_eq, Walk.connect_of_opened k.backend pods hp hd]
    dsimp only
    rw [hm]
    rfl
  tunnels_eq hn := by
    obtain ⟨hfst, hstate⟩ := of_dial_world hd
    change ((Traffic.connect _ _ w'.state.traffic).drop probe.tunnel).tunnels = _
    rw [Traffic.tunnels_drop_connect, hstate]
    rcases dial_cases k pod w.state with ⟨f, -, hc⟩ | ⟨e, he, ⟨cause, -, hc⟩ | ⟨leaderId, -, hc⟩⟩
      <;> rw [hc] at hfst ⊢ <;> cases hfst
    exact (Traffic.tunnels_drop_connect _ _ _).trans (hn.tunnels_drop_opened he)

/-- A dial fails at its own candidate only, told by the stage at which it did, and so does asking a
member for the others. After each request the tunnels that are open are those of the connections
that are held. -/
theorem dials_scoped (k : Connector) (network : Network) {os : List (Operation Site)}
    (hos : Incidental os) :
    (∀ (pods : PodMap) (node pod : String) (w : World Site Connection),
      pods.pod? node = some pod →
      (∀ f, (Walk.connect k.backend pods node w).1 = .error f ↔
        ∃ cause, f = .connection node pod cause ∧ Obstacle k pod w.state f.sources) ∧
      (∀ cause w', w.dial k.backend pod = (.error cause, w') →
        Scoped k pods node pod cause w w') ∧
      ∀ probe w' cause, w.dial k.backend pod = (.ok probe, w') →
        (w'.members k.backend probe).1 = .error cause →
        Unanswered k pods node cause w ((w'.members k.backend probe).2.close k.backend probe)) ∧
    ∀ r ∈ (Session.start ⟨network, {}⟩).run k.backend os,
      Moored (r.2.held.map (·.2)) r.2.locator.world := by
  refine ⟨?_, fun r hr => moored_run k network hos hr⟩
  intro pods node pod w hp
  refine ⟨?_, fun cause w' hd => scoped_of_dial hp hd,
    fun probe w' cause hd hm => unanswered_of_members hp hd hm⟩
  intro f
  rw [Walk.connect_of_some k.backend pods hp]
  dsimp only
  rw [w.dial_fst k.backend pod]
  change Except.mapError _ (k.dial pod w.state).1 = _ ↔ _
  constructor
  · intro h
    cases hd : (k.dial pod w.state).1 with
    | error cause =>
      rw [hd] at h
      cases h
      exact ⟨cause, rfl, dial_error_iff.1 hd⟩
    | ok c =>
      rw [hd] at h
      cases h
  · rintro ⟨cause, rfl, h⟩
    rw [dial_error_iff.2 h]
    rfl

def single (far : FarEnd) : Network := .serving {
  respond := fun
    | .list .. => { body := "\x7b\"items\":[\x7b\"metadata\":\x7b\"name\":\"etcd-a\"\x7d," ++
        "\"spec\":\x7b\"nodeName\":\"a\"\x7d\x7d]\x7d" }
    | _ => { body := "\x7b\"status\":\x7b\"phase\":\"Running\"\x7d\x7d" }
  farEnd := fun _ _ _ => far
  listen := fun n => .ok (.ofNat (40000 + n)) }

/-- A member that connecting to never ends, and one that does not tell the others. -/
theorem dials_scoped_single :
    let k : Connector := {}
    let pods : PodMap := ⟨some [⟨"a", "etcd-a"⟩]⟩
    let w (far : FarEnd) : World Site Connection := ⟨⟨single far, {}⟩, []⟩
    let silent : FarEnd := .answers (.value 1) .silence
    let os : List (Operation Site) :=
      [.firstAvailable ["a"] "h", .alter fun s => s.befall (.replaced (single .stalls)),
        .firstAvailable ["a"] "g"]
    (∃ cause w', (w .stalls).dial k.backend "etcd-a" = (.error cause, w') ∧
      Scoped k pods "a" "etcd-a" cause (w .stalls) w') ∧
    (∃ probe w' cause, (w silent).dial k.backend "etcd-a" = (.ok probe, w') ∧
      Unanswered k pods "a" cause (w silent)
        ((w'.members k.backend probe).2.close k.backend probe)) ∧
    ((Session.start ⟨single silent, {}⟩).final k.backend os).locator.world.state.traffic.ways =
      [(0, "etcd-a")] ∧
    ∀ r ∈ (Session.start ⟨single silent, {}⟩).run k.backend os,
      Moored (r.2.held.map (·.2)) r.2.locator.world := by
  intro k pods w silent os
  have hos : Incidental os := by
    intro change hmem
    exact ⟨.replaced (single .stalls), by simpa [os] using hmem⟩
  obtain ⟨hdials, hrun⟩ := dials_scoped k (single silent) hos
  have hdial (far : FarEnd) := hdials pods "a" "etcd-a" (w far) rfl
  refine ⟨?_, ?_, by decide +kernel, hrun⟩
  · have hrefused : ((w .stalls).dial k.backend "etcd-a").1.isOk = false := by decide +kernel
    rcases hd : (w .stalls).dial k.backend "etcd-a" with ⟨cause | c, w'⟩
    · exact ⟨cause, w', rfl, (hdial .stalls).2.1 cause w' hd⟩
    · rw [hd] at hrefused
      cases hrefused
  · have hasked : (match (w silent).dial k.backend "etcd-a" with
        | (.ok c, w') => (w'.members k.backend c).1.isOk
        | (.error _, _) => true) = false := by decide +kernel
    rcases hd : (w silent).dial k.backend "etcd-a" with ⟨cause | c, w'⟩ <;> rw [hd] at hasked
    · cases hasked
    · dsimp only at hasked
      cases hm : (w'.members k.backend c).1 with
      | error cause => exact ⟨c, w', cause, rfl, (hdial silent).2.2 c w' cause hd hm⟩
      | ok members =>
        rw [hm] at hasked
        cases hasked

end Connector

end EtcdLocator
