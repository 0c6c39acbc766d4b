import EtcdLocator.Proofs.Calls
import EtcdLocator.Proofs.Deeds
import EtcdLocator.Proofs.Dialling
import Mathlib.Data.List.Nodup

namespace EtcdLocator

open Kubernetes (Request)
open Tunnel (Deed Endpoint Traffic)

namespace Layout

variable {l : Layout} {t : Traffic}

def Allows (l : Layout) : Request → Prop
  | .list namespaceName selector => namespaceName = l.namespaceName ∧ selector = l.labelSelector
  | .get namespaceName _ => namespaceName = l.namespaceName
  | .portForward namespaceName _ port => namespaceName = l.namespaceName ∧ port = l.etcdPort

def Covers (l : Layout) : Deed → Prop
  | .listing namespaceName selector => namespaceName = l.namespaceName ∧ selector = l.labelSelector
  | .tunnel (.established target _) => target = l.target
  | .tunnel _ => True

def Aims (l : Layout) (t : Traffic) : Prop := ∀ e ∈ t.tunnels, e.target = l.target

def forward (l : Layout) (pod : String) : Request := .portForward l.namespaceName pod l.etcdPort

theorem Aims.modify (h : l.Aims t) {f : Endpoint → Endpoint} (hf : ∀ e, (f e).target = e.target)
    (n : Nat) : l.Aims (t.modify n f) := by
  intro e he
  obtain ⟨x, hx, rfl⟩ := List.mem_map.1 he
  split
  · rw [hf, h x hx]
  · exact h x hx

theorem Aims.establish (h : l.Aims t) (network : Network) (pod : String) :
    l.Aims (t.establish network l.target pod).2 := by
  cases hr : (t.establish network l.target pod).1 with
  | error f =>
    intro e he
    rw [Traffic.tunnels_of_establish_error hr] at he
    exact h e he
  | ok x =>
    obtain ⟨port, rfl, htunnels⟩ := Traffic.tunnels_of_establish_ok hr
    intro e he
    rw [htunnels] at he
    rcases List.mem_append.1 he with he | he
    · exact h e he
    · rw [List.mem_singleton.1 he]

theorem Aims.act (h : l.Aims t) (network : Network) {d : Deed} (hd : l.Covers d) :
    l.Aims (t.act network d) := by
  cases d with
  | listing namespaceName selector =>
    intro e he
    rw [Traffic.tunnels_listing] at he
    exact h e he
  | tunnel event =>
    cases event with
    | established target pod =>
      cases hd
      exact h.establish network pod
    | accepted n =>
      change l.Aims (t.accept network n)
      unfold Traffic.accept
      split
      · exact h
      split
      · rw [Traffic.send_eq]
        exact Aims.modify (f := .joined) h (fun _ => rfl) n
      · exact h
    | finished n bridge ending => exact h.modify (f := .ended bridge ending) (fun _ => rfl) n
    | reaped n bridge => exact h.modify (f := .cleared bridge) (fun _ => rfl) n
    | failed n => exact h.modify (f := .broken) (fun _ => rfl) n
    | dropped n => exact fun e he => h e (List.mem_filter.1 he).1

end Layout

namespace Tunnel.Traffic

/-- For all connections of a call, the same request is made. -/
theorem exists_connect (network : Network) {t : Traffic} {n : Nat} {r : Request}
    (h : ∀ e, t.find? n = some e → e.forward = r) :
    ∃ count rs,
      t.connect network n =
        t.conduct ((List.replicate count (.tunnel (.accepted n))).map (network, ·)) ∧
      (t.connect network n).requests = t.requests ++ rs ∧ ∀ r' ∈ rs, r' = r := by
  -- where the tunnel leads is carried along, since the next request is made for it
  have hconnect := @connect_induction network t n (fun t' => (∃ count rs,
      t' = t.conduct ((List.replicate count (.tunnel (.accepted n))).map (network, ·)) ∧
      t'.requests = t.requests ++ rs ∧ ∀ r' ∈ rs, r' = r) ∧
      ∀ e, t'.find? n = some e → e.forward = r)
    ⟨⟨0, [], rfl, (List.append_nil _).symm, nofun⟩, h⟩ ?_
  · exact hconnect.1
  rintro t' ⟨⟨count, rs, ht, hrs, hr⟩, hf⟩
  refine ⟨⟨count + 1, rs ++ (t'.asked (.accepted n)).toList.flatMap network.sent, ?_, ?_, ?_⟩, ?_⟩
  · rw [List.replicate_succ', List.map_append, conduct_append, ← ht]
    rfl
  · rw [requests_accept, hrs, List.append_assoc]
  · intro r' hr'
    rcases List.mem_append.1 hr' with hr' | hr'
    · exact hr r' hr'
    · obtain ⟨r'', hr'', hsent⟩ := List.mem_flatMap.1 hr'
      obtain ⟨e, he, rfl⟩ := Option.map_eq_some_iff.1 (Option.mem_toList.1 hr'')
      rw [Network.mem_sent hsent]
      exact hf e (Option.filter_eq_some_iff.1 he).1
  · intro e he
    rw [find?_accept] at he
    obtain ⟨e', he', rfl⟩ := Option.map_eq_some_iff.1 he
    rw [← hf e' he']
    split <;> rfl

end Tunnel.Traffic

namespace Connector

variable {k : Connector} {network : Network}

inductive Voices (k : Connector) (network : Network) : Event Connection → List Request → Prop
  | listed (answer : PodMap.Listing) :
      Voices k network (.listed answer)
        (network.sent (.list k.layout.namespaceName k.layout.labelSelector))
  | refused {pod : String} {cause : Cause} {forwards : List Request}
      (h : ∀ r ∈ forwards, r = k.layout.forward pod ∧
        network.Runs k.layout.namespaceName pod) :
      Voices k network (.refused pod cause)
        (network.sent (.get k.layout.namespaceName pod) ++ forwards)
  | opened {pod : String} {c : Connection} {forwards : List Request} (hc : c.pod = pod)
      (hr : network.Runs k.layout.namespaceName pod)
      (h : ∀ r ∈ forwards, r = k.layout.forward pod) :
      Voices k network (.opened pod c)
        (network.sent (.get k.layout.namespaceName pod) ++ forwards)
  | asked {c : Connection} {answer : Except Cause (List Member)} {forwards : List Request}
      (h : ∀ r ∈ forwards, r = k.layout.forward c.pod) :
      Voices k network (.asked c answer) forwards
  | closed (c : Connection) : Voices k network (.closed c) []
  | dropped (c : Connection) : Voices k network (.dropped c) []

inductive Voiced (k : Connector) (network : Network) :
    List (Event Connection) → List Request → Prop
  | nil : Voiced k network [] []
  | cons {event : Event Connection} {es : List (Event Connection)} {rs rest : List Request}
      (h : Voices k network event rs) (hrest : Voiced k network es rest) :
      Voiced k network (event :: es) (rs ++ rest)

theorem Voiced.append {es more : List (Event Connection)} {rs others : List Request}
    (h : Voiced k network es rs) (h' : Voiced k network more others) :
    Voiced k network (es ++ more) (rs ++ others) := by
  induction h with
  | nil => exact h'
  | cons h _ ih =>
    rw [List.append_assoc]
    exact .cons h ih

theorem Voiced.exists_of_mem {es : List (Event Connection)} {rs : List Request} {r : Request}
    (h : Voiced k network es rs) (hr : r ∈ rs) :
    ∃ event ∈ es, ∃ part, Voices k network event part ∧ r ∈ part := by
  induction h with
  | nil => cases hr
  | cons h _ ih =>
    rcases List.mem_append.1 hr with hr | hr
    · exact ⟨_, List.mem_cons_self, _, h, hr⟩
    · obtain ⟨event, he, hpart⟩ := ih hr
      exact ⟨event, List.mem_cons_of_mem _ he, hpart⟩

theorem Voiced.exists_of_event {es : List (Event Connection)} {rs : List Request}
    {event : Event Connection} (h : Voiced k network es rs) (he : event ∈ es) :
    ∃ part, Voices k network event part := by
  induction h with
  | nil => cases he
  | cons h _ ih =>
    rcases List.mem_cons.1 he with rfl | he
    · exact ⟨_, h⟩
    · exact ih he

/-- What was done and asked for over the network on the way from `w` to `w'`, in the calls `es`. -/
structure Recorded (k : Connector) (w w' : World Site Connection) (es : List (Event Connection))
    (deeds : List Deed) (requests : List Request) : Prop where
  events_eq : w'.events = w.events ++ es
  network_eq : w'.state.network = w.state.network
  traffic_eq : w'.state.traffic = w.state.traffic.conduct (deeds.map (w.state.network, ·))
  covered : ∀ d ∈ deeds, k.layout.Covers d
  requests_eq : w'.state.traffic.requests = w.state.traffic.requests ++ requests
  voiced : Voiced k w.state.network es requests

variable {w w' w'' : World Site Connection}

theorem Recorded.refl (k : Connector) (w : World Site Connection) : Recorded k w w [] [] [] where
  events_eq := (List.append_nil _).symm
  network_eq := rfl
  traffic_eq := rfl
  covered := nofun
  requests_eq := (List.append_nil _).symm
  voiced := .nil

theorem Recorded.trans {es more : List (Event Connection)} {deeds later : List Deed}
    {requests others : List Request} (h : Recorded k w w' es deeds requests)
    (h' : Recorded k w' w'' more later others) :
    Recorded k w w'' (es ++ more) (deeds ++ later) (requests ++ others) where
  events_eq := by rw [h'.events_eq, h.events_eq, List.append_assoc]
  network_eq := h'.network_eq.trans h.network_eq
  traffic_eq := by
    rw [h'.traffic_eq, h.network_eq, h.traffic_eq, List.map_append, Traffic.conduct_append]
  covered d hd := by
    rcases List.mem_append.1 hd with hd | hd
    · exact h.covered d hd
    · exact h'.covered d hd
  requests_eq := by rw [h'.requests_eq, h.requests_eq, List.append_assoc]
  voiced := h.voiced.append (h.network_eq ▸ h'.voiced)

theorem Recorded.of_call {event : Event Connection} {deeds : List Deed} {requests : List Request}
    (he : w'.events = w.events ++ [event]) (hn : w'.state.network = w.state.network)
    (ht : w'.state.traffic = w.state.traffic.conduct (deeds.map (w.state.network, ·)))
    (hc : ∀ d ∈ deeds, k.layout.Covers d)
    (hr : w'.state.traffic.requests = w.state.traffic.requests ++ requests)
    (hv : Voices k w.state.network event requests) : Recorded k w w' [event] deeds requests :=
  ⟨he, hn, ht, hc, hr, List.append_nil requests ▸ .cons hv .nil⟩

abbrev Records (k : Connector) (w w' : World Site Connection) (es : List (Event Connection)) :
    Prop := ∃ deeds requests, Recorded k w w' es deeds requests

theorem records_list (k : Connector) (w : World Site Connection) :
    Records k w (w.list k.backend).2 [.listed (w.list k.backend).1] := by
  have hl : (k.list w.state).2.traffic = w.state.traffic.act w.state.network
      (.listing k.layout.namespaceName k.layout.labelSelector) := rfl
  refine ⟨[.listing k.layout.namespaceName k.layout.labelSelector], _,
    .of_call (w.events_list k.backend) rfl hl ?_ ?_ (.listed _)⟩
  · intro d hd
    rw [List.mem_singleton.1 hd]
    exact ⟨rfl, rfl⟩
  · refine (congrArg Traffic.requests hl).trans ?_
    rw [Traffic.requests_act]
    simp [Traffic.wanted]

/-- A tunnel that is opened for a dial, and the connections that are made through it. -/
theorem exists_dialled {pod : String} {t : Traffic} (hn : t.Numbered) {e : Endpoint}
    (he : (t.establish network k.layout.target pod).1 = .ok e) :
    ∃ count forwards,
      (t.establish network k.layout.target pod).2.connect network e.number =
        t.conduct ((.tunnel (.established k.layout.target pod) ::
          List.replicate count (.tunnel (.accepted e.number))).map (network, ·)) ∧
      ((t.establish network k.layout.target pod).2.connect network e.number).requests =
        t.requests ++ (network.sent (.get k.layout.namespaceName pod) ++ forwards) ∧
      ∀ r ∈ forwards, r = k.layout.forward pod := by
  obtain ⟨htarget, hpod, -, -, -, hfind⟩ := hn.opens he
  have hforward (e' : Endpoint)
      (h : (t.establish network k.layout.target pod).2.find? e.number = some e') :
      e'.forward = k.layout.forward pod := by
    cases hfind.symm.trans h
    rw [Endpoint.forward, htarget, hpod]
    rfl
  obtain ⟨count, forwards, hconnect, hrequests, hall⟩ :=
    Traffic.exists_connect network hforward
  refine ⟨count, forwards, hconnect, ?_, hall⟩
  rw [hrequests, Traffic.requests_establish, List.append_assoc]
  rfl

theorem covers_dialled (k : Connector) (pod : String) (n count : Nat) :
    ∀ d ∈ .tunnel (.established k.layout.target pod) ::
      List.replicate count (.tunnel (.accepted n)), k.layout.Covers d := by
  intro d hd
  rcases List.mem_cons.1 hd with rfl | hd
  · rfl
  · rw [List.eq_of_mem_replicate hd]
    trivial

theorem records_refused {pod : String} {cause : Cause} (hn : w.state.traffic.Numbered)
    (hd : w.dial k.backend pod = (.error cause, w')) : Records k w w' [.refused pod cause] := by
  have hevents := w.events_dial k.backend pod
  obtain ⟨hfst, hstate⟩ := of_dial_world hd
  rw [hd] at hevents
  rcases dial_cases k pod w.state with ⟨f, -, hc⟩ | ⟨e, he, ⟨cause, -, hc⟩ | ⟨leaderId, -, hc⟩⟩ <;>
    rw [hc] at hfst hstate <;> cases hfst
  · refine ⟨[.tunnel (.established k.layout.target pod)],
      w.state.network.sent (.get k.layout.namespaceName pod) ++ [],
      .of_call hevents (by rw [hstate]) (by rw [hstate]; rfl) (covers_dialled k pod 0 0) ?_
        (.refused nofun)⟩
    rw [hstate, List.append_nil]
    exact Traffic.requests_establish w.state.network k.layout.target pod w.state.traffic
  -- the tunnel is given up after all that went through it
  · obtain ⟨count, forwards, hdeeds, hrequests, hall⟩ := exists_dialled hn he
    have hruns := ((Traffic.opens_iff w.state.network k.layout.target pod w.state.traffic).1
      ⟨e, he⟩).1
    refine ⟨.tunnel (.established k.layout.target pod) ::
      List.replicate count (.tunnel (.accepted e.number)) ++ [.tunnel (.dropped e.number)], _,
      .of_call hevents (by rw [hstate]) ?_ ?_ ?_ (.refused fun r hr => ⟨hall r hr, hruns⟩)⟩
    · rw [hstate, List.map_append, Traffic.conduct_append, ← hdeeds]
      rfl
    · intro d hd
      rcases List.mem_append.1 hd with hd | hd
      · exact covers_dialled k pod e.number count d hd
      · rw [List.mem_singleton.1 hd]
        trivial
    · rw [hstate]
      exact hrequests

theorem records_opened {pod : String} {c : Connection} (hn : w.state.traffic.Numbered)
    (hd : w.dial k.backend pod = (.ok c, w')) : Records k w w' [.opened pod c] := by
  have hevents := w.events_dial k.backend pod
  obtain ⟨hfst, hstate⟩ := of_dial_world hd
  rw [hd] at hevents
  rcases dial_cases k pod w.state with ⟨f, -, hc⟩ | ⟨e, he, ⟨cause, -, hc⟩ | ⟨leaderId, -, hc⟩⟩ <;>
    rw [hc] at hfst hstate <;> cases hfst
  obtain ⟨count, forwards, hdeeds, hrequests, hall⟩ := exists_dialled hn he
  have hruns := ((Traffic.opens_iff w.state.network k.layout.target pod w.state.traffic).1
    ⟨e, he⟩).1
  exact ⟨_, _, .of_call hevents (by rw [hstate]) (by rw [hstate]; exact hdeeds)
    (covers_dialled k pod e.number count) (by rw [hstate]; exact hrequests)
    (.opened rfl hruns hall)⟩

/-- Behind the number of an open connection is the tunnel to its pod. -/
theorem Moored.pod_of_find? {cs : List Connection} (h : Moored cs w) {c : Connection} (hc : c ∈ cs)
    {e : Endpoint} (he : w.state.traffic.find? c.tunnel = some e) : e.pod = c.pod := by
  have hway : (e.number, e.pod) ∈ w.state.traffic.ways :=
    List.mem_map_of_mem (Traffic.mem_of_find? he)
  obtain ⟨c', hc', heq⟩ := List.mem_map.1 (h.perm.mem_iff.1 hway)
  obtain ⟨hnumber, hpod⟩ := Prod.mk.inj heq
  have hsame : c' = c :=
    List.inj_on_of_nodup_map h.nodup hc' hc (hnumber.trans (Traffic.number_of_find? he))
  rw [← hpod, hsame]

theorem records_asked {cs : List Connection} (hm : Moored cs w)
    (ha : k.layout.Aims w.state.traffic) {c : Connection} (hc : c ∈ cs) :
    Records k w (w.members k.backend c).2 [.asked c (w.members k.backend c).1] := by
  have hforward (e : Endpoint) (he : w.state.traffic.find? c.tunnel = some e) :
      e.forward = k.layout.forward c.pod := by
    rw [Endpoint.forward, ha e (Traffic.mem_of_find? he), hm.pod_of_find? hc he]
    rfl
  obtain ⟨count, forwards, hdeeds, hrequests, hall⟩ :=
    Traffic.exists_connect w.state.network hforward
  refine ⟨_, _, .of_call (w.events_members k.backend c) rfl hdeeds ?_ hrequests (.asked hall)⟩
  intro d hd
  rw [List.eq_of_mem_replicate hd]
  trivial

theorem records_release {c : Connection} {event : Event Connection}
    (he : w'.events = w.events ++ [event]) (hs : w'.state = release c w.state)
    (hv : Voices k w.state.network event []) : Records k w w' [event] := by
  refine ⟨[.tunnel (.dropped c.tunnel)], [], .of_call he ?_ ?_ ?_ ?_ hv⟩
  · rw [hs]
    rfl
  · rw [hs]
    rfl
  · intro d hd
    rw [List.mem_singleton.1 hd]
    trivial
  · rw [hs, List.append_nil]
    rfl

theorem aims_of_recorded {es : List (Event Connection)} {deeds : List Deed}
    {requests : List Request} (ha : k.layout.Aims w.state.traffic)
    (h : Recorded k w w' es deeds requests) : k.layout.Aims w'.state.traffic := by
  have hconduct {t : Traffic} (ht : k.layout.Aims t) (hd : ∀ d ∈ deeds, k.layout.Covers d) :
      k.layout.Aims (t.conduct (deeds.map (w.state.network, ·))) := by
    clear h
    induction deeds generalizing t with
    | nil => exact ht
    | cons d deeds ih =>
      exact ih (ht.act w.state.network (hd d List.mem_cons_self))
        fun d' hd' => hd d' (List.mem_cons_of_mem _ hd')
  rw [h.traffic_eq]
  exact hconduct ha h.covered

/-- All that happened since `w₀` is on record, and the tunnels are those of the connections `cs`. -/
structure Ledger (k : Connector) (w₀ : World Site Connection) (cs : List Connection)
    (w : World Site Connection) : Prop where
  moored : Moored cs w
  aims : k.layout.Aims w.state.traffic
  records : ∃ es, Records k w₀ w es

theorem Ledger.extend {w₀ : World Site Connection} {cs cs' : List Connection}
    {es : List (Event Connection)} (h : Ledger k w₀ cs w) (hm : Moored cs' w')
    (hr : Records k w w' es) : Ledger k w₀ cs' w' := by
  obtain ⟨past, deeds, requests, hpast⟩ := h.records
  obtain ⟨later, others, hrec⟩ := hr
  exact ⟨hm, aims_of_recorded h.aims hrec, _, _, _, hpast.trans hrec⟩

theorem upholds_ledger (k : Connector) (w₀ : World Site Connection) :
    k.backend.Upholds (Ledger k w₀) where
  perm h hp := ⟨(upholds_moored k).perm h.moored hp, h.aims, h.records⟩
  list {_ w} h := h.extend ((upholds_moored k).list h.moored) (records_list k w)
  refused h hd := h.extend ((upholds_moored k).refused h.moored hd)
    (records_refused h.moored.numbered hd)
  opened h hd := h.extend ((upholds_moored k).opened h.moored hd)
    (records_opened h.moored.numbered hd)
  members h hc := h.extend ((upholds_moored k).members h.moored hc)
    (records_asked h.moored h.aims hc)
  close {_ w c} h := h.extend ((upholds_moored k).close h.moored)
    (records_release (w.events_close k.backend c) rfl (.closed c))
  drop {_ w c} h := h.extend ((upholds_moored k).drop h.moored)
    (records_release (w.events_drop k.backend c) rfl (.dropped c))

/-- Where a request comes from: the pods are listed, a pod is looked up to be dialled, and a port is
asked for to dial a running pod or over a connection that is open. -/
theorem Voices.cases_of_mem {event : Event Connection} {rs : List Request} {r : Request}
    (h : Voices k network event rs) (hr : r ∈ rs) :
    (∃ answer, event = .listed answer ∧
      r = .list k.layout.namespaceName k.layout.labelSelector) ∨
    (∃ pod, event.dialled? = some pod ∧ r = .get k.layout.namespaceName pod) ∨
    (∃ pod, event.dialled? = some pod ∧ network.Runs k.layout.namespaceName pod ∧
      r = k.layout.forward pod) ∨
    ∃ c answer, event = .asked c answer ∧ r = k.layout.forward c.pod := by
  cases h with
  | listed answer => exact .inl ⟨answer, rfl, Network.mem_sent hr⟩
  | @refused pod _ _ h =>
    rcases List.mem_append.1 hr with hr | hr
    · exact .inr (.inl ⟨pod, rfl, Network.mem_sent hr⟩)
    · exact .inr (.inr (.inl ⟨pod, rfl, (h r hr).2, (h r hr).1⟩))
  | @opened pod _ _ _ hruns h =>
    rcases List.mem_append.1 hr with hr | hr
    · exact .inr (.inl ⟨pod, rfl, Network.mem_sent hr⟩)
    · exact .inr (.inr (.inl ⟨pod, rfl, hruns, h r hr⟩))
  | asked h => exact .inr (.inr (.inr ⟨_, _, rfl, h r hr⟩))
  | closed | dropped => cases hr

theorem Voices.allowed {event : Event Connection} {rs : List Request} {r : Request}
    (h : Voices k network event rs) (hr : r ∈ rs) : k.layout.Allows r := by
  rcases h.cases_of_mem hr with ⟨-, -, rfl⟩ | ⟨pod, -, rfl⟩ | ⟨pod, -, -, rfl⟩ | ⟨c, -, -, rfl⟩
  · exact ⟨rfl, rfl⟩
  · rfl
  · exact ⟨rfl, rfl⟩
  · exact ⟨rfl, rfl⟩

theorem Voices.listed_of_mem {event : Event Connection} {rs : List Request}
    (h : Voices k network event rs) {namespaceName selector : String}
    (hr : .list namespaceName selector ∈ rs) : ∃ answer, event = .listed answer := by
  rcases h.cases_of_mem hr with ⟨answer, he, -⟩ | ⟨pod, -, hr⟩ | ⟨pod, -, -, hr⟩ | ⟨c, -, -, hr⟩
  · exact ⟨answer, he⟩
  · cases hr
  · cases hr
  · cases hr

/-- Pods that are listed by the first call are asked for first. -/
theorem Voiced.not_list_tail {es : List (Event Connection)} {rs : List Request}
    (h : Voiced k network es rs) (hl : ∀ answer, .listed answer ∉ es.tail)
    (namespaceName selector : String) : .list namespaceName selector ∉ rs.tail := by
  intro hmem
  cases h with
  | nil => cases hmem
  | @cons event es part rest hpart hrest =>
    have hnot : .list namespaceName selector ∉ rest := by
      intro hr
      obtain ⟨event', he, part', hv, hr'⟩ := hrest.exists_of_mem hr
      obtain ⟨answer, rfl⟩ := hv.listed_of_mem hr'
      exact hl answer he
    rcases Session.mem_of_mem_tail_append hmem with hmem | hmem
    · obtain ⟨answer, rfl⟩ := hpart.listed_of_mem (List.mem_of_mem_tail hmem)
      cases hpart with
      | listed =>
        unfold Network.sent at hmem
        split at hmem <;> cases hmem
    · exact hnot hmem

abbrev site (s : Session Site Connection) : Site := s.locator.world.state

/-- What is done over the network for a request to a session: the deeds, and the requests to the API
server that they make. -/
structure Confined (k : Connector) (t : Session.Step Site Connection) (deeds : List Deed)
    (requests : List Request) : Prop where
  traffic_eq : (site t.after).traffic =
    (site t.before).traffic.conduct (deeds.map ((site t.before).network, ·))
  requests_eq : (site t.after).traffic.requests = (site t.before).traffic.requests ++ requests
  allowed {r : Request} (hr : r ∈ requests) : k.layout.Allows r
  /-- The pods are listed once at most, and before all else. -/
  listed_first (namespaceName selector : String) :
    .list namespaceName selector ∉ requests.tail
  looksUp {nodes : List String} (h : t.operation.candidates? = some nodes)
    {namespaceName pod : String} (hr : .get namespaceName pod ∈ requests) :
    ∃ node ∈ nodes, t.after.locator.pods.pod? node = some pod
  forwards {nodes : List String} (h : t.operation.candidates? = some nodes)
    {namespaceName pod : String} {port : UInt16}
    (hr : .portForward namespaceName pod port ∈ requests) :
    (∃ node ∈ nodes, t.after.locator.pods.pod? node = some pod) ∧
      (site t.before).network.Runs k.layout.namespaceName pod

theorem confined_of_recorded {t : Session.Step Site Connection} {es : List (Event Connection)}
    {deeds : List Deed} {requests : List Request}
    (h : Recorded k t.before.locator.world t.after.locator.world es deeds requests)
    (hc : t.Calls es) : Confined k t deeds requests where
  traffic_eq := h.traffic_eq
  requests_eq := h.requests_eq
  allowed hr := by
    obtain ⟨event, -, part, hv, hr⟩ := h.voiced.exists_of_mem hr
    exact hv.allowed hr
  listed_first := h.voiced.not_list_tail hc.listed_first
  looksUp {nodes} hn {namespaceName pod} hr := by
    obtain ⟨event, he, part, hv, hr⟩ := h.voiced.exists_of_mem hr
    rcases hv.cases_of_mem hr with ⟨_, -, heq⟩ | ⟨pod', hd, heq⟩ | ⟨_, -, -, heq⟩ |
      ⟨_, _, -, heq⟩ <;> cases heq
    exact (hc.sought hn).candidate (List.mem_filterMap.2 ⟨event, he, hd⟩)
  forwards {nodes} hn {namespaceName pod port} hr := by
    obtain ⟨event, he, part, hv, hr⟩ := h.voiced.exists_of_mem hr
    rcases hv.cases_of_mem hr with ⟨_, -, heq⟩ | ⟨_, -, heq⟩ | ⟨pod', hd, hruns, heq⟩ |
      ⟨c, answer, rfl, heq⟩ <;> cases heq
    · exact ⟨(hc.sought hn).candidate (List.mem_filterMap.2 ⟨event, he, hd⟩), hruns⟩
    -- over a connection that this very search has opened
    · obtain ⟨pod', hopened⟩ := (hc.sought hn).opened he
      obtain ⟨part', hv'⟩ := h.voiced.exists_of_event hopened
      have hd : (Event.opened pod' c).dialled? = some pod' := rfl
      cases hv' with
      | opened hpod hruns _ =>
        rw [hpod]
        exact ⟨(hc.sought hn).candidate (List.mem_filterMap.2 ⟨_, hopened, hd⟩), hruns⟩

/-- In the session as it is, the tunnels are those of the connections held, and lead where the
layout says. -/
abbrev Steady (k : Connector) (s : Session Site Connection) : Prop :=
  Session.Satisfies (fun cs w => Moored cs w ∧ k.layout.Aims w.state.traffic) [] s

theorem confined_of_call {s : Session Site Connection} (h : Steady k s) {o : Operation Site}
    (ho : ∀ change, o ≠ .alter change) :
    (∃ deeds requests, Confined k (s.request k.backend o) deeds requests) ∧
      Steady k (s.step k.backend o).2 := by
  have hledger : Session.Satisfies (Ledger k s.locator.world) [] s :=
    ⟨h.nodup, h.holds.1, h.holds.2, [], [], [], .refl k s.locator.world⟩
  have hstep := hledger.step (upholds_ledger k s.locator.world)
    fun change hc => absurd hc (ho change)
  obtain ⟨hm, ha, es, deeds, requests, hrec⟩ := hstep.holds
  obtain ⟨calls, hcalls⟩ := Session.exists_calls k.backend s o
  have hsame : es = calls :=
    List.append_cancel_left (hrec.events_eq.symm.trans hcalls.events_eq)
  subst hsame
  exact ⟨⟨deeds, requests, confined_of_recorded hrec hcalls⟩, hstep.nodup, hm, ha⟩

theorem covers_event? {incident : Incident} {event : Traffic.Event}
    (h : incident.event? = some event) : k.layout.Covers (.tunnel event) := by
  cases incident <;> cases h <;> trivial

/-- In an incident nothing is asked for but the port of a tunnel. -/
theorem forward_of_incident {s : Site} (ha : k.layout.Aims s.traffic) {incident : Incident}
    {event : Traffic.Event} (he : incident.event? = some event) {r : Request}
    (hr : r ∈ (s.traffic.asked event).toList.flatMap s.network.sent) :
    ∃ pod, r = k.layout.forward pod := by
  obtain ⟨r', hr', hsent⟩ := List.mem_flatMap.1 hr
  obtain rfl := Network.mem_sent hsent
  cases incident <;> cases he
  case accepted n =>
    obtain ⟨e, he, rfl⟩ := Option.map_eq_some_iff.1 (Option.mem_toList.1 hr')
    rw [ha e (Traffic.mem_of_find? (Option.filter_eq_some_iff.1 he).1)]
    exact ⟨e.pod, rfl⟩
  all_goals cases hr'

theorem confined_of_incident {s : Session Site Connection} (h : Steady k s) (incident : Incident) :
    (∃ deeds requests, Confined k (s.request k.backend (.alter (·.befall incident))) deeds
      requests) ∧ Steady k (s.step k.backend (.alter (·.befall incident))).2 := by
  obtain ⟨hm, ha⟩ := h.holds
  have htraffic := (site s).traffic_befall incident
  -- an incident is nothing to the tunnels, or one event at one of them
  cases he : incident.event? with
  | none =>
    rw [he] at htraffic
    dsimp only at htraffic
    refine ⟨⟨[], [], htraffic, ?_, nofun, nofun, nofun, nofun⟩, h.nodup, hm.befall incident, ?_⟩
    · rw [List.append_nil]
      exact congrArg Traffic.requests htraffic
    · change k.layout.Aims ((site s).befall incident).traffic
      rw [htraffic]
      exact ha
  | some event =>
    rw [he] at htraffic
    dsimp only at htraffic
    refine ⟨⟨[.tunnel event], ((site s).traffic.asked event).toList.flatMap (site s).network.sent,
      htraffic, ?_, ?_, ?_, nofun, nofun⟩, h.nodup, hm.befall incident, ?_⟩
    · exact (congrArg Traffic.requests htraffic).trans
        (Traffic.requests_step (site s).network (site s).traffic event)
    · intro r hr
      obtain ⟨pod, rfl⟩ := forward_of_incident ha he hr
      exact ⟨rfl, rfl⟩
    · intro namespaceName selector hr
      obtain ⟨pod, heq⟩ := forward_of_incident ha he (List.mem_of_mem_tail hr)
      cases heq
    · change k.layout.Aims ((site s).befall incident).traffic
      rw [htraffic]
      exact ha.act (site s).network (covers_event? he)

inductive Chronicle (k : Connector) :
    Session Site Connection → List (Operation Site) → List (Network × Deed) → Prop
  | nil {s : Session Site Connection} : Chronicle k s [] []
  | cons {s : Session Site Connection} {o : Operation Site} {os : List (Operation Site)}
      {deeds : List Deed} {requests : List Request} {history : List (Network × Deed)}
      (h : Confined k (s.request k.backend o) deeds requests)
      (hrest : Chronicle k (s.step k.backend o).2 os history) :
      Chronicle k s (o :: os) (deeds.map ((site s).network, ·) ++ history)

theorem exists_chronicle {s : Session Site Connection} (h : Steady k s)
    {os : List (Operation Site)} (hos : Incidental os) : ∃ history, Chronicle k s os history := by
  induction os generalizing s with
  | nil => exact ⟨[], .nil⟩
  | cons o os ih =>
    have hstep : (∃ deeds requests, Confined k (s.request k.backend o) deeds requests) ∧
        Steady k (s.step k.backend o).2 := by
      by_cases ho : ∃ change, o = .alter change
      · obtain ⟨change, rfl⟩ := ho
        obtain ⟨incident, rfl⟩ := hos change List.mem_cons_self
        exact confined_of_incident h incident
      · exact confined_of_call h fun change hc => ho ⟨change, hc⟩
    obtain ⟨⟨deeds, requests, hc⟩, hs⟩ := hstep
    obtain ⟨history, hrest⟩ := ih hs fun change hmem => hos change (List.mem_cons_of_mem _ hmem)
    exact ⟨_, .cons hc hrest⟩

theorem Chronicle.traffic_eq {s : Session Site Connection} {os : List (Operation Site)}
    {history : List (Network × Deed)} (h : Chronicle k s os history) :
    (site (s.final k.backend os)).traffic = (site s).traffic.conduct history := by
  induction h with
  | nil => rfl
  | cons h _ ih =>
    rw [Traffic.conduct_append]
    exact h.traffic_eq ▸ ih

/-- In a run, all requests keep to the layout, those of one search to its candidates, and a port is
asked for only through a tunnel that was opened to a running pod before. The usual layout is the one
that differs from the given one by its timeouts only. -/
theorem requests_confined (k : Connector) (network : Network) {os : List (Operation Site)}
    (hos : Incidental os) :
    (∃ history, Chronicle k (.start ⟨network, {}⟩) os history ∧
      (site ((Session.start ⟨network, {}⟩).final k.backend os)).traffic =
        Traffic.conduct {} history ∧
      Traffic.OpensFirst history) ∧
    ∀ tls dialTimeout callTimeout,
      standard tls dialTimeout callTimeout = { layout := { dialTimeout, callTimeout }, tls } := by
  have hstart : Steady k (.start ⟨network, {}⟩) :=
    ⟨List.nodup_nil, ⟨Traffic.numbered_empty, .nil⟩, nofun⟩
  obtain ⟨history, hc⟩ := exists_chronicle hstart hos
  exact ⟨⟨history, hc, hc.traffic_eq, Traffic.opensFirst history⟩, fun _ _ _ => rfl⟩

/-- A candidate without a pod, one with a pod that runs, and a connection that is made anew. -/
theorem requests_confined_single :
    let k : Connector := {}
    let network := single (.answers (.value 1) (.value []))
    let os : List (Operation Site) :=
      [.firstAvailable ["b", "a"] "h", .alter fun s => s.befall (.accepted 0), .members "h"]
    (site ((Session.start ⟨network, {}⟩).final k.backend os)).traffic.requests =
      [.list "kube-system" "app=etcd-proxy", .get "kube-system" "etcd-a",
        .portForward "kube-system" "etcd-a" 2379, .portForward "kube-system" "etcd-a" 2379] ∧
    ∃ history, Chronicle k (.start ⟨network, {}⟩) os history ∧
      (site ((Session.start ⟨network, {}⟩).final k.backend os)).traffic =
        Traffic.conduct {} history ∧
      Traffic.OpensFirst history := by
  intro k network os
  have hos : Incidental os := by
    intro change hmem
    exact ⟨.accepted 0, by simpa [os] using hmem⟩
  exact ⟨by decide +kernel, (requests_confined k network hos).1⟩

end Connector

end EtcdLocator
