import EtcdLocator.Tunnel.Traffic

namespace EtcdLocator

open Kubernetes (Request Response Pod)

namespace Network

def answer (network : Network) (r : Request) : Except Kubernetes.Failure Response :=
  match r.check with
  | .error fault => .error (.unwritable fault)
  | .ok () => network.respond r

/-- What gets to the server of a request that is made once: the request, unless it cannot be written
down or there is no way to the server. -/
def sent (network : Network) (r : Request) : List Request :=
  if network.isServing && r.check.isOk then [r] else []

def lookUp (network : Network) (namespaceName pod : String) : Except Kubernetes.Failure Pod :=
  (network.answer (.get namespaceName pod)).bind Pod.ofResponse

def Runs (network : Network) (namespaceName pod : String) : Prop :=
  ∃ p, network.lookUp namespaceName pod = .ok p ∧ p.phase = some "Running"

theorem mem_sent {network : Network} {r r' : Request} (h : r' ∈ network.sent r) : r' = r := by
  unfold sent at h
  split at h
  · exact List.mem_singleton.1 h
  · cases h

end Network

namespace Tunnel

theorem nodup_concat_of_lt {l : List Nat} {n : Nat} (h : l.Nodup) (hlt : ∀ m ∈ l, m < n) :
    (l ++ [n]).Nodup := by
  rw [List.nodup_append]
  refine ⟨h, List.pairwise_singleton _ n, ?_⟩
  rintro m hm _ hn rfl
  rw [List.mem_singleton] at hn
  exact Nat.lt_irrefl _ (hn ▸ hlt m hm)

structure Endpoint.Counted (e : Endpoint) : Prop where
  nodup : (e.bridges.map (·.number)).Nodup
  lt_accepted {b : Bridge} (h : b ∈ e.bridges) : b.number < e.accepted

theorem Endpoint.Counted.joined {e : Endpoint} (h : e.Counted) : e.joined.Counted where
  nodup := by
    rw [Endpoint.joined, List.map_append, List.map_singleton]
    apply nodup_concat_of_lt h.nodup
    intro m hm
    obtain ⟨b, hb, rfl⟩ := List.mem_map.1 hm
    exact h.lt_accepted hb
  lt_accepted hb := by
    rcases List.mem_append.1 hb with hb | hb
    · exact Nat.lt_succ_of_lt (h.lt_accepted hb)
    · rw [List.mem_singleton.1 hb]
      exact Nat.lt_succ_self _

theorem Endpoint.map_number_ended (bridge : Nat) (ending : Ending) (e : Endpoint) :
    (e.ended bridge ending).bridges.map (·.number) = e.bridges.map (·.number) := by
  rw [ended, List.map_map]
  congr 1
  funext b
  dsimp only [Function.comp_def]
  split <;> rfl

theorem Endpoint.Counted.ended {e : Endpoint} (h : e.Counted) (bridge : Nat) (ending : Ending) :
    (e.ended bridge ending).Counted where
  nodup := e.map_number_ended bridge ending ▸ h.nodup
  lt_accepted hb := by
    have hmem := List.mem_map_of_mem (f := (·.number)) hb
    rw [map_number_ended] at hmem
    obtain ⟨b, hb, heq⟩ := List.mem_map.1 hmem
    exact heq ▸ h.lt_accepted hb

theorem Endpoint.Counted.cleared {e : Endpoint} (h : e.Counted) (bridge : Nat) :
    (e.cleared bridge).Counted where
  nodup := h.nodup.sublist (List.filter_sublist.map _)
  lt_accepted hb := h.lt_accepted (List.mem_filter.1 hb).1

theorem Endpoint.Counted.broken (e : Endpoint) : e.broken.Counted where
  nodup := List.nodup_nil
  lt_accepted := nofun

namespace Traffic

variable {network : Network} {t : Traffic} {n m : Nat} {e : Endpoint}

theorem phase_eq_iff (p : Pod) : phase p = "Running" ↔ p.phase = some "Running" := by
  unfold phase
  cases p.phase <;> simp

theorem send_eq (network : Network) (r : Request) (t : Traffic) :
    t.send network r =
      (network.answer r, { t with requests := t.requests ++ network.sent r }) := by
  unfold send Network.answer Network.sent
  cases hr : r.check with
  | error fault => simp [Except.isOk, Except.toBool]
  | ok => cases network <;> simp [Network.isServing, Except.isOk, Except.toBool]

def asking (t : Traffic) (rs : List Request) : Traffic := { t with requests := t.requests ++ rs }

theorem establish_of_unknown (target : Target) {pod : String} {f : Kubernetes.Failure}
    (h : network.lookUp target.namespaceName pod = .error f) (t : Traffic) :
    t.establish network target pod =
      (.error (.lookup pod f), t.asking (network.sent (.get target.namespaceName pod))) := by
  rw [establish, send_eq]
  dsimp only
  rw [← Network.lookUp, h]
  rfl

theorem establish_of_idle (target : Target) {pod : String} {p : Pod}
    (h : network.lookUp target.namespaceName pod = .ok p) (hp : p.phase ≠ some "Running")
    (t : Traffic) :
    t.establish network target pod =
      (.error (.podNotRunning pod (phase p)),
        t.asking (network.sent (.get target.namespaceName pod))) := by
  rw [establish, send_eq]
  dsimp only
  rw [← Network.lookUp, h]
  dsimp only
  rw [if_pos (mt (phase_eq_iff p).1 hp)]
  rfl

theorem establish_of_runs (target : Target) {pod : String}
    (h : network.Runs target.namespaceName pod) (t : Traffic) :
    t.establish network target pod = match network.listen t.opened with
      | .error text =>
        (.error (.bind text), t.asking (network.sent (.get target.namespaceName pod)))
      | .ok port => (.ok { number := t.opened, target, pod, port },
          { t.asking (network.sent (.get target.namespaceName pod)) with
            tunnels := t.tunnels ++ [{ number := t.opened, target, pod, port }]
            opened := t.opened + 1 }) := by
  obtain ⟨p, hl, hp⟩ := h
  rw [establish, send_eq]
  dsimp only
  rw [← Network.lookUp, hl]
  dsimp only
  rw [if_neg (not_not_intro ((phase_eq_iff p).2 hp))]
  cases network.listen t.opened <;> rfl

/-- A pod is looked up, then seen to run, and only then a port is asked for. -/
theorem establish_cases (network : Network) (target : Target) (pod : String) (t : Traffic) :
    let asked : Traffic := t.asking (network.sent (.get target.namespaceName pod))
    (∃ f, network.lookUp target.namespaceName pod = .error f ∧
      t.establish network target pod = (.error (.lookup pod f), asked)) ∨
    (∃ p, network.lookUp target.namespaceName pod = .ok p ∧ p.phase ≠ some "Running" ∧
      t.establish network target pod = (.error (.podNotRunning pod (phase p)), asked)) ∨
    (network.Runs target.namespaceName pod ∧ ∃ text, network.listen t.opened = .error text ∧
      t.establish network target pod = (.error (.bind text), asked)) ∨
    (network.Runs target.namespaceName pod ∧ ∃ port, network.listen t.opened = .ok port ∧
      t.establish network target pod =
        (.ok { number := t.opened, target, pod, port },
          { asked with
            tunnels := t.tunnels ++ [{ number := t.opened, target, pod, port }]
            opened := t.opened + 1 })) := by
  intro asked
  -- the port is asked for only after the pod was seen to run
  cases hl : network.lookUp target.namespaceName pod with
  | error f => exact .inl ⟨f, rfl, establish_of_unknown target hl t⟩
  | ok p =>
    by_cases hp : p.phase = some "Running"
    · have hruns : network.Runs target.namespaceName pod := ⟨p, hl, hp⟩
      have he := establish_of_runs target hruns t
      cases hport : network.listen t.opened with
      | error text =>
        rw [hport] at he
        exact .inr (.inr (.inl ⟨hruns, text, rfl, he⟩))
      | ok port =>
        rw [hport] at he
        exact .inr (.inr (.inr ⟨hruns, port, rfl, he⟩))
    · exact .inr (.inl ⟨p, rfl, hp, establish_of_idle target hl hp t⟩)

/-- What is asked of the server is the same whether a tunnel is opened or not. -/
theorem establish_failed_or_opened (network : Network) (target : Target) (pod : String)
    (t : Traffic) :
    let asked : Traffic := t.asking (network.sent (.get target.namespaceName pod))
    (∃ f, t.establish network target pod = (.error f, asked)) ∨
    (network.Runs target.namespaceName pod ∧ ∃ port,
      t.establish network target pod =
        (.ok { number := t.opened, target, pod, port },
          { asked with
            tunnels := t.tunnels ++ [{ number := t.opened, target, pod, port }]
            opened := t.opened + 1 })) := by
  intro asked
  rcases establish_cases network target pod t with ⟨f, -, he⟩ | ⟨p, -, -, he⟩ |
    ⟨-, text, -, he⟩ | ⟨hr, port, -, he⟩
  · exact .inl ⟨_, he⟩
  · exact .inl ⟨_, he⟩
  · exact .inl ⟨_, he⟩
  · exact .inr ⟨hr, port, he⟩

theorem number_of_find? (h : t.find? n = some e) : e.number = n := by
  simpa using List.find?_some h

theorem mem_of_find? (h : t.find? n = some e) : e ∈ t.tunnels := List.mem_of_find?_eq_some h

theorem find?_modify {f : Endpoint → Endpoint} (hf : ∀ e, (f e).number = e.number) (t : Traffic)
    (n m : Nat) : (t.modify n f).find? m = (t.find? m).map fun e => if n = m then f e else e := by
  have hnumber (e : Endpoint) : (if e.number = n then f e else e).number = e.number := by
    split
    · exact hf e
    · rfl
  unfold find? modify
  rw [List.find?_map]
  simp only [Function.comp_def, hnumber]
  cases h : t.tunnels.find? (·.number = m) with
  | none => rfl
  | some e =>
    have he : e.number = m := number_of_find? h
    simp only [Option.map_some, he, eq_comm (a := n)]

theorem find?_drop (t : Traffic) (n m : Nat) :
    (t.drop n).find? m = if n = m then none else t.find? m := by
  unfold find? drop
  rw [List.find?_filter]
  split
  · rename_i h
    simp [h]
  · rename_i h
    congr 1
    funext e
    grind

def Event.tunnel? : Event → Option Nat
  | .established .. => none
  | .accepted tunnel | .finished tunnel _ _ | .reaped tunnel _ | .failed tunnel
  | .dropped tunnel => some tunnel

/-- Tunnels are numbered as they are opened, and so are the connections through each. -/
structure Numbered (t : Traffic) : Prop where
  nodup : (t.tunnels.map (·.number)).Nodup
  lt_opened {e : Endpoint} (h : e ∈ t.tunnels) : e.number < t.opened
  counted {e : Endpoint} (h : e ∈ t.tunnels) : e.Counted

theorem numbered_empty : Numbered {} where
  nodup := List.nodup_nil
  lt_opened := nofun
  counted := nofun

theorem Numbered.modify {f : Endpoint → Endpoint} (h : Numbered t)
    (hf : ∀ e, (f e).number = e.number) (hc : ∀ e, e.Counted → (f e).Counted) (n : Nat) :
    Numbered (t.modify n f) := by
  have hnumber (e : Endpoint) : (if e.number = n then f e else e).number = e.number := by
    split
    · exact hf e
    · rfl
  refine ⟨?_, ?_, ?_⟩
  · rw [Traffic.modify, List.map_map]
    simp only [Function.comp_def, hnumber]
    exact h.nodup
  · intro e he
    obtain ⟨x, hx, rfl⟩ := List.mem_map.1 he
    rw [hnumber]
    exact h.lt_opened hx
  · intro e he
    obtain ⟨x, hx, rfl⟩ := List.mem_map.1 he
    split
    · exact hc x (h.counted hx)
    · exact h.counted hx

theorem Numbered.drop (h : Numbered t) (n : Nat) : Numbered (t.drop n) where
  nodup := h.nodup.sublist (List.filter_sublist.map _)
  lt_opened he := h.lt_opened (List.mem_filter.1 he).1
  counted he := h.counted (List.mem_filter.1 he).1

/-- Requests are no matter of numbers. -/
theorem Numbered.of_eq {t' : Traffic} (h : Numbered t) (ht : t'.tunnels = t.tunnels)
    (ho : t'.opened = t.opened) : Numbered t' where
  nodup := ht ▸ h.nodup
  lt_opened he := ho ▸ h.lt_opened (ht ▸ he)
  counted he := h.counted (ht ▸ he)

theorem Numbered.establish (h : Numbered t) (network : Network) (target : Target) (pod : String) :
    Numbered (t.establish network target pod).2 := by
  rcases establish_failed_or_opened network target pod t with ⟨f, he⟩ | ⟨-, port, he⟩
  · rw [he]
    exact h.of_eq rfl rfl
  · rw [he]
    refine ⟨?_, ?_, ?_⟩
    · rw [List.map_append, List.map_singleton]
      apply nodup_concat_of_lt h.nodup
      intro m hm
      obtain ⟨e, he, rfl⟩ := List.mem_map.1 hm
      exact h.lt_opened he
    · intro e he
      rcases List.mem_append.1 he with he | he
      · exact Nat.lt_succ_of_lt (h.lt_opened he)
      · rw [List.mem_singleton.1 he]
        exact Nat.lt_succ_self _
    · intro e he
      rcases List.mem_append.1 he with he | he
      · exact h.counted he
      · rw [List.mem_singleton.1 he]
        exact ⟨List.nodup_nil, nofun⟩

theorem accept_of_listening (network : Network) (h : t.find? n = some e)
    (hl : e.isListening = true) :
    t.accept network n = (t.asking (network.sent e.forward)).modify n Endpoint.joined := by
  rw [accept, h]
  dsimp only
  rw [if_pos hl, send_eq]
  rfl

theorem accept_of_deaf (network : Network) (h : ∀ e, t.find? n = some e → e.isListening = false) :
    t.accept network n = t := by
  rw [accept]
  cases hf : t.find? n with
  | none => rfl
  | some e => simp [h e hf]

theorem Numbered.accept (h : Numbered t) (network : Network) (n : Nat) :
    Numbered (t.accept network n) := by
  by_cases hl : ∃ e, t.find? n = some e ∧ e.isListening = true
  · obtain ⟨e, hf, hl⟩ := hl
    rw [accept_of_listening network hf hl]
    have hasked : Numbered (t.asking (network.sent e.forward)) := h.of_eq rfl rfl
    exact hasked.modify (f := .joined) (fun _ => rfl) (fun _ hc => hc.joined) n
  · rw [accept_of_deaf network (by grind)]
    exact h

theorem Numbered.step (h : Numbered t) (network : Network) (event : Event) :
    Numbered (t.step network event) := by
  cases event with
  | established target pod => exact h.establish network target pod
  | accepted n => exact h.accept network n
  | finished n bridge ending =>
    exact h.modify (f := .ended bridge ending) (fun _ => rfl) (fun _ hc => hc.ended bridge ending) n
  | reaped n bridge =>
    exact h.modify (f := .cleared bridge) (fun _ => rfl) (fun _ hc => hc.cleared bridge) n
  | failed n => exact h.modify (f := .broken) (fun _ => rfl) (fun e _ => .broken e) n
  | dropped n => exact h.drop n

def run (t : Traffic) (events : List (Network × Event)) : Traffic :=
  events.foldl (fun t e => t.step e.1 e.2) t

theorem Numbered.run (h : Numbered t) (events : List (Network × Event)) :
    Numbered (t.run events) := by
  induction events generalizing t with
  | nil => exact h
  | cons e events ih => exact ih (h.step e.1 e.2)

end Traffic

end Tunnel

end EtcdLocator
