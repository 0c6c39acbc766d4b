import EtcdLocator.Proofs.Tunnels

namespace EtcdLocator.Tunnel

open Kubernetes (Request)

def Endpoint.after (event : Traffic.Event) (e : Endpoint) : Option Endpoint :=
  if event.tunnel? = some e.number then
    match event with
    | .established .. => some e
    | .accepted _ => some (if e.isListening then e.joined else e)
    | .finished _ bridge ending => some (e.ended bridge ending)
    | .reaped _ bridge => some (e.cleared bridge)
    | .failed _ => some e.broken
    | .dropped _ => none
  else some e

/-- The same tunnel, as able to accept connections. Those that it had may have ended, and others may
have come. -/
structure Endpoint.Continues (e e' : Endpoint) : Prop where
  number_eq : e'.number = e.number
  target_eq : e'.target = e.target
  pod_eq : e'.pod = e.pod
  port_eq : e'.port = e.port
  isListening_eq : e'.isListening = e.isListening

theorem Endpoint.after_of_ne {event : Traffic.Event} {e : Endpoint}
    (h : event.tunnel? ≠ some e.number) : e.after event = some e := if_neg h

theorem Endpoint.Continues.refl (e : Endpoint) : Continues e e := ⟨rfl, rfl, rfl, rfl, rfl⟩

theorem Endpoint.Continues.trans {e e' e'' : Endpoint} (h : Continues e e')
    (h' : Continues e' e'') : Continues e e'' where
  number_eq := h'.number_eq.trans h.number_eq
  target_eq := h'.target_eq.trans h.target_eq
  pod_eq := h'.pod_eq.trans h.pod_eq
  port_eq := h'.port_eq.trans h.port_eq
  isListening_eq := h'.isListening_eq.trans h.isListening_eq

theorem Endpoint.Continues.forward_eq {e e' : Endpoint} (h : Continues e e') :
    e'.forward = e.forward := by
  rw [forward, forward, h.target_eq, h.pod_eq]

/-- Nothing but its own failure and its own end stops a tunnel. -/
theorem Endpoint.continues_after {event : Traffic.Event} {e : Endpoint}
    (hf : event ≠ .failed e.number) (hd : event ≠ .dropped e.number) :
    ∃ e', e.after event = some e' ∧ Continues e e' := by
  unfold after
  split
  · rename_i hn
    cases event with
    | established target pod => exact ⟨e, rfl, .refl e⟩
    | accepted m =>
      refine ⟨_, rfl, ?_⟩
      split
      · exact ⟨rfl, rfl, rfl, rfl, rfl⟩
      · exact .refl e
    | finished m bridge ending => exact ⟨_, rfl, rfl, rfl, rfl, rfl, rfl⟩
    | reaped m bridge => exact ⟨_, rfl, rfl, rfl, rfl, rfl, rfl⟩
    | failed m => exact absurd (congrArg _ (Option.some.inj hn)) hf
    | dropped m => exact absurd (congrArg _ (Option.some.inj hn)) hd
  · exact ⟨e, rfl, .refl e⟩

theorem Endpoint.filter_ended (bridge : Nat) (ending : Ending) (e : Endpoint) :
    (e.ended bridge ending).bridges.filter (·.number ≠ bridge) =
      e.bridges.filter (·.number ≠ bridge) := by
  rw [ended]
  induction e.bridges with
  | nil => rfl
  | cons b bridges ih =>
    rw [List.map_cons, List.filter_cons, List.filter_cons, ih]
    by_cases hb : b.number = bridge
    · have hnumber : (if b.number = bridge ∧ b.ending = none then { b with ending := some ending }
          else b).number = bridge := by
        split <;> exact hb
      rw [if_neg (by simpa using hnumber), if_neg (by simpa using hb)]
    · simp [hb]

theorem Endpoint.number_ne_of_live {bridge : Nat} {ending : Ending} {e : Endpoint} {b : Bridge}
    (hb : b ∈ (e.ended bridge ending).bridges) (hl : b.ending.isNone = true) :
    b.number ≠ bridge := by
  obtain ⟨b', -, rfl⟩ := List.mem_map.1 hb
  split at hl
  · cases hl
  · rename_i hnot
    rw [if_neg hnot]
    exact fun hn => hnot ⟨hn, Option.isNone_iff_eq_none.1 hl⟩

theorem Endpoint.filter_cleared (bridge : Nat) (e : Endpoint) :
    (e.cleared bridge).bridges.filter (·.number ≠ bridge) =
      e.bridges.filter (·.number ≠ bridge) := by
  rw [cleared, List.filter_filter]
  congr 1
  funext b
  grind

theorem Endpoint.live_cleared (bridge : Nat) (e : Endpoint) :
    (e.cleared bridge).bridges.filter (·.ending.isNone) = e.bridges.filter (·.ending.isNone) := by
  rw [cleared, List.filter_filter]
  congr 1
  funext b
  grind

namespace Traffic

variable {network : Network} {t : Traffic} {n : Nat} {e : Endpoint} {event : Event}

theorem find?_accept (network : Network) (t : Traffic) (n m : Nat) :
    (t.accept network n).find? m =
      (t.find? m).map fun e => if n = m ∧ e.isListening then e.joined else e := by
  by_cases hl : ∃ e, t.find? n = some e ∧ e.isListening = true
  · obtain ⟨e, hf, hl⟩ := hl
    rw [accept_of_listening network hf hl, find?_modify (f := .joined) (fun _ => rfl)]
    change (t.find? m).map _ = _
    by_cases hm : n = m
    · subst hm
      simp [hf, hl]
    · simp [hm]
  · rw [accept_of_deaf network (by grind)]
    cases hm : t.find? m with
    | none => rfl
    | some e =>
      have hdeaf : ¬(n = m ∧ e.isListening = true) := by
        rintro ⟨rfl, hl'⟩
        exact hl ⟨e, hm, hl'⟩
      rw [Option.map_some, if_neg hdeaf]

/-- Each tunnel goes its own way. -/
theorem find?_step (network : Network) (event : Event) (h : t.find? n = some e) :
    (t.step network event).find? n = e.after event := by
  have hn := number_of_find? h
  -- the number of the tunnel decides: an event at another tunnel leaves this one as it is
  cases event with
  | established target pod =>
    have hkeep {more : List Endpoint} : (t.tunnels ++ more).find? (·.number = n) = some e := by
      rw [List.find?_append]
      change (t.find? n).or _ = _
      rw [h, Option.some_or]
    rw [Endpoint.after, if_neg nofun, step]
    -- a new tunnel comes after all others, so that it does not hide this one
    rcases establish_failed_or_opened network target pod t with ⟨f, he⟩ | ⟨-, port, he⟩
    · rw [he]
      exact h
    · rw [he]
      exact hkeep
  | accepted m =>
    rw [step, find?_accept, h, Option.map_some, Endpoint.after]
    simp only [Event.tunnel?, Option.some.injEq, hn]
    split <;> grind
  | finished m bridge ending =>
    rw [step, finish, find?_modify (f := .ended bridge ending) (fun _ => rfl), h, Option.map_some,
      Endpoint.after]
    simp only [Event.tunnel?, Option.some.injEq, hn]
    split <;> rfl
  | reaped m bridge =>
    rw [step, reap, find?_modify (f := .cleared bridge) (fun _ => rfl), h, Option.map_some,
      Endpoint.after]
    simp only [Event.tunnel?, Option.some.injEq, hn]
    split <;> rfl
  | failed m =>
    rw [step, fail, find?_modify (f := .broken) (fun _ => rfl), h, Option.map_some, Endpoint.after]
    simp only [Event.tunnel?, Option.some.injEq, hn]
    split <;> rfl
  | dropped m =>
    rw [step, find?_drop, h, Endpoint.after]
    simp only [Event.tunnel?, Option.some.injEq, hn]

structure Gone (n : Nat) (t : Traffic) : Prop where
  find?_eq : t.find? n = none
  lt_opened : n < t.opened

theorem Gone.of_eq {t' : Traffic} (h : Gone n t) (hf : t'.find? n = none)
    (ho : t'.opened = t.opened) : Gone n t' := ⟨hf, ho ▸ h.lt_opened⟩

theorem Gone.modify (h : Gone n t) {f : Endpoint → Endpoint} (hf : ∀ e, (f e).number = e.number)
    (m : Nat) : Gone n (t.modify m f) :=
  h.of_eq (by rw [find?_modify hf, h.find?_eq, Option.map_none]) rfl

theorem opened_accept (network : Network) (t : Traffic) (n : Nat) :
    (t.accept network n).opened = t.opened := by
  unfold accept
  split
  · rfl
  split
  · rw [send_eq]
    rfl
  · rfl

theorem Gone.step (h : Gone n t) (network : Network) (event : Event) :
    Gone n (t.step network event) := by
  cases event with
  | established target pod =>
    rw [Traffic.step]
    rcases establish_failed_or_opened network target pod t with ⟨f, he⟩ | ⟨-, port, he⟩
    · rw [he]
      exact h.of_eq h.find?_eq rfl
    -- the new tunnel has a number of its own
    · rw [he]
      refine ⟨?_, Nat.lt_succ_of_lt h.lt_opened⟩
      have hne : ¬t.opened = n := Nat.ne_of_gt h.lt_opened
      have hold : t.tunnels.find? (·.number = n) = none := h.find?_eq
      simp [find?, List.find?_append, hold, hne]
  | accepted m =>
    exact h.of_eq (by rw [Traffic.step, find?_accept, h.find?_eq, Option.map_none])
      (opened_accept network t m)
  | finished m bridge ending => exact h.modify (f := .ended bridge ending) (fun _ => rfl) m
  | reaped m bridge => exact h.modify (f := .cleared bridge) (fun _ => rfl) m
  | failed m => exact h.modify (f := .broken) (fun _ => rfl) m
  | dropped m =>
    refine h.of_eq ?_ rfl
    rw [Traffic.step, find?_drop, h.find?_eq, ite_self]

theorem Gone.run (h : Gone n t) (events : List (Network × Event)) : Gone n (t.run events) := by
  induction events generalizing t with
  | nil => exact h
  | cons e events ih => exact ih (h.step e.1 e.2)

theorem continues_run (h : t.find? n = some e) {events : List (Network × Event)}
    (hno : ∀ event ∈ events, event.2 ≠ .failed n ∧ event.2 ≠ .dropped n) :
    ∃ e', (t.run events).find? n = some e' ∧ e.Continues e' := by
  induction events generalizing t e with
  | nil => exact ⟨e, h, .refl e⟩
  | cons event events ih =>
    have hn := number_of_find? h
    obtain ⟨hf, hd⟩ := hno event List.mem_cons_self
    obtain ⟨e₁, he₁, hc₁⟩ := Endpoint.continues_after (hn ▸ hf) (hn ▸ hd)
    have h₁ := (find?_step event.1 event.2 h).trans he₁
    obtain ⟨e', he', hc⟩ := ih h₁ fun later hl => hno later (List.mem_cons_of_mem _ hl)
    exact ⟨e', he', hc₁.trans hc⟩

/-- The request that an event makes: for the pod where a tunnel is opened, and for its port where a
connection is accepted. -/
def asked (t : Traffic) : Event → Option Request
  | .established target pod => some (.get target.namespaceName pod)
  | .accepted n => ((t.find? n).filter (·.isListening)).map fun e =>
    .portForward e.target.namespaceName e.pod e.target.port
  | .finished .. | .reaped .. | .failed _ | .dropped _ => none

theorem requests_establish (network : Network) (target : Target) (pod : String) (t : Traffic) :
    (t.establish network target pod).2.requests =
      t.requests ++ network.sent (.get target.namespaceName pod) := by
  rcases establish_failed_or_opened network target pod t with ⟨f, he⟩ | ⟨-, port, he⟩
  · rw [he]
    rfl
  · rw [he]
    rfl

theorem requests_accept (network : Network) (t : Traffic) (n : Nat) :
    (t.accept network n).requests =
      t.requests ++ (t.asked (.accepted n)).toList.flatMap network.sent := by
  by_cases hl : ∃ e, t.find? n = some e ∧ e.isListening = true
  · obtain ⟨e, hf, hl⟩ := hl
    rw [accept_of_listening network hf hl, asked, hf]
    simp [modify, asking, Endpoint.forward, Option.filter, hl]
  · have hnone : (t.find? n).filter (·.isListening) = none := by
      rw [Option.filter_eq_none_iff]
      exact fun e hf hl' => hl ⟨e, hf, hl'⟩
    rw [accept_of_deaf network (by grind), asked, hnone]
    exact (List.append_nil _).symm

theorem requests_step (network : Network) (t : Traffic) (event : Event) :
    (t.step network event).requests =
      t.requests ++ (t.asked event).toList.flatMap network.sent := by
  cases event with
  | established target pod =>
    rw [step, requests_establish]
    simp [asked]
  | accepted n => exact requests_accept network t n
  | finished | reaped | failed | dropped => exact (List.append_nil _).symm

def live (t : Traffic) (n : Nat) : List Bridge :=
  ((t.find? n).map (·.bridges.filter (·.ending.isNone))).getD []

/-- What each event does to the tunnels `t`, and what becomes of each of them in the long run. -/
structure Orderly (network : Network) (t : Traffic) : Prop where
  numbered : Numbered t
  /-- Opening a tunnel asks for the pod and for no port, accepting a connection asks for the port of
  the pod, and nothing else asks for anything. -/
  requests (event : Event) : (t.step network event).requests =
    t.requests ++ (t.asked event).toList.flatMap network.sent
  opens_iff (target : Target) (pod : String) :
    (∃ e, (t.establish network target pod).1 = .ok e) ↔
      network.Runs target.namespaceName pod ∧ ∃ port, network.listen t.opened = .ok port
  opens {target : Target} {pod : String} {e : Endpoint}
    (h : (t.establish network target pod).1 = .ok e) :
    e.target = target ∧ e.pod = pod ∧ e.bridges = [] ∧ e.isListening = true ∧
      t.find? e.number = none ∧ (t.establish network target pod).2.find? e.number = some e
  frame {event : Event} {n : Nat} {e : Endpoint} (h : t.find? n = some e)
    (hn : event.tunnel? ≠ some n) : (t.step network event).find? n = some e
  accepts {n : Nat} {e : Endpoint} (h : t.find? n = some e) (hl : e.isListening = true) :
    ∃ e', (t.accept network n).find? n = some e' ∧ e.Continues e' ∧
      e'.bridges = e.bridges ++ [⟨e.accepted, none⟩]
  /-- A connection that ends is not live any more, and is the only one that it is anything to. -/
  finishes {n : Nat} {e : Endpoint} (h : t.find? n = some e) (bridge : Nat) (ending : Ending) :
    ∃ e', (t.finish n bridge ending).find? n = some e' ∧ e.Continues e' ∧
      e'.bridges.filter (·.number ≠ bridge) = e.bridges.filter (·.number ≠ bridge) ∧
      ∀ b ∈ (t.finish n bridge ending).live n, b.number ≠ bridge
  reaps {n : Nat} {e : Endpoint} (h : t.find? n = some e) (bridge : Nat) :
    ∃ e', (t.reap n bridge).find? n = some e' ∧ e.Continues e' ∧
      e'.bridges.filter (·.number ≠ bridge) = e.bridges.filter (·.number ≠ bridge) ∧
      (t.reap n bridge).live n = t.live n
  lasts {n : Nat} {e : Endpoint} (h : t.find? n = some e) (hl : e.isListening = true)
    {later : List (Network × Event)}
    (hno : ∀ event ∈ later, event.2 ≠ .failed n ∧ event.2 ≠ .dropped n) :
    (∃ e', (t.run later).find? n = some e' ∧ e.Continues e') ∧
      (t.run later).asked (.accepted n) =
        some (.portForward e.target.namespaceName e.pod e.target.port)
  ends {n : Nat} {e : Endpoint} (h : t.find? n = some e) (later : List (Network × Event)) :
    ((t.drop n).run later).find? n = none ∧ ((t.drop n).run later).live n = [] ∧
      ((t.drop n).run later).asked (.accepted n) = none ∧
      ((t.drop n).run later).accept network n = (t.drop n).run later

theorem opens_iff (network : Network) (target : Target) (pod : String) (t : Traffic) :
    (∃ e, (t.establish network target pod).1 = .ok e) ↔
      network.Runs target.namespaceName pod ∧ ∃ port, network.listen t.opened = .ok port := by
  rcases establish_cases network target pod t with ⟨f, hf, he⟩ | ⟨p, hp, hphase, he⟩ |
    ⟨-, text, hlisten, he⟩ | ⟨hruns, port, hlisten, he⟩
  · rw [he]
    refine iff_of_false nofun ?_
    rintro ⟨⟨p, hp, -⟩, -⟩
    cases hf.symm.trans hp
  · rw [he]
    refine iff_of_false nofun ?_
    rintro ⟨⟨p', hp', hphase'⟩, -⟩
    cases hp.symm.trans hp'
    exact hphase hphase'
  · rw [he]
    refine iff_of_false nofun ?_
    rintro ⟨-, port, hport⟩
    cases hlisten.symm.trans hport
  · rw [he]
    exact iff_of_true ⟨_, rfl⟩ ⟨hruns, port, hlisten⟩

theorem Numbered.find?_opened (h : Numbered t) : t.find? t.opened = none := by
  rw [find?, List.find?_eq_none]
  intro e he
  have hlt := h.lt_opened he
  simp only [decide_eq_true_eq]
  omega

theorem Numbered.opens (h : Numbered t) {target : Target} {pod : String}
    (he : (t.establish network target pod).1 = .ok e) :
    e.target = target ∧ e.pod = pod ∧ e.bridges = [] ∧ e.isListening = true ∧
      t.find? e.number = none ∧ (t.establish network target pod).2.find? e.number = some e := by
  rcases establish_failed_or_opened network target pod t with ⟨f, heq⟩ | ⟨-, port, heq⟩ <;>
    rw [heq] at he ⊢ <;> cases he
  have hnone : t.tunnels.find? (·.number = t.opened) = none := h.find?_opened
  refine ⟨rfl, rfl, rfl, rfl, hnone, ?_⟩
  simp [find?, List.find?_append, hnone]

theorem live_of_find? (h : t.find? n = some e) : t.live n = e.bridges.filter (·.ending.isNone) := by
  rw [live, h]
  rfl

theorem find?_finish (h : t.find? n = some e) (bridge : Nat) (ending : Ending) :
    (t.finish n bridge ending).find? n = some (e.ended bridge ending) := by
  rw [finish, find?_modify (f := .ended bridge ending) (fun _ => rfl), h, Option.map_some,
    if_pos rfl]

theorem find?_reap (h : t.find? n = some e) (bridge : Nat) :
    (t.reap n bridge).find? n = some (e.cleared bridge) := by
  rw [reap, find?_modify (f := .cleared bridge) (fun _ => rfl), h, Option.map_some, if_pos rfl]

theorem orderly_of_numbered (h : Numbered t) (network : Network) : Orderly network t where
  numbered := h
  requests := requests_step network t
  opens_iff target pod := opens_iff network target pod t
  opens := h.opens
  frame {event n e} he hn := by
    rw [find?_step network event he]
    exact Endpoint.after_of_ne (number_of_find? he ▸ hn)
  accepts {n e} he hl := by
    refine ⟨e.joined, ?_, ⟨rfl, rfl, rfl, rfl, rfl⟩, rfl⟩
    rw [find?_accept, he, Option.map_some, if_pos ⟨rfl, hl⟩]
  finishes {n e} he bridge ending := by
    have hf := find?_finish he bridge ending
    refine ⟨_, hf, ⟨rfl, rfl, rfl, rfl, rfl⟩, e.filter_ended bridge ending, ?_⟩
    intro b hb
    rw [live_of_find? hf] at hb
    obtain ⟨hmem, hlive⟩ := List.mem_filter.1 hb
    exact Endpoint.number_ne_of_live hmem hlive
  reaps {n e} he bridge := by
    have hr := find?_reap he bridge
    refine ⟨_, hr, ⟨rfl, rfl, rfl, rfl, rfl⟩, e.filter_cleared bridge, ?_⟩
    rw [live_of_find? hr, live_of_find? he]
    exact e.live_cleared bridge
  lasts {n e} he hl later hno := by
    -- what came in between changed the connections only, and not where the tunnel leads
    obtain ⟨e', he', hc⟩ := continues_run he hno
    refine ⟨⟨e', he', hc⟩, ?_⟩
    rw [asked, he', Option.filter_some_pos (by rw [hc.isListening_eq, hl]), Option.map_some]
    exact congrArg some hc.forward_eq
  ends {n e} he later := by
    have hdropped : Gone n (t.drop n) := by
      refine ⟨by rw [find?_drop, if_pos rfl], ?_⟩
      rw [← number_of_find? he]
      exact h.lt_opened (mem_of_find? he)
    have hf := (hdropped.run later).find?_eq
    refine ⟨hf, by rw [live, hf]; rfl, by rw [asked, hf]; rfl, accept_of_deaf network ?_⟩
    intro e' he'
    rw [hf] at he'
    cases he'

/-- Whatever happened to the tunnels before, all that happens to them next is orderly. -/
theorem tunnels_orderly (past : List (Network × Event)) (network : Network) :
    Orderly network (run {} past) :=
  orderly_of_numbered (numbered_empty.run past) network

end Traffic

end EtcdLocator.Tunnel
