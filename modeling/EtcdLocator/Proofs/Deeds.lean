import EtcdLocator.Proofs.Lifecycle
import Mathlib.Data.List.Induction

namespace EtcdLocator.Tunnel

open Kubernetes (Request)

inductive Deed where
  | listing (namespaceName selector : String)
  | tunnel (event : Traffic.Event)
deriving DecidableEq, Repr

/-- Whatever happens at a tunnel, it leads where it led. -/
theorem Endpoint.way_of_after {event : Traffic.Event} {e e' : Endpoint}
    (h : e.after event = some e') :
    e'.number = e.number ∧ e'.target = e.target ∧ e'.pod = e.pod := by
  unfold after at h
  split at h
  · cases event with
    | established target pod =>
      cases h
      exact ⟨rfl, rfl, rfl⟩
    | accepted n =>
      cases h
      split <;> exact ⟨rfl, rfl, rfl⟩
    | finished n bridge ending =>
      cases h
      exact ⟨rfl, rfl, rfl⟩
    | reaped n bridge =>
      cases h
      exact ⟨rfl, rfl, rfl⟩
    | failed n =>
      cases h
      exact ⟨rfl, rfl, rfl⟩
    | dropped n => cases h
  · cases h
    exact ⟨rfl, rfl, rfl⟩

namespace Traffic

variable {network : Network} {t : Traffic} {n : Nat} {e : Endpoint}

def act (network : Network) (t : Traffic) : Deed → Traffic
  | .listing namespaceName selector => (t.send network (.list namespaceName selector)).2
  | .tunnel event => t.step network event

/-- What deeds lead to, each on the network as it is then. -/
def conduct (t : Traffic) (deeds : List (Network × Deed)) : Traffic :=
  deeds.foldl (fun t d => t.act d.1 d.2) t

theorem conduct_append (t : Traffic) (deeds more : List (Network × Deed)) :
    t.conduct (deeds ++ more) = (t.conduct deeds).conduct more := List.foldl_append

def wanted (t : Traffic) : Deed → Option Request
  | .listing namespaceName selector => some (.list namespaceName selector)
  | .tunnel event => t.asked event

theorem requests_act (network : Network) (t : Traffic) (d : Deed) :
    (t.act network d).requests = t.requests ++ (t.wanted d).toList.flatMap network.sent := by
  cases d with
  | listing namespaceName selector =>
    rw [act, send_eq]
    simp [wanted]
  | tunnel event => exact requests_step network t event

theorem tunnels_listing (network : Network) (t : Traffic) (namespaceName selector : String) :
    (t.act network (.listing namespaceName selector)).tunnels = t.tunnels := by
  rw [act, send_eq]

/-- A tunnel that was not there is one that was opened just now. -/
theorem established_of_find? {event : Event} (h : t.find? n = none)
    (he : (t.step network event).find? n = some e) :
    event = .established e.target e.pod ∧ network.Runs e.target.namespaceName e.pod ∧
      (t.establish network e.target e.pod).1 = .ok e := by
  -- all other events work on tunnels that are there
  cases event with
  | established target pod =>
    rw [step] at he
    rcases establish_failed_or_opened network target pod t with ⟨f, heq⟩ | ⟨hr, port, heq⟩
    · rw [heq] at he
      cases h.symm.trans he
    · have hnew : e = { number := t.opened, target, pod, port } := by
        rw [heq] at he
        change (t.tunnels ++ [_]).find? (·.number = n) = some e at he
        rw [List.find?_append, show t.tunnels.find? (·.number = n) = none from h,
          Option.none_or] at he
        exact List.mem_singleton.1 (List.mem_of_find?_eq_some he)
      subst hnew
      exact ⟨rfl, hr, congrArg Prod.fst heq⟩
  | accepted m =>
    rw [step, find?_accept, h] at he
    cases he
  | finished m bridge ending =>
    rw [step, finish, find?_modify (f := .ended bridge ending) (fun _ => rfl), h] at he
    cases he
  | reaped m bridge =>
    rw [step, reap, find?_modify (f := .cleared bridge) (fun _ => rfl), h] at he
    cases he
  | failed m =>
    rw [step, fail, find?_modify (f := .broken) (fun _ => rfl), h] at he
    cases he
  | dropped m =>
    rw [step, find?_drop, h, ite_self] at he
    cases he

/-- Among the deeds is the one that opened tunnel `n` to a pod. When the pod was looked up for it,
it ran. -/
inductive Opened (target : Target) (pod : String) (n : Nat) : List (Network × Deed) → Prop
  | intro {earlier later : List (Network × Deed)} {network : Network} {e : Endpoint}
      (hr : network.Runs target.namespaceName pod)
      (he : ((conduct {} earlier).establish network target pod).1 = .ok e) (hn : e.number = n) :
      Opened target pod n (earlier ++ (network, .tunnel (.established target pod)) :: later)

theorem Opened.append {target : Target} {pod : String} {past : List (Network × Deed)}
    (h : Opened target pod n past) (more : List (Network × Deed)) :
    Opened target pod n (past ++ more) := by
  cases h with
  | intro hr he hn =>
    rw [List.append_assoc, List.cons_append]
    exact .intro hr he hn

theorem opened_of_find? {past : List (Network × Deed)} (h : (conduct {} past).find? n = some e) :
    Opened e.target e.pod n past := by
  -- on the last deed: the tunnel was there before it, or that deed opened it
  induction past using List.reverseRecOn generalizing e with
  | nil => cases h
  | append_singleton past d ih =>
    obtain ⟨network, d⟩ := d
    rw [conduct_append] at h
    change ((conduct {} past).act network d).find? n = some e at h
    cases d with
    | listing namespaceName selector =>
      rw [find?, tunnels_listing] at h
      exact (ih h).append _
    | tunnel event =>
      cases hf : (conduct {} past).find? n with
      | none =>
        have hnumber := number_of_find? h
        obtain ⟨rfl, hr, he⟩ := established_of_find? hf h
        exact .intro hr he hnumber
      | some e₀ =>
        rw [act, find?_step network event hf] at h
        obtain ⟨-, htarget, hpod⟩ := Endpoint.way_of_after h
        rw [htarget, hpod]
        exact (ih hf).append _

/-- A port is asked for only through a tunnel that was opened to it. -/
theorem opened_of_wanted {past : List (Network × Deed)} {d : Deed} {namespaceName pod : String}
    {port : UInt16}
    (h : (conduct {} past).wanted d = some (.portForward namespaceName pod port)) :
    ∃ n, d = .tunnel (.accepted n) ∧ Opened ⟨namespaceName, port⟩ pod n past := by
  cases d with
  | listing => cases h
  | tunnel event =>
    cases event with
    | accepted n =>
      obtain ⟨e, he, heq⟩ := Option.map_eq_some_iff.1 h
      cases heq
      exact ⟨n, rfl, opened_of_find? (Option.filter_eq_some_iff.1 he).1⟩
    | established | finished | reaped | failed | dropped => cases h

/-- Whenever a deed asks for a port, it accepts a connection at a tunnel that was opened to that
port before. -/
def OpensFirst (history : List (Network × Deed)) : Prop :=
  ∀ past network d later, history = past ++ (network, d) :: later →
    ∀ new, ((conduct {} past).act network d).requests = (conduct {} past).requests ++ new →
      ∀ namespaceName pod port, .portForward namespaceName pod port ∈ new →
        ∃ n, d = .tunnel (.accepted n) ∧ Opened ⟨namespaceName, port⟩ pod n past

theorem opensFirst (history : List (Network × Deed)) : OpensFirst history := by
  rintro past network d later - new hnew namespaceName pod port hr
  rw [requests_act] at hnew
  obtain rfl := List.append_cancel_left hnew
  obtain ⟨r, hwanted, hsent⟩ := List.mem_flatMap.1 hr
  obtain rfl := Network.mem_sent hsent
  exact opened_of_wanted (Option.mem_toList.1 hwanted)

end Traffic

end EtcdLocator.Tunnel
