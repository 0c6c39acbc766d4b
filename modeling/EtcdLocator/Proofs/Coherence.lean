import EtcdLocator.Locator.Script
import EtcdLocator.Proofs.Decision
import EtcdLocator.Proofs.Run
import Mathlib.Data.List.Forall2

namespace EtcdLocator

variable {σ κ : Type}

theorem Text.append_ne {s t u : String} (h : ¬s.toList <+: u.toList) : s ++ t ≠ u := by
  rintro rfl
  rw [String.toList_append] at h
  exact h (List.prefix_append _ _)

namespace Failure

def inner : Failure → List Failure
  | leaderUnreachable _ _ source => [source]
  | noAvailableNode attempts | noReachableLeader attempts => attempts
  | _ => []

inductive Unreached (node : String) : Failure → Prop
  | noProxyPod : Unreached node (.noProxyPod node)
  | connection (pod cause) : Unreached node (.connection node pod cause)

inductive Unanswered (node : String) : Failure → Prop
  | unreached {f} (h : Unreached node f) : Unanswered node f
  | memberQuery (cause) : Unanswered node (.memberQuery node cause)

theorem Unanswered.isRetryable {node : String} {f : Failure} (h : Unanswered node f) :
    f.isRetryable = true := by
  cases h with
  | unreached h => cases h <;> rfl
  | memberQuery cause => rfl

theorem Unanswered.kind_eq {node : String} {f : Failure} (h : Unanswered node f) :
    f.kind = .notFound ∨ f.kind = .connectivity := by
  cases h with
  | unreached h =>
    cases h with
    | noProxyPod => exact .inl rfl
    | connection pod cause => exact .inr rfl
  | memberQuery cause => exact .inr rfl

theorem Unanswered.inner_eq {node : String} {f : Failure} (h : Unanswered node f) :
    f.inner = [] := by
  cases h with
  | unreached h => cases h <;> rfl
  | memberQuery cause => rfl

theorem Unanswered.message_ne {node : String} {f : Failure} (h : Unanswered node f) :
    f.message ≠ summary [] := by
  cases h with
  | unreached h =>
    cases h with
    | noProxyPod =>
      rw [message_noProxyPod]
      exact Text.append_ne (by decide)
    | connection pod cause =>
      simp only [message_connection, String.append_assoc]
      exact Text.append_ne (by decide)
  | memberQuery cause =>
    simp only [message_memberQuery, String.append_assoc]
    exact Text.append_ne (by decide)

/-- Failures of single candidates never read as if there were none. -/
theorem summary_ne {fs : List Failure} (hfs : fs ≠ []) (h : ∀ g ∈ fs, g.message ≠ summary []) :
    summary (messages fs) ≠ summary [] := by
  rw [messages_eq_map]
  match fs with
  | [] => contradiction
  | [g] => exact h g (List.mem_singleton_self g)
  | g :: g' :: fs =>
    simp only [List.map_cons, summary, String.append_assoc]
    exact Text.append_ne (by decide)

structure Coherent (nodes : List String) (f : Failure) : Prop where
  fatal : f.isRetryable = false
  causes {fs : List Failure} (h : f.causes = some fs) : fs ≠ [] ∧ List.Forall₂ Unanswered nodes fs
  retryable {fs : List Failure} {g : Failure} (h : f.causes = some fs) (hg : g ∈ fs) :
    g.isRetryable = true ∧ (g.kind = .notFound ∨ g.kind = .connectivity)
  unreached {fs : List Failure} (h : f = .noAvailableNode fs) : List.Forall₂ Unreached nodes fs
  source {leaderId : UInt64} {node : String} {g : Failure}
    (h : f = .leaderUnreachable leaderId node g) : Unreached node g
  /-- There is one level of failures within at most. -/
  shallow {g : Failure} (hg : g ∈ f.inner) : g.inner = []
  told {fs : List Failure} (h : f.causes = some fs) :
    summary (messages fs) ≠ "no errors recorded"

variable {nodes : List String} {f : Failure}

theorem Coherent.of_inner (hr : f.isRetryable = false) (hc : f.causes = none)
    (hi : f.inner = []) : Coherent nodes f := by
  have hnone {fs : List Failure} (h : f.causes = some fs) : False := by
    rw [hc] at h
    cases h
  refine ⟨hr, fun h => (hnone h).elim, fun h => (hnone h).elim, ?_, ?_, ?_,
    fun h => (hnone h).elim⟩
  · rintro fs rfl
    exact (hnone rfl).elim
  · rintro leaderId node g rfl
    cases hi
  · intro g hg
    rw [hi] at hg
    cases hg

theorem Coherent.of_unreached {node : String} (leaderId : UInt64) (h : Unreached node f) :
    Coherent nodes (.leaderUnreachable leaderId node f) where
  fatal := rfl
  causes := nofun
  retryable := nofun
  unreached := nofun
  source heq := by
    cases heq
    exact h
  shallow hg := by
    rw [List.mem_singleton.1 hg]
    exact (Unanswered.unreached h).inner_eq
  told := nofun

theorem exists_of_mem_forall₂ {P : String → Failure → Prop} {fs : List Failure} {g : Failure}
    (h : List.Forall₂ P nodes fs) (hg : g ∈ fs) : ∃ node, P node g := by
  induction h with
  | nil => cases hg
  | cons hp _ ih =>
    rcases List.mem_cons.1 hg with rfl | hg
    · exact ⟨_, hp⟩
    · exact ih hg

theorem Coherent.of_unanswered {fs : List Failure} (hn : nodes ≠ [])
    (h : List.Forall₂ Unanswered nodes fs) (hr : f.isRetryable = false)
    (hc : f.causes = some fs) (hi : f.inner = fs)
    (hu : ∀ fs, f = .noAvailableNode fs → List.Forall₂ Unreached nodes fs) : Coherent nodes f := by
  have hfs : fs ≠ [] := by
    rintro rfl
    exact hn (List.forall₂_nil_right_iff.1 h)
  refine ⟨hr, ?_, ?_, hu _, ?_, ?_, ?_⟩
  · intro fs' hfs'
    obtain rfl := Option.some.inj (hc.symm.trans hfs')
    exact ⟨hfs, h⟩
  · intro fs' g hfs' hg
    obtain rfl := Option.some.inj (hc.symm.trans hfs')
    obtain ⟨node, hp⟩ := exists_of_mem_forall₂ h hg
    exact ⟨hp.isRetryable, hp.kind_eq⟩
  · rintro leaderId node g rfl
    cases hc
  · intro g hg
    obtain ⟨node, hp⟩ := exists_of_mem_forall₂ h (hi ▸ hg)
    exact hp.inner_eq
  · intro fs' hfs'
    obtain rfl := Option.some.inj (hc.symm.trans hfs')
    refine summary_ne hfs fun g hg => ?_
    obtain ⟨node, hp⟩ := exists_of_mem_forall₂ h hg
    exact hp.message_ne

theorem inner_of_podsOf {answer : PodMap.Listing} (h : PodMap.podsOf answer = .error f) :
    f.inner = [] := by
  rcases answer with cause | (_ | ⟨p, l⟩) <;> cases h <;> rfl

theorem coherent_of_podsOf {answer : PodMap.Listing} (h : PodMap.podsOf answer = .error f) :
    Coherent nodes f := by
  have hi := inner_of_podsOf h
  rcases answer with cause | (_ | ⟨p, l⟩) <;> cases h <;> exact .of_inner rfl rfl hi

end Failure

namespace Walk

open Failure (Coherent Unreached Unanswered)

theorem forall₂_of_failed {α : Type} (t : Trial σ κ α) {P : String → Failure → Prop}
    (hP : ∀ node w f w', t node w = (.error f, w') → P node f) {nodes : List String}
    {w : World σ κ} {fs : List Failure} (h : outcomes t nodes w = fs.map .error) :
    List.Forall₂ P nodes fs := by
  induction nodes generalizing w fs with
  | nil =>
    have hfs : fs = [] := by simpa [outcomes] using h.symm
    rw [hfs]
    exact .nil
  | cons node nodes ih =>
    obtain ⟨f, rest, rfl, ht, hrest⟩ := outcomes_cons_failed t h
    exact .cons (hP node w f _ ht) (ih hrest)

variable (b : Backend σ κ) (pods : PodMap)

theorem unreached_of_connect {node : String} {w w' : World σ κ} {f : Failure}
    (h : connect b pods node w = (.error f, w')) : Unreached node f := by
  cases hp : pods.pod? node with
  | none =>
    rw [connect_of_none b pods hp] at h
    cases h
    exact .noProxyPod
  | some pod =>
    rw [connect_of_some b pods hp] at h
    rcases hd : w.dial b pod with ⟨cause | c, w₁⟩ <;> rw [hd] at h <;> cases h
    exact .connection pod cause

theorem unanswered_of_survey {node : String} {w w' : World σ κ} {f : Failure}
    (h : survey b pods node w = (.error f, w')) : Unanswered node f := by
  rw [survey_eq] at h
  rcases hc : connect b pods node w with ⟨f' | c, w₁⟩ <;> rw [hc] at h
  · cases h
    exact .unreached (unreached_of_connect b pods hc)
  · dsimp only at h
    rcases hm : w₁.members b c with ⟨cause | members, w₂⟩ <;> rw [hm] at h <;> cases h
    exact .memberQuery cause

variable {nodes : List String} {w : World σ κ} {f : Failure}

theorem coherent_of_firstAvailable (hn : nodes ≠ [])
    (h : (firstAvailable b pods nodes {} w).1 = .error f) : Coherent nodes f := by
  rw [firstAvailable_eq_scan] at h
  rcases hs : scan (connect b pods) nodes w with ⟨fs | ⟨node, c⟩, w'⟩ <;> rw [hs] at h <;> cases h
  have hfs := forall₂_of_failed (connect b pods) (fun _ _ _ _ => unreached_of_connect b pods)
    (failed_of_scan _ hs)
  refine .of_unanswered hn (hfs.imp fun _ _ => .unreached) rfl rfl rfl ?_
  rintro fs' ⟨⟩
  exact hfs

theorem coherent_of_leader (hn : nodes ≠ [])
    (h : (leader b pods nodes nodes {} w).1 = .error f) : Coherent nodes f := by
  rcases hl : leader b pods nodes nodes {} w with ⟨result, w'⟩
  rw [hl] at h
  obtain ⟨dials, hd⟩ := exists_decision_of_leader hl
  cases hd with
  | exhausted hfs =>
    cases h
    have hall := forall₂_of_failed (survey b pods) (fun _ _ _ _ => unanswered_of_survey b pods) hfs
    exact .of_unanswered hn hall rfl rfl rfl nofun
  | notInMembers | notCandidate =>
    cases h
    exact .of_inner rfl rfl rfl
  | noPod =>
    cases h
    exact .of_unreached _ .noProxyPod
  | unreachable =>
    cases h
    exact .of_unreached _ (.connection _ _)
  | connected => cases h

end Walk

namespace Locator

open Failure (Coherent)

theorem coherent_of_search (b : Backend σ κ) {complaint : String} {nodes : List String}
    {walk : PodMap → World σ κ → Except Failure κ × World σ κ}
    (hwalk : nodes ≠ [] → ∀ pods w f, (walk pods w).1 = .error f → Coherent nodes f)
    {l : Locator σ κ} {f : Failure} (h : (l.search b complaint nodes walk).1 = .error f) :
    Coherent nodes f := by
  by_cases hn : nodes = []
  · subst hn
    rw [search_nil] at h
    cases h
    exact .of_inner rfl rfl rfl
  · rcases ready_or_unready b l with ⟨l', hr⟩ | ⟨f', hu⟩
    · rw [search_of_ready hn hr] at h
      exact hwalk hn _ _ _ h
    · rw [search_of_unready hn hu] at h
      cases h
      exact Failure.coherent_of_podsOf hu.fault

theorem coherent_firstAvailable (b : Backend σ κ) {l : Locator σ κ} {nodes : List String}
    {f : Failure} (h : (l.firstAvailable b nodes).1 = .error f) : Coherent nodes f := by
  rw [firstAvailable_eq_search] at h
  exact coherent_of_search b (fun hn pods _ _ => Walk.coherent_of_firstAvailable b pods hn) h

theorem coherent_leader (b : Backend σ κ) {l : Locator σ κ} {nodes : List String}
    {f : Failure} (h : (l.leader b nodes).1 = .error f) : Coherent nodes f := by
  rw [leader_eq_search] at h
  exact coherent_of_search b (fun hn pods _ _ => Walk.coherent_of_leader b pods hn) h

theorem coherent_of_ensure (b : Backend σ κ) {l : Locator σ κ} {nodes : List String} {f : Failure}
    (h : (l.ensure b).1 = .error f) : Coherent nodes f := by
  rcases ready_or_unready b l with ⟨l', hr⟩ | ⟨f', hu⟩
  · rw [hr.ensure_eq] at h
    cases h
  · rw [hu.ensure_eq] at h
    cases h
    exact Failure.coherent_of_podsOf hu.fault

theorem coherent_of_refresh (b : Backend σ κ) {l : Locator σ κ} {nodes : List String} {f : Failure}
    (h : (l.refresh b).1 = .error f) : Coherent nodes f := by
  rw [refresh_eq] at h
  cases hp : PodMap.podsOf (l.world.list b).1 with
  | error f' =>
    rw [hp] at h
    cases h
    exact Failure.coherent_of_podsOf hp
  | ok pods =>
    rw [hp] at h
    cases h

theorem eq_noProxyPod_of_resolve {l : Locator σ κ} {node : String} {f : Failure}
    (h : l.resolve node = .error f) : f = .noProxyPod node := by
  rw [resolve, PodMap.resolve_eq] at h
  cases hp : l.pods.pod? node <;> rw [hp] at h <;> cases h
  rfl

end Locator

namespace Session

/-- A request that fails was for the pod of a node that has none, or it fails as a search does. -/
theorem coherent_or_noProxyPod (b : Backend σ κ) {s : Session σ κ} {o : Operation σ} {f : Failure}
    (h : (s.step b o).1 = .failed f) :
    (∃ nodes, f.Coherent nodes) ∨ ∃ node, f = .noProxyPod node := by
  rcases failed_cases b h with ⟨nodes, h⟩ | ⟨nodes, h⟩ | h | h | ⟨node, h⟩
  · exact .inl ⟨nodes, Locator.coherent_leader b h⟩
  · exact .inl ⟨nodes, Locator.coherent_firstAvailable b h⟩
  · exact .inl ⟨[], Locator.coherent_of_ensure b h⟩
  · exact .inl ⟨[], Locator.coherent_of_refresh b h⟩
  · exact .inr ⟨node, Locator.eq_noProxyPod_of_resolve h⟩

/-- What a request fails with holds failures, if any, that hold none themselves. -/
theorem inner_of_failed (b : Backend σ κ) {s : Session σ κ} {o : Operation σ} {f g : Failure}
    (h : (s.step b o).1 = .failed f) (hg : g ∈ f.inner) : g.inner = [] := by
  rcases coherent_or_noProxyPod b h with ⟨nodes, hf⟩ | ⟨node, rfl⟩
  · exact hf.shallow hg
  · cases hg

end Session

/-- The failures of both searches are coherent. Those of other requests are as well, unless it is
the pod of one node that is asked for; and no request fails with more than one level of failures
within. -/
theorem failures_coherent (b : Backend σ κ) :
    (∀ (l : Locator σ κ) nodes f, (l.leader b nodes).1 = .error f → f.Coherent nodes) ∧
    (∀ (l : Locator σ κ) nodes f, (l.firstAvailable b nodes).1 = .error f → f.Coherent nodes) ∧
    ∀ (s : Session σ κ) o f, (s.step b o).1 = .failed f →
      ((∃ nodes, f.Coherent nodes) ∨ ∃ node, f = .noProxyPod node) ∧
      ∀ g ∈ f.inner, g.inner = [] :=
  ⟨fun _ _ _ h => Locator.coherent_leader b h, fun _ _ _ h => Locator.coherent_firstAvailable b h,
    fun _ _ _ h => ⟨Session.coherent_or_noProxyPod b h, fun _ => Session.inner_of_failed b h⟩⟩

/-- A node without a pod, one that refuses, and one that can be dialled but not asked. -/
theorem failures_coherent_silent :
    let script : Script := {
      listing := .ok [⟨"a", "etcd-a"⟩, ⟨"b", "etcd-b"⟩]
      behaviours := [("etcd-b", [.serves 7 (.error ⟨"timeout", []⟩)])] }
    let l : Locator Script Script.Connection := .start script
    let nodes := ["c", "a", "b"]
    ∃ fs, (l.leader Script.backend nodes).1 = .error (.noReachableLeader fs) ∧ fs.length = 3 ∧
      (Failure.noReachableLeader fs).Coherent nodes := by
  intro script l nodes
  exact ⟨_, rfl, rfl, (failures_coherent Script.backend).1 l nodes _ rfl⟩

end EtcdLocator
