import EtcdLocator.Locator.Script
import EtcdLocator.Proofs.Decision
import EtcdLocator.Proofs.Words

namespace EtcdLocator

variable {σ κ : Type}

open Event

/-- The calls open `c` last, at `pod`, and no other connection before. -/
def Event.OpensLast (pod : String) (c : κ) (es : List (Event κ)) : Prop :=
  ∃ before, es = before ++ [opened pod c] ∧ before.filterMap opened? = []

theorem World.Adds.isPrefix {L : List (Event κ) → Prop} {w w' : World σ κ} (h : Adds L w w') :
    w.events <+: w'.events := by
  obtain ⟨es, -, he⟩ := h
  exact ⟨es, he.symm⟩

namespace Walk

variable (b : Backend σ κ) (pods : PodMap)

theorem survey_of_unconnected {node : String} {w w' : World σ κ} {f : Failure}
    (h : connect b pods node w = (.error f, w')) : survey b pods node w = (.error f, w') := by
  rw [survey_eq, h]

theorem isPrefix_survey_of_connected {node : String} {w w' : World σ κ} {c : κ}
    (h : connect b pods node w = (.ok c, w')) :
    w'.events <+: (survey b pods node w).2.events := by
  rw [survey_eq, h]
  simp [List.append_assoc]

variable {b pods}

/-- Tries take back no call, and so neither does a scan. -/
theorem isPrefix_scan {α : Type} {t : Trial σ κ α}
    (ht : ∀ node w, w.events <+: (t node w).2.events) (nodes : List String) (w : World σ κ) :
    w.events <+: (scan t nodes w).2.events := by
  induction nodes generalizing w with
  | nil => exact List.prefix_refl _
  | cons node nodes ih =>
    have hs := ht node w
    rcases h : t node w with ⟨f | a, w₁⟩ <;> rw [h] at hs
    · rw [scan_cons_error _ h]
      exact hs.trans (ih w₁)
    · rw [scan_cons_ok _ h]
      exact hs

variable (b pods)

theorem isPrefix_scan_connect (nodes : List String) (w : World σ κ) :
    w.events <+: (scan (connect b pods) nodes w).2.events :=
  isPrefix_scan (fun node w => (connect_adds b pods node w).isPrefix) nodes w

theorem isPrefix_scan_survey (nodes : List String) (w : World σ κ) :
    w.events <+: (scan (survey b pods) nodes w).2.events :=
  isPrefix_scan (fun node w => (survey_adds b pods node w).isPrefix) nodes w

/-- A try at a connection opens the one that it comes to, and none if it fails. -/
theorem connect_opens (node : String) (w : World σ κ) :
    (∃ f w', connect b pods node w = (.error f, w') ∧
      World.Adds (fun es => es.filterMap opened? = []) w w') ∨
    ∃ c w' pod, connect b pods node w = (.ok c, w') ∧ World.Adds (OpensLast pod c) w w' := by
  cases hp : pods.pod? node with
  | none => exact .inl ⟨_, w, connect_of_none b pods hp w, [], rfl, by simp⟩
  | some pod =>
    have he := w.events_dial b pod
    rcases hd : w.dial b pod with ⟨cause | c, w'⟩ <;> rw [hd] at he
    · exact .inl ⟨_, w', connect_of_refused b pods hp hd, _, rfl, he⟩
    · exact .inr ⟨c, w', pod, connect_of_opened b pods hp hd, _, ⟨[], rfl, rfl⟩, he⟩

/-- A scan for a connection and a survey of the same nodes fail alike. Where the scan comes to a
connection, the survey has made the same calls, and more. -/
theorem scan_in_step (nodes : List String) (w : World σ κ) :
    (∃ fs w', scan (connect b pods) nodes w = (.error fs, w') ∧
      scan (survey b pods) nodes w = (.error fs, w')) ∨
    ∃ node c w' pod, scan (connect b pods) nodes w = (.ok (node, c), w') ∧
      World.Adds (OpensLast pod c) w w' ∧
      w'.events <+: (scan (survey b pods) nodes w).2.events := by
  induction nodes generalizing w with
  | nil => exact .inl ⟨[], w, rfl, rfl⟩
  | cons node nodes ih =>
    rcases connect_opens b pods node w with ⟨f, w₁, hc, hadds⟩ | ⟨c, w₁, pod, hc, hadds⟩
    -- a node that cannot be connected to is passed over by both, with the same calls
    · have hs := survey_of_unconnected b pods hc
      rw [scan_cons_error _ hc, scan_cons_error _ hs]
      rcases ih w₁ with ⟨fs, w', hfs, hfs'⟩ | ⟨found, c, w', pod, hfound, hopens, hpre⟩
      · exact .inl ⟨f :: fs, w', by rw [hfs]; rfl, by rw [hfs']; rfl⟩
      · refine .inr ⟨found, c, w', pod, by rw [hfound]; rfl, ?_, hpre⟩
        apply hadds.trans hopens
        rintro es more hes ⟨before, rfl, hbefore⟩
        exact ⟨es ++ before, (List.append_assoc _ _ _).symm, by simp [hes, hbefore]⟩
    · have hpre := isPrefix_survey_of_connected b pods hc
      refine .inr ⟨node, c, w₁, pod, scan_cons_ok _ hc nodes, hadds, hpre.trans ?_⟩
      rcases hs : survey b pods node w with ⟨f | t, w₂⟩
      · rw [scan_cons_error _ hs]
        exact isPrefix_scan_survey b pods nodes w₂
      · simp only [scan_cons_ok _ hs, List.prefix_refl]

theorem isPrefix_leader (candidates nodes : List String) (met : Attempts) (w : World σ κ) :
    (scan (survey b pods) nodes w).2.events <+:
      (leader b pods candidates nodes met w).2.events := by
  rw [leader_eq_scan]
  rcases scan (survey b pods) nodes w with ⟨fs | ⟨node, t⟩, w'⟩
  · exact List.prefix_refl _
  · exact (follow_adds b pods candidates node t w').isPrefix

end Walk

namespace Locator

/-- How a search for the leader compares with one for any connection, both begun at `l`. -/
structure InStep (l : Locator σ κ) (first leader : Except Failure κ × Locator σ κ) : Prop where
  inventory_iff (f : Failure) (h : f.kind = .inventory) :
    first.1 = .error f ↔ leader.1 = .error f
  exhausted {fs : List Failure} (h : first.1 = .error (.noAvailableNode fs)) :
    leader = (.error (.noReachableLeader fs), first.2)
  dialled {c : κ} (h : first.1 = .ok c) :
    ∃ dials more, first.2.world.dialled = l.world.dialled ++ dials ∧
      leader.2.world.dialled = l.world.dialled ++ dials ++ more
  opened {c : κ} (h : first.1 = .ok c) :
    ∃ pod es more, OpensLast pod c es ∧ first.2.world.events = l.world.events ++ es ∧
      leader.2.world.events = l.world.events ++ es ++ more
  found_of_leader {c : κ} (h : leader.1 = .ok c) : ∃ c', first.1 = .ok c'

theorem InStep.of_fault {l l' : Locator σ κ} {f : Failure} (hf : f.kind = .inventory) :
    InStep l (.error f, l') (.error f, l') where
  inventory_iff _ _ := .rfl
  exhausted h := by
    cases h
    cases hf
  dialled := nofun
  opened := nofun
  found_of_leader := nofun

theorem InStep.of_exhausted {l l' : Locator σ κ} (fs : List Failure) :
    InStep l (.error (.noAvailableNode fs), l') (.error (.noReachableLeader fs), l') where
  inventory_iff f hf := by
    constructor <;>
    · rintro ⟨⟩
      cases hf
  exhausted h := by
    cases h
    rfl
  dialled := nofun
  opened := nofun
  found_of_leader := nofun

theorem InStep.of_found {l l' : Locator σ κ} {c : κ} {pod : String} {es : List (Event κ)}
    {leader : Except Failure κ × Locator σ κ}
    (hk : ∀ f, leader.1 = .error f → f.kind ≠ .inventory) (hes : OpensLast pod c es)
    (he : l'.world.events = l.world.events ++ es)
    (hpre : l'.world.events <+: leader.2.world.events) : InStep l (.ok c, l') leader where
  inventory_iff f hf := ⟨nofun, fun h => absurd hf (hk f h)⟩
  exhausted := nofun
  dialled _ := by
    obtain ⟨more, hmore⟩ := hpre
    refine ⟨es.filterMap dialled?, more.filterMap dialled?, ?_, ?_⟩
    · simp [World.dialled, he]
    · simp [World.dialled, ← hmore, he]
  opened h := by
    cases h
    obtain ⟨more, hmore⟩ := hpre
    exact ⟨pod, es, more, hes, he, by rw [← hmore, he]⟩
  found_of_leader _ := ⟨c, rfl⟩

/-- A listing that was needed comes before all that the walk does. -/
theorem Ready.adds_opensLast {b : Backend σ κ} {l l' : Locator σ κ} {w : World σ κ} {pod : String}
    {c : κ} (h : Ready b l l') (hw : World.Adds (OpensLast pod c) l'.world w) :
    World.Adds (OpensLast pod c) l.world w := by
  rcases h.events_eq with he | ⟨answer, he⟩
  · obtain ⟨es, hes, hw⟩ := hw
    exact ⟨es, hes, by rw [hw, he]⟩
  · have hl : World.Adds (fun es => es = [.listed answer]) l.world l'.world := ⟨_, rfl, he⟩
    apply hl.trans hw
    rintro _ more rfl ⟨before, rfl, hbefore⟩
    exact ⟨.listed answer :: before, rfl, hbefore⟩

/-- The search for the leader tries the candidates as the search for any connection does, with the
same failures, up to the first connection that it opens. -/
theorem searches_in_step (b : Backend σ κ) (l : Locator σ κ) {nodes : List String}
    (hn : nodes ≠ []) : InStep l (l.firstAvailable b nodes) (l.leader b nodes) := by
  rw [firstAvailable_eq_search, leader_eq_search]
  rcases ready_or_unready b l with ⟨l', hr⟩ | ⟨f, hu⟩
  · rw [search_of_ready hn hr, search_of_ready hn hr, Walk.firstAvailable_eq_scan]
    rcases Walk.scan_in_step b l'.pods nodes l'.world with
      ⟨fs, w, hfs, hfs'⟩ | ⟨node, c, w, pod, hc, hopens, hpre⟩
    · rw [Walk.leader_eq_scan, hfs, hfs']
      exact .of_exhausted fs
    · rw [hc]
      obtain ⟨es, hes, he⟩ := hr.adds_opensLast hopens
      refine .of_found ?_ hes he (hpre.trans (Walk.isPrefix_leader b l'.pods nodes nodes {} _))
      intro f hf
      obtain ⟨dials, hd⟩ := Walk.exists_decision_of_leader (Prod.ext hf rfl)
      exact hd.kind_ne.2
  · rw [search_of_unready hn hu, search_of_unready hn hu]
    exact .of_fault (PodMap.kind_of_podsOf hu.fault)

/-- The first node refuses. The second can be dialled but not asked, and the third is found to be
the leader's. -/
theorem searches_in_step_silent :
    let script : Script := {
      listing := .ok [⟨"a", "etcd-a"⟩, ⟨"b", "etcd-b"⟩, ⟨"c", "etcd-c"⟩]
      behaviours := [("etcd-b", [.serves 7 (.error ⟨"timeout", []⟩)]),
        ("etcd-c", [.serves 7 (.ok [⟨7, "c-1", [], [], false⟩])])] }
    let l : Locator Script Script.Connection := start script
    let nodes := ["a", "b", "c"]
    nodes ≠ [] ∧ (l.firstAvailable Script.backend nodes).1.map (·.pod) = .ok "etcd-b" ∧
      (l.leader Script.backend nodes).1.map (·.pod) = .ok "etcd-c" ∧
      InStep l (l.firstAvailable Script.backend nodes) (l.leader Script.backend nodes) := by
  intro script l nodes
  have hn : nodes ≠ [] := by simp [nodes]
  exact ⟨hn, rfl, rfl, searches_in_step Script.backend l hn⟩

end Locator

end EtcdLocator
