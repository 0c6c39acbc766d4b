import EtcdLocator.Locator.Script
import EtcdLocator.Proofs.Search
import Mathlib.Data.List.Perm.Basic

namespace EtcdLocator

structure Reply where
  endpoint : String
  leaderId : UInt64
  members : Except Cause (List Member)

variable {σ κ : Type}

/-- In the states `S`, which no call to the members leaves, each pod answers as in `reply`. -/
structure Backend.Stable (b : Backend σ κ) (S : σ → Prop) (reply : String → Except Cause Reply) :
    Prop where
  dial_mem {s} (pod : String) (h : S s) : S (b.dial pod s).2
  members_mem {s} (c : κ) (h : S s) : S (b.members c s).2
  release_mem {s} (c : κ) (h : S s) : S (b.release c s)
  dial_eq {s} (pod : String) (h : S s) :
    (b.dial pod s).1.map (fun c => (b.endpoint c, b.leaderId c)) =
      (reply pod).map fun r => (r.endpoint, r.leaderId)
  members_eq {s s' pod c r} (h : S s) (h' : S s') (hd : (b.dial pod s).1 = .ok c)
    (hr : reply pod = .ok r) : (b.members c s').1 = r.members

namespace Backend.Stable

variable {b : Backend σ κ} {S : σ → Prop} {reply : String → Except Cause Reply} {pod : String}
  {w w' : World σ κ}

theorem of_refused {cause : Cause} (h : Stable b S reply) (hw : S w.state)
    (hd : w.dial b pod = (.error cause, w')) : S w'.state ∧ reply pod = .error cause := by
  have hmem := h.dial_mem pod hw
  have heq := h.dial_eq pod hw
  rw [← w.state_dial b pod, hd] at hmem
  rw [← w.dial_fst b pod, hd] at heq
  refine ⟨hmem, ?_⟩
  cases hr : reply pod with
  | error cause' =>
    rw [hr] at heq
    cases heq
    rfl
  | ok r =>
    rw [hr] at heq
    cases heq

theorem of_opened {c : κ} (h : Stable b S reply) (hw : S w.state)
    (hd : w.dial b pod = (.ok c, w')) :
    S w'.state ∧ ∃ r, reply pod = .ok r ∧ b.endpoint c = r.endpoint ∧ b.leaderId c = r.leaderId ∧
      (w'.members b c).1 = r.members := by
  have hmem := h.dial_mem pod hw
  have heq := h.dial_eq pod hw
  rw [← w.state_dial b pod, hd] at hmem
  rw [← w.dial_fst b pod, hd] at heq
  refine ⟨hmem, ?_⟩
  cases hr : reply pod with
  | error cause =>
    rw [hr] at heq
    cases heq
  | ok r =>
    rw [hr] at heq
    obtain ⟨hendpoint, hleader⟩ := Prod.mk.inj (Except.ok.inj heq)
    refine ⟨r, rfl, hendpoint, hleader, h.members_eq hw hmem ?_ hr⟩
    rw [← w.dial_fst b pod, hd]

theorem asked_mem (h : Stable b S reply) (hw : S w.state) (c : κ) :
    S ((w.members b c).2.close b c).state := h.release_mem c (h.members_mem c hw)

end Backend.Stable

/-- All pods that give an answer give the same. -/
def Consistent (reply : String → Except Cause Reply) : Prop :=
  ∀ pod pod' r r' ms ms', reply pod = .ok r → reply pod' = .ok r' → r.members = .ok ms →
    r'.members = .ok ms' → r.leaderId = r'.leaderId ∧ ms = ms'

namespace Script

theorem behaviours?_setBehaviours (s : Script) (pod pod' : String) (l : List Behaviour) :
    (s.setBehaviours pod l).behaviours? pod' = if pod = pod' then l else s.behaviours? pod' := by
  unfold behaviours? setBehaviours
  by_cases hpod : pod = pod'
  · simp [hpod]
  · rw [if_neg hpod, List.find?_cons_of_neg (by simpa using hpod), List.find?_filter]
    congr 3
    funext e
    grind

def reply (s : Script) (pod : String) : Except Cause Reply :=
  match (next (s.behaviours? pod)).1 with
  | .refuses cause => .error cause
  | .serves leaderId members => .ok ⟨pod, leaderId, members⟩

/-- What a dial comes to is what the pod says, whatever it says afterwards. -/
theorem dial_fst (s : Script) (pod : String) :
    (s.dial pod).1 = (s.reply pod).map fun r => ⟨pod, r.leaderId, r.members⟩ := by
  unfold dial reply
  dsimp only
  cases (next (s.behaviours? pod)).1 <;> rfl

theorem behaviours?_dial (s : Script) (pod pod' : String) :
    (s.dial pod).2.behaviours? pod' =
      if pod = pod' then (next (s.behaviours? pod)).2 else s.behaviours? pod' := by
  rw [← behaviours?_setBehaviours]
  unfold dial
  dsimp only
  cases (next (s.behaviours? pod)).1 <;> rfl

theorem next_snd {l : List Behaviour} (h : l.length ≤ 1) : (next l).2 = l := by
  match l with
  | [] => rfl
  | [_] => rfl
  | _ :: _ :: _ => simp at h

theorem length_behaviours?_le {s : Script} (h : ∀ e ∈ s.behaviours, e.2.length ≤ 1)
    (pod : String) : (s.behaviours? pod).length ≤ 1 := by
  unfold behaviours?
  cases hf : s.behaviours.find? (·.1 = pod) with
  | none => simp
  | some e => exact h e (List.mem_of_find?_eq_some hf)

/-- A script that gives each pod one behaviour is of a stable cluster. -/
theorem stable_backend {s : Script} (h : ∀ e ∈ s.behaviours, e.2.length ≤ 1) :
    backend.Stable (fun s' => ∀ pod, s'.behaviours? pod = s.behaviours? pod) s.reply where
  dial_mem {s'} pod hs := by
    intro pod'
    show (s'.dial pod).2.behaviours? pod' = _
    rw [behaviours?_dial]
    split
    · rename_i hpod
      rw [hs pod, next_snd (length_behaviours?_le h pod), hpod]
    · exact hs pod'
  members_mem _ hs := hs
  release_mem _ hs := hs
  dial_eq {s'} pod hs := by
    show (s'.dial pod).1.map _ = _
    have hreply : s'.reply pod = s.reply pod := by rw [reply, hs, reply]
    rw [dial_fst, hreply, reply]
    cases (next (s.behaviours? pod)).1 <;> rfl
  members_eq {s' s'' pod c r} hs hs' hd hr := by
    change (s'.dial pod).1 = _ at hd
    have hreply : s'.reply pod = s.reply pod := by rw [reply, hs, reply]
    rw [dial_fst, hreply, hr] at hd
    cases hd
    rfl

theorem mem_of_next {l : List Behaviour} {leaderId : UInt64} {members : Except Cause (List Member)}
    (h : (next l).1 = .serves leaderId members) : .serves leaderId members ∈ l := by
  match l with
  | [] => cases h
  | [_] => exact List.mem_singleton.2 h.symm
  | _ :: _ :: _ => exact h ▸ List.mem_cons_self

/-- A script in which all members say the same is of a consistent one. -/
theorem consistent_reply {s : Script} (leaderId : UInt64) (members : List Member)
    (h : ∀ e ∈ s.behaviours, ∀ id ms, .serves id (.ok ms) ∈ e.2 → id = leaderId ∧ ms = members) :
    Consistent s.reply := by
  have hsay (pod : String) (r : Reply) (ms : List Member) (hr : s.reply pod = .ok r)
      (hms : r.members = .ok ms) : r.leaderId = leaderId ∧ ms = members := by
    unfold reply at hr
    cases hn : (next (s.behaviours? pod)).1 with
    | refuses cause =>
      rw [hn] at hr
      cases hr
    | serves id answer =>
      rw [hn] at hr
      cases hr
      have hmem := mem_of_next hn
      unfold behaviours? at hmem
      cases hf : s.behaviours.find? (·.1 = pod) with
      | none => simp [hf] at hmem
      | some e =>
        rw [hf] at hmem
        cases hms
        exact h e (List.mem_of_find?_eq_some hf) id ms hmem
  intro pod pod' r r' ms ms' hr hr' hms hms'
  obtain ⟨hid, rfl⟩ := hsay pod r ms hr hms
  obtain ⟨hid', rfl⟩ := hsay pod' r' ms' hr' hms'
  exact ⟨hid.trans hid'.symm, rfl⟩

end Script

namespace Walk

def verdict (reply : String → Except Cause Reply) (pods : PodMap) (node : String) :
    Except Failure Testimony :=
  match pods.pod? node with
  | none => .error (.noProxyPod node)
  | some pod =>
    match reply pod with
    | .error cause => .error (.connection node pod cause)
    | .ok r =>
      match r.members with
      | .error cause => .error (.memberQuery node cause)
      | .ok members => .ok ⟨r.leaderId, members⟩

def site (reply : String → Except Cause Reply) (pods : PodMap) (node : String) :
    Except Failure Reply :=
  match pods.pod? node with
  | none => .error (.noProxyPod node)
  | some pod => (reply pod).mapError (.connection node pod)

variable {b : Backend σ κ} {S : σ → Prop} {reply : String → Except Cause Reply} {pods : PodMap}
  {node : String} {w : World σ κ}

theorem reply_of_verdict {t : Testimony} (h : verdict reply pods node = .ok t) :
    ∃ pod r, reply pod = .ok r ∧ r.leaderId = t.leaderId ∧ r.members = .ok t.members := by
  unfold verdict at h
  cases hp : pods.pod? node with
  | none => simp [hp] at h
  | some pod =>
    cases hr : reply pod with
    | error cause => simp [hp, hr] at h
    | ok r =>
      cases hm : r.members with
      | error cause => simp [hp, hr, hm] at h
      | ok members =>
        simp only [hp, hr, hm, Except.ok.injEq] at h
        subst h
        exact ⟨pod, r, hr, rfl, hm⟩

theorem verdict_unique (hc : Consistent reply) {node' : String} {t t' : Testimony}
    (h : verdict reply pods node = .ok t) (h' : verdict reply pods node' = .ok t') : t = t' := by
  obtain ⟨pod, r, hr, hid, hms⟩ := reply_of_verdict h
  obtain ⟨pod', r', hr', hid', hms'⟩ := reply_of_verdict h'
  obtain ⟨hleader, hmembers⟩ := hc pod pod' r r' _ _ hr hr' hms hms'
  exact Testimony.ext (hid.symm.trans (hleader.trans hid')) hmembers

theorem survey_stable (pods : PodMap) (h : b.Stable S reply) (node : String) (hw : S w.state) :
    (survey b pods node w).1 = verdict reply pods node ∧ S (survey b pods node w).2.state := by
  -- the probe is asked in the state after its own dial, which is one of `S` as well
  rcases survey_cases b pods node w with ⟨hp, hs⟩ | ⟨pod, cause, w', hp, hd, hs⟩ |
    ⟨pod, probe, w', cause, w'', hp, hd, hm, hs⟩ | ⟨pod, probe, w', members, w'', hp, hd, hm, hs⟩
  · rw [hs]
    exact ⟨by simp [verdict, hp], hw⟩
  · obtain ⟨hw', hr⟩ := h.of_refused hw hd
    rw [hs]
    exact ⟨by simp [verdict, hp, hr], hw'⟩
  · obtain ⟨hw', r, hr, -, -, hmembers⟩ := h.of_opened hw hd
    have hmem := h.asked_mem hw' probe
    rw [hm] at hmembers hmem
    rw [hs]
    exact ⟨by simp [verdict, hp, hr, ← hmembers], hmem⟩
  · obtain ⟨hw', r, hr, -, hleader, hmembers⟩ := h.of_opened hw hd
    have hmem := h.asked_mem hw' probe
    rw [hm] at hmembers hmem
    rw [hs]
    exact ⟨by simp [verdict, hp, hr, ← hmembers, hleader], hmem⟩

theorem outcomes_stable (pods : PodMap) (h : b.Stable S reply) (nodes : List String)
    (hw : S w.state) :
    outcomes (survey b pods) nodes w = nodes.map (verdict reply pods) ∧
      S (after (survey b pods) nodes w).state := by
  induction nodes generalizing w with
  | nil => exact ⟨rfl, hw⟩
  | cons node nodes ih =>
    obtain ⟨hv, hw'⟩ := survey_stable pods h node hw
    obtain ⟨hrest, hafter⟩ := ih hw'
    exact ⟨by rw [outcomes, hv, hrest, List.map_cons], hafter⟩

/-- Who decides, and in which of the states, is all that depends on the order. -/
theorem leader_stable (pods : PodMap) (h : b.Stable S reply) (candidates nodes : List String)
    (hw : S w.state) :
    (∃ fs : List Failure, nodes.map (verdict reply pods) = fs.map .error ∧
      (leader b pods candidates nodes {} w).1 = .error (.noReachableLeader fs)) ∨
    ∃ node ∈ nodes, ∃ t w', verdict reply pods node = .ok t ∧ S w'.state ∧
      (leader b pods candidates nodes {} w).1 =
        (follow b pods candidates t.leaderId node t.members w').1 := by
  rw [leader_eq_scan]
  rcases failed_or_first (survey b pods) nodes w with
    ⟨fs, hfs⟩ | ⟨before, node, rest, fs, t, w', rfl, hfs, ha⟩
  · refine .inl ⟨fs, (outcomes_stable pods h nodes hw).1.symm.trans hfs, ?_⟩
    rw [scan_of_failed _ hfs]
    rfl
  · obtain ⟨hv, hw'⟩ := survey_stable pods h node (outcomes_stable pods h before hw).2
    rw [ha] at hv hw'
    refine .inr ⟨node, by simp, t, w', hv.symm, hw', ?_⟩
    rw [scan_of_first _ hfs ha]

theorem connect_stable (pods : PodMap) (h : b.Stable S reply) (node : String) (hw : S w.state) :
    (connect b pods node w).1.map (fun c => (b.endpoint c, b.leaderId c)) =
      (site reply pods node).map fun r => (r.endpoint, r.leaderId) := by
  cases hp : pods.pod? node with
  | none =>
    rw [connect_of_none b pods hp]
    simp [site, hp, Except.map]
  | some pod =>
    have hsite : site reply pods node = (reply pod).mapError (.connection node pod) := by
      rw [site, hp]
    rw [hsite]
    rcases hd : w.dial b pod with ⟨_ | c, w'⟩
    · obtain ⟨-, hr⟩ := h.of_refused hw hd
      rw [connect_of_refused b pods hp hd, hr]
      rfl
    · obtain ⟨-, r, hr, hendpoint, hleader, -⟩ := h.of_opened hw hd
      rw [connect_of_opened b pods hp hd, hr]
      exact congrArg Except.ok (Prod.ext hendpoint hleader)

end Walk

/-- Results that differ in nothing that matters. -/
inductive Alike (b : Backend σ κ) (nodes nodes' : List String) :
    Except Failure κ → Except Failure κ → Prop
  | connected {c c'} (endpoint : b.endpoint c = b.endpoint c')
      (leaderId : b.leaderId c = b.leaderId c') : Alike b nodes nodes' (.ok c) (.ok c')
  | notInMembers (leaderId node node') :
      Alike b nodes nodes' (.error (.leaderNotInMembers leaderId node))
        (.error (.leaderNotInMembers leaderId node'))
  | notCandidate (leaderId node) :
      Alike b nodes nodes' (.error (.leaderNodeNotCandidate leaderId node))
        (.error (.leaderNodeNotCandidate leaderId node))
  | unreachable (leaderId node f) :
      Alike b nodes nodes' (.error (.leaderUnreachable leaderId node f))
        (.error (.leaderUnreachable leaderId node f))
  | noLeader {fs fs'} (mem : ∀ f, f ∈ fs ↔ f ∈ fs') (perm : nodes.Perm nodes' → fs.Perm fs') :
      Alike b nodes nodes' (.error (.noReachableLeader fs)) (.error (.noReachableLeader fs'))

section

variable {b : Backend σ κ} {S : σ → Prop} {reply : String → Except Cause Reply} {pods : PodMap}
  {nodes nodes' : List String}

theorem alike_of_failures {verdict : String → Except Failure Walk.Testimony} {fs fs' : List Failure}
    (hsame : ∀ node, node ∈ nodes ↔ node ∈ nodes') (h : nodes.map verdict = fs.map .error)
    (h' : nodes'.map verdict = fs'.map .error) :
    Alike b nodes nodes' (.error (.noReachableLeader fs)) (.error (.noReachableLeader fs')) := by
  have hmem (f : Failure) : f ∈ fs ↔ ∃ node ∈ nodes, verdict node = .error f := by
    rw [← List.mem_map, h, List.mem_map]
    simp
  have hmem' (f : Failure) : f ∈ fs' ↔ ∃ node ∈ nodes', verdict node = .error f := by
    rw [← List.mem_map, h', List.mem_map]
    simp
  refine .noLeader ?_ ?_
  · intro f
    rw [hmem, hmem']
    simp only [hsame]
  · intro hperm
    have hp := hperm.map verdict
    rw [h, h'] at hp
    exact (List.map_perm_map_iff fun _ _ => Except.error.inj).1 hp

theorem alike_follow (h : b.Stable S reply) (hsame : ∀ node, node ∈ nodes ↔ node ∈ nodes')
    (t : Walk.Testimony) (node node' : String) {w w' : World σ κ} (hw : S w.state)
    (hw' : S w'.state) :
    Alike b nodes nodes' (Walk.follow b pods nodes t.leaderId node t.members w).1
      (Walk.follow b pods nodes' t.leaderId node' t.members w').1 := by
  rw [Walk.follow_eq, Walk.follow_eq]
  -- the two lists matter only through the question whether the node of the leader is in them
  cases t.leader? with
  | none => exact .notInMembers _ _ _
  | some m =>
    dsimp only
    by_cases hm : m.nodeName ∈ nodes
    · rw [if_pos hm, if_pos ((hsame _).1 hm)]
      have hc := (Walk.connect_stable pods h m.nodeName hw).trans
        (Walk.connect_stable pods h m.nodeName hw').symm
      dsimp only
      generalize (Walk.connect b pods m.nodeName w).1 = r at hc
      generalize (Walk.connect b pods m.nodeName w').1 = r' at hc
      cases r with
      | error f =>
        cases r' with
        | error f' =>
          cases hc
          exact .unreachable _ _ f
        | ok c' => cases hc
      | ok c =>
        cases r' with
        | error f' => cases hc
        | ok c' =>
          obtain ⟨hendpoint, hleader⟩ := Prod.mk.inj (Except.ok.inj hc)
          exact .connected hendpoint hleader
    · rw [if_neg hm, if_neg (hm ∘ (hsame _).2)]
      exact .notCandidate _ _

/-- In a stable and consistent cluster two searches for the leader among the same nodes come to the
same. -/
theorem Locator.leader_alike (h : b.Stable S reply) (hc : Consistent reply)
    {l l' : Locator σ κ} (hl : S l.world.state) (hl' : S l'.world.state)
    (hb : l.pods.isBuilt = true) (hp : l'.pods = l.pods) (hn : nodes ≠ [])
    (hsame : ∀ node, node ∈ nodes ↔ node ∈ nodes') :
    Alike b nodes nodes' (l.leader b nodes).1 (l'.leader b nodes').1 := by
  have hn' : nodes' ≠ [] := by
    obtain ⟨node, hnode⟩ := List.exists_mem_of_ne_nil _ hn
    exact List.ne_nil_of_mem ((hsame node).1 hnode)
  rw [leader_eq_search, leader_eq_search, search_of_ready hn (.built hb),
    search_of_ready hn' (.built (hp ▸ hb)), hp]
  -- the nodes of the two lists have the same verdicts, so that either all fail in both or one
  -- decides in each
  rcases Walk.leader_stable l.pods h nodes nodes hl with
    ⟨fs, hfs, hr⟩ | ⟨node, hnode, t, w, hv, hw, hr⟩ <;>
  rcases Walk.leader_stable l.pods h nodes' nodes' hl' with
    ⟨fs', hfs', hr'⟩ | ⟨node', hnode', t', w', hv', hw', hr'⟩
  · rw [hr, hr']
    exact alike_of_failures hsame hfs hfs'
  · have hmem := List.mem_map_of_mem (f := Walk.verdict reply l.pods) ((hsame node').2 hnode')
    rw [hfs, hv'] at hmem
    simp at hmem
  · have hmem := List.mem_map_of_mem (f := Walk.verdict reply l.pods) ((hsame node).1 hnode)
    rw [hfs', hv] at hmem
    simp at hmem
  · obtain rfl := Walk.verdict_unique hc hv hv'
    rw [hr, hr']
    exact alike_follow h hsame t node node' hw hw'

def Script.pair : Script where
  listing := .ok [⟨"a", "etcd-a"⟩, ⟨"b", "etcd-b"⟩]
  behaviours := [("etcd-a", [.refuses ⟨"connection refused", []⟩]),
    ("etcd-b", [.serves 7 (.ok [⟨7, "b-1", [], [], false⟩])])]

theorem Locator.leader_alike_pair :
    let l : Locator Script Script.Connection :=
      ⟨⟨some [⟨"a", "etcd-a"⟩, ⟨"b", "etcd-b"⟩]⟩, ⟨Script.pair, []⟩⟩
    (l.leader Script.backend ["a", "b"]).1.isOk = true ∧
      Alike Script.backend ["a", "b"] ["b", "a", "b"] (l.leader Script.backend ["a", "b"]).1
        (l.leader Script.backend ["b", "a", "b"]).1 := by
  intro l
  have hstable := Script.stable_backend (s := Script.pair) (by decide)
  have hconsistent : Consistent Script.pair.reply :=
    Script.consistent_reply 7 [⟨7, "b-1", [], [], false⟩] (by simp [Script.pair])
  refine ⟨by decide, ?_⟩
  exact leader_alike hstable hconsistent (fun _ => rfl) (fun _ => rfl) rfl rfl (by simp)
    (by simp [or_comm])

end

end EtcdLocator
