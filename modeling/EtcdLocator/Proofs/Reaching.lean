import EtcdLocator.Proofs.Leadership

namespace EtcdLocator

variable {σ κ : Type}

def Event.queried? : Event κ → Option κ
  | asked c _ => some c
  | _ => none

namespace World

variable (b : Backend σ κ)

def queried (w : World σ κ) : List κ := w.events.filterMap Event.queried?

@[simp] theorem queried_list (w : World σ κ) : (w.list b).2.queried = w.queried := by
  simp [queried, Event.queried?]

@[simp] theorem queried_dial (pod : String) (w : World σ κ) :
    (w.dial b pod).2.queried = w.queried := by
  rw [queried, events_dial, List.filterMap_append]
  cases (w.dial b pod).1 <;> simp [queried, Event.queried?]

end World

/-- Connections go where they were dialled to, also after other calls. -/
theorem Backend.Faithful.endpoint_eq {b : Backend σ κ} (hb : b.Faithful) {w w' : World σ κ}
    {pod : String} {c : κ} (hd : w.dial b pod = (.ok c, w')) : b.endpoint c = pod := by
  apply hb pod w.state
  rw [← w.dial_fst b pod, hd]

namespace Walk

variable (b : Backend σ κ) (pods : PodMap)

/-- None of the nodes can be reached from the world. The failures are those of the nodes, one for
each in their order, and a node without a pod is not dialled. -/
inductive Missed : List String → World σ κ → List Failure → World σ κ → Prop
  | nil (w : World σ κ) : Missed [] w [] w
  | noPod {node nodes w fs w'} (hp : pods.pod? node = none) (h : Missed nodes w fs w') :
      Missed (node :: nodes) w (.noProxyPod node :: fs) w'
  | refused {node nodes w pod cause w₁ fs w'} (hp : pods.pod? node = some pod)
      (hd : w.dial b pod = (.error cause, w₁)) (h : Missed nodes w₁ fs w') :
      Missed (node :: nodes) w (.connection node pod cause :: fs) w'

variable (nodes : List String) (w : World σ κ)

/-- What a walk to the first node that can be reached comes to, the pods that it dials and the world
that it leaves. -/
inductive Reach : Except Failure κ → List String → World σ κ → Prop
  | exhausted {fs w'} (h : Missed b pods nodes w fs w') :
      Reach (.error (.noAvailableNode fs)) (nodes.filterMap pods.pod?) w'
  | connected {before node rest fs w₁ pod c w'} (hn : nodes = before ++ node :: rest)
      (h : Missed b pods before w fs w₁) (hp : pods.pod? node = some pod)
      (hd : w₁.dial b pod = (.ok c, w')) (hc : b.Faithful → b.endpoint c = pod) :
      Reach (.ok c) ((before ++ [node]).filterMap pods.pod?) w'

variable {b pods nodes w}

theorem Missed.outcomes_eq {fs : List Failure} {w' : World σ κ} (h : Missed b pods nodes w fs w') :
    outcomes (connect b pods) nodes w = fs.map .error ∧ after (connect b pods) nodes w = w' := by
  induction h with
  | nil w => exact ⟨rfl, rfl⟩
  | noPod hp _ ih => simp [outcomes, connect_of_none b pods hp, ih]
  | refused hp hd _ ih => simp [outcomes, connect_of_refused b pods hp hd, ih]

theorem missed_of_outcomes {fs : List Failure}
    (h : outcomes (connect b pods) nodes w = fs.map .error) :
    Missed b pods nodes w fs (after (connect b pods) nodes w) := by
  induction nodes generalizing w fs with
  | nil =>
    obtain rfl : fs = [] := by simpa [outcomes] using h.symm
    exact .nil w
  | cons node nodes ih =>
    obtain ⟨f, rest, rfl, ht, hrest⟩ := outcomes_cons_failed _ h
    have hmissed := ih hrest
    rw [after_cons]
    cases hp : pods.pod? node with
    | none =>
      rw [connect_of_none b pods hp] at ht hmissed ⊢
      cases ht
      exact .noPod hp hmissed
    | some pod =>
      rcases hd : w.dial b pod with ⟨cause | c, w₁⟩
      · rw [connect_of_refused b pods hp hd] at ht hmissed ⊢
        cases ht
        exact .refused hp hd hmissed
      · rw [connect_of_opened b pods hp hd] at ht
        cases ht

theorem Missed.dialled_eq {fs : List Failure} {w' : World σ κ} (h : Missed b pods nodes w fs w') :
    w'.dialled = w.dialled ++ nodes.filterMap pods.pod? := by
  rw [← h.outcomes_eq.2, dialled_after (dialled_connect b pods)]

theorem Missed.queried_eq {fs : List Failure} {w' : World σ κ} (h : Missed b pods nodes w fs w') :
    w'.queried = w.queried := by
  induction h with
  | nil w => rfl
  | noPod _ _ ih => exact ih
  | @refused _ _ w pod _ _ _ _ _ hd _ ih =>
    have hw := w.queried_dial b pod
    rw [hd] at hw
    exact ih.trans hw

theorem reach_sound {result : Except Failure κ} {dials : List String} {w' : World σ κ}
    (h : Reach b pods nodes w result dials w') :
    firstAvailable b pods nodes {} w = (result, w') ∧ w'.dialled = w.dialled ++ dials := by
  cases h with
  | exhausted h =>
    refine ⟨?_, h.dialled_eq⟩
    rw [firstAvailable_eq_scan, scan_of_failed _ h.outcomes_eq.1, h.outcomes_eq.2]
    rfl
  | @connected before node rest fs w₁ pod c _ hn h hp hd _ =>
    have hnode : connect b pods node (after (connect b pods) before w) = (.ok c, w') := by
      rw [h.outcomes_eq.2, connect_of_opened b pods hp hd]
    constructor
    · rw [firstAvailable_eq_scan, hn, scan_of_first _ h.outcomes_eq.1 hnode]
    · have hw := w₁.dialled_dial b pod
      rw [hd, h.dialled_eq, List.append_assoc] at hw
      simpa [hp] using hw

variable (b pods nodes w) in
theorem exists_reach : ∃ result dials w', Reach b pods nodes w result dials w' := by
  rcases failed_or_first (connect b pods) nodes w with
    ⟨fs, hfs⟩ | ⟨before, node, rest, fs, c, w', hn, hfs, hnode⟩
  · exact ⟨_, _, _, .exhausted (missed_of_outcomes hfs)⟩
  · cases hp : pods.pod? node with
    | none =>
      rw [connect_of_none b pods hp] at hnode
      cases hnode
    | some pod =>
      rcases hd : (after (connect b pods) before w).dial b pod with ⟨cause | c', w''⟩
      · rw [connect_of_refused b pods hp hd] at hnode
        cases hnode
      · exact ⟨_, _, _, .connected hn (missed_of_outcomes hfs) hp hd fun hb => hb.endpoint_eq hd⟩

theorem reach_iff {result : Except Failure κ} {dials : List String} {w' : World σ κ} :
    Reach b pods nodes w result dials w' ↔
      firstAvailable b pods nodes {} w = (result, w') ∧ w'.dialled = w.dialled ++ dials :=
  rules_iff reach_sound (exists_reach b pods nodes w)

theorem Reach.queried_eq {result : Except Failure κ} {dials : List String} {w' : World σ κ}
    (h : Reach b pods nodes w result dials w') : w'.queried = w.queried := by
  cases h with
  | exhausted h => exact h.queried_eq
  | @connected _ _ _ _ w₁ pod _ _ _ h _ hd _ =>
    have hw := w₁.queried_dial b pod
    rw [hd] at hw
    exact hw.trans h.queried_eq

theorem Reach.kind_ne {f : Failure} {dials : List String} {w' : World σ κ}
    (h : Reach b pods nodes w (.error f) dials w') :
    f.kind ≠ .invalidArgument ∧ f.kind ≠ .inventory := by
  cases h
  exact ⟨by simp [Failure.kind], by simp [Failure.kind]⟩

theorem kind_ne_of_firstAvailable {f : Failure}
    (h : (firstAvailable b pods nodes {} w).1 = .error f) :
    f.kind ≠ .invalidArgument ∧ f.kind ≠ .inventory := by
  obtain ⟨result, dials, w', hr⟩ := exists_reach b pods nodes w
  obtain rfl : result = .error f := by rw [← h, (reach_sound hr).1]
  exact hr.kind_ne

end Walk

namespace Locator

theorem Ready.queried_eq {b : Backend σ κ} {l l' : Locator σ κ} (h : Ready b l l') :
    l'.world.queried = l.world.queried := by
  cases h with
  | built => rfl
  | listed => exact l.world.queried_list b

theorem queried_firstAvailable (b : Backend σ κ) (l : Locator σ κ) (nodes : List String) :
    (l.firstAvailable b nodes).2.world.queried = l.world.queried := by
  rw [firstAvailable_eq_search]
  by_cases hn : nodes = []
  · rw [hn, search_nil]
  · rcases ready_or_unready b l with ⟨l', hr⟩ | ⟨f, hu⟩
    · obtain ⟨result, dials, w', h⟩ := Walk.exists_reach b l'.pods nodes l'.world
      rw [search_of_ready hn hr, (Walk.reach_sound h).1]
      exact h.queried_eq.trans hr.queried_eq
    · rw [search_of_unready hn hu]
      exact l.world.queried_list b

/-- A search for the first node that can be reached comes to what these rules say, with the dials
they say, and to nothing else. It asks no member for anything. Only an empty list of candidates is
refused, and only a map that is not built and whose one listing gives no pods keeps the walk from
starting. -/
theorem firstAvailable_decision (b : Backend σ κ) (l : Locator σ κ) (nodes : List String) :
    (∀ result dials l',
      Call b "for_first_available_node can't be called with an empty list of nodes" nodes
          (fun pods => Walk.Reach b pods nodes) l result dials l' ↔
        l.firstAvailable b nodes = (result, l') ∧
          l'.world.dialled = l.world.dialled ++ dials) ∧
    (l.firstAvailable b nodes).2.world.queried = l.world.queried ∧
    ((∃ complaint, (l.firstAvailable b nodes).1 = .error (.invalidArgument complaint)) ↔
      nodes = []) ∧
    ((∃ f, (l.firstAvailable b nodes).1 = .error f ∧ f.kind = .inventory) ↔
      nodes ≠ [] ∧ ∃ f, Unready b l f) := by
  refine ⟨?_, queried_firstAvailable b l nodes, ?_⟩
  · rw [firstAvailable_eq_search]
    exact call_iff (fun _ _ _ _ _ => Walk.reach_iff) l
  · rw [firstAvailable_eq_search]
    exact search_kind_iff (fun _ _ _ h => Walk.kind_ne_of_firstAvailable h) l

/-- A candidate without a pod, one that is dialled in vain, and one that is reached. -/
theorem firstAvailable_decision_third :
    let pods : List ProxyPod := [⟨"b", "old"⟩, ⟨"a", "etcd-a"⟩, ⟨"b", "etcd-b"⟩]
    let l : Locator Script Script.Connection := start {
      listing := .ok pods
      behaviours := [("etcd-b", [.serves 2 (.ok [])])] }
    ∃ l', l.firstAvailable Script.backend ["x", "a", "b", "b"] =
        (.ok ⟨"etcd-b", 2, .ok []⟩, l') ∧
      l'.world.dialled = ["etcd-a", "etcd-b"] ∧ l'.world.queried = [] ∧
      l'.pods.pod? "b" = some "etcd-b" := by
  intro pods l
  let m : PodMap := ⟨some (ProxyPod.byNode pods)⟩
  let listed := (l.world.list Script.backend).2
  have hready : Ready Script.backend l ⟨m, listed⟩ := .listed rfl rfl
  have hmissed : Walk.Missed Script.backend m ["x", "a"] listed
      [.noProxyPod "x", .connection "a" "etcd-a" ⟨"dial tcp: connection refused", []⟩] _ :=
    .noPod rfl (.refused rfl rfl (.nil _))
  obtain ⟨hcall, hqueried, -, -⟩ := firstAvailable_decision Script.backend l ["x", "a", "b", "b"]
  obtain ⟨hl, hd⟩ := (hcall (.ok ⟨"etcd-b", 2, .ok []⟩) ["etcd-a", "etcd-b"] _).1
    (.walked (by decide) hready (.connected rfl hmissed rfl rfl fun _ => rfl))
  rw [hl] at hqueried
  exact ⟨_, hl, hd, hqueried, rfl⟩

end Locator

end EtcdLocator
