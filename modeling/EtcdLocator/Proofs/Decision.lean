import EtcdLocator.Locator.Script
import EtcdLocator.Proofs.Search

namespace EtcdLocator

namespace Walk

variable {σ κ : Type} (b : Backend σ κ) (pods : PodMap) (nodes : List String) (w : World σ κ)

/-- Rules that tell the truth of a walk, and of which one always applies, tell all of it. -/
theorem rules_iff {w : World σ κ} {outcome : Except Failure κ × World σ κ}
    {rules : Except Failure κ → List String → World σ κ → Prop}
    (sound : ∀ {result dials w'}, rules result dials w' →
      outcome = (result, w') ∧ w'.dialled = w.dialled ++ dials)
    (total : ∃ result dials w', rules result dials w')
    {result : Except Failure κ} {dials : List String} {w' : World σ κ} :
    rules result dials w' ↔ outcome = (result, w') ∧ w'.dialled = w.dialled ++ dials := by
  constructor
  · exact sound
  · rintro ⟨ho, hd⟩
    -- the walk comes to one thing only, and some rule leads to it
    obtain ⟨result', dials', w'', h⟩ := total
    obtain ⟨ho', hd'⟩ := sound h
    obtain ⟨rfl, rfl⟩ := Prod.mk.inj (ho'.symm.trans ho)
    rwa [List.append_cancel_left (hd'.symm.trans hd)] at h

/-- The candidate that decides is the first to give an answer; those `before` it fail. -/
structure Deciding (before : List String) (node : String) (t : Testimony) (w' : World σ κ) :
    Prop where
  split : ∃ rest, nodes = before ++ node :: rest
  passed : ∃ fs : List Failure, outcomes (survey b pods) before w = fs.map .error
  answer : survey b pods node (after (survey b pods) before w) = (.ok t, w')

/-- What a walk in search of the leader comes to, the pods that it dials and the world that it
leaves. -/
inductive Decision : Except Failure κ → List String → World σ κ → Prop
  | exhausted {fs : List Failure}
      (h : outcomes (survey b pods) nodes w = fs.map .error) :
      Decision (.error (.noReachableLeader fs)) (nodes.filterMap pods.pod?)
        (after (survey b pods) nodes w)
  | notInMembers {before node t w'} (h : Deciding b pods nodes w before node t w')
      (hl : t.leader? = none) :
      Decision (.error (.leaderNotInMembers t.leaderId node))
        ((before ++ [node]).filterMap pods.pod?) w'
  | notCandidate {before node t w' m} (h : Deciding b pods nodes w before node t w')
      (hl : t.leader? = some m) (hm : m.nodeName ∉ nodes) :
      Decision (.error (.leaderNodeNotCandidate t.leaderId m.nodeName))
        ((before ++ [node]).filterMap pods.pod?) w'
  | noPod {before node t w' m} (h : Deciding b pods nodes w before node t w')
      (hl : t.leader? = some m) (hm : m.nodeName ∈ nodes) (hp : pods.pod? m.nodeName = none) :
      Decision (.error (.leaderUnreachable t.leaderId m.nodeName (.noProxyPod m.nodeName)))
        ((before ++ [node]).filterMap pods.pod?) w'
  | unreachable {before node t w' m pod cause w''} (h : Deciding b pods nodes w before node t w')
      (hl : t.leader? = some m) (hm : m.nodeName ∈ nodes) (hp : pods.pod? m.nodeName = some pod)
      (hd : w'.dial b pod = (.error cause, w'')) :
      Decision
        (.error (.leaderUnreachable t.leaderId m.nodeName (.connection m.nodeName pod cause)))
        ((before ++ [node]).filterMap pods.pod? ++ [pod]) w''
  | connected {before node t w' m pod c w''} (h : Deciding b pods nodes w before node t w')
      (hl : t.leader? = some m) (hm : m.nodeName ∈ nodes) (hp : pods.pod? m.nodeName = some pod)
      (hd : w'.dial b pod = (.ok c, w'')) :
      Decision (.ok c) ((before ++ [node]).filterMap pods.pod? ++ [pod]) w''

variable {b pods nodes w}

theorem Deciding.scan_eq {before : List String} {node : String} {t : Testimony} {w' : World σ κ}
    (h : Deciding b pods nodes w before node t w') :
    scan (survey b pods) nodes w = (.ok (node, t), w') := by
  obtain ⟨⟨rest, hn⟩, ⟨fs, hfs⟩, ha⟩ := h
  rw [hn]
  exact scan_of_first _ hfs ha

theorem Deciding.leader_eq {before : List String} {node : String} {t : Testimony} {w' : World σ κ}
    (h : Deciding b pods nodes w before node t w') :
    leader b pods nodes nodes {} w = follow b pods nodes t.leaderId node t.members w' := by
  rw [leader_eq_scan, h.scan_eq]

theorem Deciding.dialled_eq {before : List String} {node : String} {t : Testimony}
    {w' : World σ κ} (h : Deciding b pods nodes w before node t w') :
    w'.dialled = w.dialled ++ (before ++ [node]).filterMap pods.pod? := by
  have hd := dialled_after (dialled_survey b pods) (before ++ [node]) w
  rwa [after_append, after_cons, after_nil, h.answer] at hd

theorem Deciding.leader_of_dial {before : List String} {node pod : String} {t : Testimony}
    {w' w'' : World σ κ} {m : Member} {dial : Except Cause κ}
    (h : Deciding b pods nodes w before node t w') (hl : t.leader? = some m)
    (hm : m.nodeName ∈ nodes) (hp : pods.pod? m.nodeName = some pod)
    (hd : w'.dial b pod = (dial, w'')) :
    leader b pods nodes nodes {} w =
        ((dial.mapError (.connection m.nodeName pod)).mapError
          (.leaderUnreachable t.leaderId m.nodeName), w'') ∧
      w''.dialled = w.dialled ++ ((before ++ [node]).filterMap pods.pod? ++ [pod]) := by
  constructor
  · rw [h.leader_eq, follow_eq, hl]
    dsimp only
    rw [if_pos hm, connect_of_some b pods hp, hd]
  · have hw := w'.dialled_dial b pod
    rwa [hd, h.dialled_eq, List.append_assoc] at hw

theorem leader_of_decision {result : Except Failure κ} {dials : List String} {w' : World σ κ}
    (h : Decision b pods nodes w result dials w') :
    leader b pods nodes nodes {} w = (result, w') ∧ w'.dialled = w.dialled ++ dials := by
  cases h with
  | exhausted h =>
    refine ⟨?_, dialled_after (dialled_survey b pods) nodes w⟩
    rw [leader_eq_scan, scan_of_failed _ h]
    rfl
  | notInMembers h hl =>
    refine ⟨?_, h.dialled_eq⟩
    rw [h.leader_eq, follow_eq, hl]
  | notCandidate h hl hm =>
    refine ⟨?_, h.dialled_eq⟩
    rw [h.leader_eq, follow_eq, hl]
    exact if_neg hm
  | noPod h hl hm hp =>
    refine ⟨?_, h.dialled_eq⟩
    rw [h.leader_eq, follow_eq, hl]
    dsimp only
    rw [if_pos hm, connect_of_none b pods hp]
    rfl
  | unreachable h hl hm hp hd => exact h.leader_of_dial hl hm hp hd
  | connected h hl hm hp hd => exact h.leader_of_dial hl hm hp hd

variable (b pods nodes w)

theorem exists_decision : ∃ result dials w', Decision b pods nodes w result dials w' := by
  rcases failed_or_first (survey b pods) nodes w with
    ⟨fs, hfs⟩ | ⟨before, node, rest, fs, t, w', hn, hfs, ha⟩
  · exact ⟨_, _, _, .exhausted hfs⟩
  · have h : Deciding b pods nodes w before node t w' := ⟨⟨rest, hn⟩, ⟨fs, hfs⟩, ha⟩
    cases hl : t.leader? with
    | none => exact ⟨_, _, _, .notInMembers h hl⟩
    | some m =>
      by_cases hm : m.nodeName ∈ nodes
      · cases hp : pods.pod? m.nodeName with
        | none => exact ⟨_, _, _, .noPod h hl hm hp⟩
        | some pod =>
          rcases hd : w'.dial b pod with ⟨dial, w''⟩
          cases dial with
          | error cause => exact ⟨_, _, _, .unreachable h hl hm hp hd⟩
          | ok c => exact ⟨_, _, _, .connected h hl hm hp hd⟩
      · exact ⟨_, _, _, .notCandidate h hl hm⟩

variable {b pods nodes w}

theorem exists_decision_of_leader {result : Except Failure κ} {w' : World σ κ}
    (h : leader b pods nodes nodes {} w = (result, w')) :
    ∃ dials, Decision b pods nodes w result dials w' := by
  obtain ⟨result', dials, w'', hd⟩ := exists_decision b pods nodes w
  obtain ⟨rfl, rfl⟩ := Prod.mk.inj ((leader_of_decision hd).1.symm.trans h)
  exact ⟨dials, hd⟩

theorem decision_iff {result : Except Failure κ} {dials : List String} {w' : World σ κ} :
    Decision b pods nodes w result dials w' ↔
      leader b pods nodes nodes {} w = (result, w') ∧ w'.dialled = w.dialled ++ dials :=
  rules_iff leader_of_decision (exists_decision b pods nodes w)

theorem Decision.kind_ne {f : Failure} {dials : List String} {w' : World σ κ}
    (h : Decision b pods nodes w (.error f) dials w') :
    f.kind ≠ .invalidArgument ∧ f.kind ≠ .inventory := by
  cases h <;> exact ⟨by simp [Failure.kind], by simp [Failure.kind]⟩

theorem kind_ne_of_leader {f : Failure} (h : (leader b pods nodes nodes {} w).1 = .error f) :
    f.kind ≠ .invalidArgument ∧ f.kind ≠ .inventory := by
  obtain ⟨dials, hd⟩ := exists_decision_of_leader (Prod.ext h rfl)
  exact hd.kind_ne

end Walk

namespace Locator

variable {σ κ : Type}

/-- What a search comes to, the pods that it dials and the locator that it leaves. A walk that
starts is decided by `decision`. -/
inductive Call (b : Backend σ κ) (complaint : String) (nodes : List String)
    (decision : PodMap → World σ κ → Except Failure κ → List String → World σ κ → Prop)
    (l : Locator σ κ) : Except Failure κ → List String → Locator σ κ → Prop
  | noCandidates (h : nodes = []) :
      Call b complaint nodes decision l (.error (.invalidArgument complaint)) [] l
  | noInventory {f} (hn : nodes ≠ []) (h : Unready b l f) :
      Call b complaint nodes decision l (.error f) [] ⟨l.pods, (l.world.list b).2⟩
  | walked {l' result dials w} (hn : nodes ≠ []) (h : Ready b l l')
      (hd : decision l'.pods l'.world result dials w) :
      Call b complaint nodes decision l result dials ⟨l'.pods, w⟩

variable {b : Backend σ κ} {complaint : String} {nodes : List String}
  {walk : PodMap → World σ κ → Except Failure κ × World σ κ}
  {decision : PodMap → World σ κ → Except Failure κ → List String → World σ κ → Prop}

theorem call_iff (hwalk : ∀ pods w result dials w', decision pods w result dials w' ↔
      walk pods w = (result, w') ∧ w'.dialled = w.dialled ++ dials)
    (l : Locator σ κ) (result : Except Failure κ) (dials : List String) (l' : Locator σ κ) :
    Call b complaint nodes decision l result dials l' ↔
      l.search b complaint nodes walk = (result, l') ∧
        l'.world.dialled = l.world.dialled ++ dials := by
  constructor
  · intro h
    cases h with
    | noCandidates h =>
      rw [h, search_nil, List.append_nil]
      exact ⟨rfl, rfl⟩
    | noInventory hn h =>
      rw [search_of_unready hn h, List.append_nil]
      exact ⟨rfl, l.world.dialled_list b⟩
    | walked hn h hd =>
      obtain ⟨hw, hdials⟩ := (hwalk _ _ _ _ _).1 hd
      rw [search_of_ready hn h, hw, ← h.dialled_eq]
      exact ⟨rfl, hdials⟩
  · rintro ⟨hs, hd⟩
    by_cases hn : nodes = []
    · rw [hn, search_nil] at hs
      obtain ⟨rfl, rfl⟩ := Prod.mk.inj hs
      have hnil : dials = [] := by simpa using hd
      rw [hnil]
      exact .noCandidates hn
    · rcases ready_or_unready b l with ⟨l₁, hr⟩ | ⟨f, hu⟩
      · rw [search_of_ready hn hr] at hs
        obtain ⟨rfl, rfl⟩ := Prod.mk.inj hs
        rw [← hr.dialled_eq] at hd
        exact .walked hn hr ((hwalk _ _ _ _ _).2 ⟨rfl, hd⟩)
      · rw [search_of_unready hn hu] at hs
        obtain ⟨rfl, rfl⟩ := Prod.mk.inj hs
        have hnil : dials = [] := by simpa using hd
        rw [hnil]
        exact .noInventory hn hu

/-- A search for the leader comes to what these rules say, with the dials they say, and to nothing
else. Only an empty list of candidates is refused, and only a map that is not built and whose one
listing gives no pods keeps the walk from starting. -/
theorem leader_decision (b : Backend σ κ) (l : Locator σ κ) (nodes : List String) :
    (∀ result dials l',
      Call b "for_leader can't be called with an empty list of nodes" nodes
          (fun pods => Walk.Decision b pods nodes) l result dials l' ↔
        l.leader b nodes = (result, l') ∧ l'.world.dialled = l.world.dialled ++ dials) ∧
    ((∃ complaint, (l.leader b nodes).1 = .error (.invalidArgument complaint)) ↔ nodes = []) ∧
    ((∃ f, (l.leader b nodes).1 = .error f ∧ f.kind = .inventory) ↔
      nodes ≠ [] ∧ ∃ f, Unready b l f) := by
  rw [leader_eq_search]
  refine ⟨call_iff (fun _ _ _ _ _ => Walk.decision_iff) l, search_kind_iff ?_ l⟩
  intro pods w f hf
  obtain ⟨result, dials, w', h⟩ := Walk.exists_decision b pods nodes w
  have hr : result = .error f := by rw [← hf, (Walk.leader_of_decision h).1]
  exact (hr ▸ h).kind_ne

/-- A candidate without a pod, one that is dialled and names another as the leader, and that one. -/
theorem leader_decision_followed :
    let members : List Member := [⟨1, "a-1", [], [], false⟩, ⟨2, "b-2", [], [], false⟩]
    let pods : List ProxyPod := [⟨"b", "old"⟩, ⟨"a", "etcd-a"⟩, ⟨"b", "etcd-b"⟩]
    let l : Locator Script Script.Connection := start {
      listing := .ok pods
      behaviours := [("etcd-a", [.serves 2 (.ok members)]), ("etcd-b", [.serves 2 (.ok members)])] }
    ∃ l', l.leader Script.backend ["x", "a", "b"] = (.ok ⟨"etcd-b", 2, .ok members⟩, l') ∧
      l'.world.dialled = ["etcd-a", "etcd-b"] ∧ l'.pods.pod? "b" = some "etcd-b" := by
  intro members pods l
  let m : PodMap := ⟨some (ProxyPod.byNode pods)⟩
  let listed := (l.world.list Script.backend).2
  have hready : Ready Script.backend l ⟨m, listed⟩ := .listed rfl rfl
  have hdeciding : Walk.Deciding Script.backend m ["x", "a", "b"] listed ["x"] "a" ⟨2, members⟩
      (Walk.survey Script.backend m "a" listed).2 :=
    ⟨⟨["b"], rfl⟩, ⟨[.noProxyPod "x"], rfl⟩, rfl⟩
  have hleader : (⟨2, members⟩ : Walk.Testimony).leader? = some ⟨2, "b-2", [], [], false⟩ := rfl
  obtain ⟨hcall, -, -⟩ := leader_decision Script.backend l ["x", "a", "b"]
  obtain ⟨hl, hd⟩ := (hcall (.ok ⟨"etcd-b", 2, .ok members⟩) ["etcd-a", "etcd-b"] _).1
    (.walked (by decide) hready (.connected hdeciding hleader (by decide) rfl rfl))
  exact ⟨_, hl, hd, rfl⟩

end Locator

end EtcdLocator
