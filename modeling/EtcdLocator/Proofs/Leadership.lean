import EtcdLocator.Connector
import EtcdLocator.Locator.Script
import EtcdLocator.Proofs.Decision

namespace EtcdLocator

variable {σ κ : Type}

/-- Connections go through the pod that was dialled for them. -/
def Backend.Faithful (b : Backend σ κ) : Prop :=
  ∀ pod s c, (b.dial pod s).1 = .ok c → b.endpoint c = pod

theorem Script.faithful_backend : backend.Faithful := by
  intro pod s c h
  change (dial pod s).1 = .ok c at h
  unfold dial at h
  dsimp only at h
  split at h <;> cases h
  rfl

theorem Connector.faithful_backend (k : Connector) : k.backend.Faithful := by
  intro pod s c h
  change (k.dial pod s).1 = .ok c at h
  unfold dial at h
  split at h
  · cases h
  · dsimp only at h
    split at h <;> cases h
    rfl

namespace Event

def obtained? : Event κ → Option (List Member)
  | asked _ answer => answer.toOption
  | _ => none

end Event

namespace World

variable (b : Backend σ κ)

def obtained (w : World σ κ) : List (List Member) := w.events.filterMap Event.obtained?

@[simp] theorem obtained_list (w : World σ κ) : (w.list b).2.obtained = w.obtained := by
  simp [obtained, Event.obtained?]

@[simp] theorem obtained_dial (pod : String) (w : World σ κ) :
    (w.dial b pod).2.obtained = w.obtained := by
  rw [obtained, events_dial, List.filterMap_append]
  cases (w.dial b pod).1 <;> simp [obtained, Event.obtained?]

@[simp] theorem obtained_members (c : κ) (w : World σ κ) :
    (w.members b c).2.obtained = w.obtained ++ (w.members b c).1.toOption.toList := by
  rw [obtained, events_members, List.filterMap_append]
  cases (w.members b c).1 <;> rfl

@[simp] theorem obtained_close (c : κ) (w : World σ κ) : (w.close b c).obtained = w.obtained := by
  simp [obtained, Event.obtained?]

end World

namespace Walk

variable (b : Backend σ κ) (pods : PodMap)

@[simp] theorem obtained_connect (node : String) (w : World σ κ) :
    (connect b pods node w).2.obtained = w.obtained := by
  cases hp : pods.pod? node with
  | none => rw [connect_of_none b pods hp]
  | some pod =>
    rw [connect_of_some b pods hp]
    exact w.obtained_dial b pod

/-- A survey gets the list that it tells of, and no other. -/
theorem obtained_survey (node : String) (w : World σ κ) :
    (survey b pods node w).2.obtained =
      w.obtained ++ ((survey b pods node w).1.toOption.map (·.members)).toList := by
  have hc := obtained_connect b pods node w
  rw [survey_eq]
  rcases h : connect b pods node w with ⟨f | c, w'⟩ <;> rw [h] at hc <;> dsimp only at hc ⊢
  · exact hc.trans (List.append_nil _).symm
  · rw [World.obtained_close, World.obtained_members, hc]
    cases (w'.members b c).1 <;> rfl

variable {b pods}

theorem obtained_after_of_failed {nodes : List String} {w : World σ κ} {fs : List Failure}
    (h : outcomes (survey b pods) nodes w = fs.map .error) :
    (after (survey b pods) nodes w).obtained = w.obtained := by
  induction nodes generalizing w fs with
  | nil => rfl
  | cons node nodes ih =>
    obtain ⟨f, rest, rfl, ht, hrest⟩ := outcomes_cons_failed _ h
    rw [after_cons, ih hrest, obtained_survey, ht]
    exact List.append_nil _

variable {nodes before : List String} {node : String} {w w' : World σ κ} {t : Testimony}

theorem Deciding.obtained_eq (h : Deciding b pods nodes w before node t w') :
    w'.obtained = w.obtained ++ [t.members] := by
  obtain ⟨fs, hfs⟩ := h.passed
  have hs := obtained_survey b pods node (after (survey b pods) before w)
  rwa [h.answer, obtained_after_of_failed hfs] at hs

theorem exists_deciding_of_leader {c : κ} {w'' : World σ κ}
    (h : leader b pods nodes nodes {} w = (.ok c, w'')) :
    ∃ before node t w' m pod, Deciding b pods nodes w before node t w' ∧ t.leader? = some m ∧
      m.nodeName ∈ nodes ∧ pods.pod? m.nodeName = some pod ∧ w'.dial b pod = (.ok c, w'') := by
  obtain ⟨dials, hd⟩ := exists_decision_of_leader h
  cases hd with
  | connected hd hl hm hp hdial => exact ⟨_, _, _, _, _, _, hd, hl, hm, hp, hdial⟩

end Walk

namespace Locator

variable (b : Backend σ κ)

def Decisive (l : Locator σ κ) (nodes : List String) (t : Walk.Testimony) : Prop :=
  ∃ l' before node w, Ready b l l' ∧ Walk.Deciding b l'.pods nodes l'.world before node t w

variable {b} {l l' : Locator σ κ} {nodes : List String} {c : κ} {t t' : Walk.Testimony}

theorem Decisive.eq (h : l.Decisive b nodes t) (h' : l.Decisive b nodes t') : t = t' := by
  obtain ⟨l₁, _, _, _, hr, hd⟩ := h
  obtain ⟨l₂, _, _, _, hr', hd'⟩ := h'
  obtain ⟨-, rfl⟩ := Prod.mk.inj (hr.ensure_eq.symm.trans hr'.ensure_eq)
  obtain ⟨ht, -⟩ := Prod.mk.inj (hd.scan_eq.symm.trans hd'.scan_eq)
  exact (Prod.mk.inj (Except.ok.inj ht)).2

/-- How a search for the leader comes to a connection: the member that decided it says `t`, by
which `m` is the leader, and the pod of its node is dialled last. -/
structure Led (b : Backend σ κ) (l : Locator σ κ) (nodes : List String) (c : κ)
    (l' : Locator σ κ) (t : Walk.Testimony) (m : Member) (pod : String) : Prop where
  decisive : l.Decisive b nodes t
  leader : t.leader? = some m
  candidate : m.nodeName ∈ nodes
  resolve_eq : l'.resolve m.nodeName = .ok pod
  last : l'.world.events.getLast? = some (.opened pod c)
  obtained_eq : l'.world.obtained = l.world.obtained ++ [t.members]
  endpoint_eq (hb : b.Faithful) : b.endpoint c = pod

theorem Ready.obtained_eq (h : Ready b l l') : l'.world.obtained = l.world.obtained := by
  cases h with
  | built => rfl
  | listed => exact l.world.obtained_list b

theorem exists_led (h : l.leader b nodes = (.ok c, l')) :
    ∃ t m pod, Led b l nodes c l' t m pod := by
  rw [leader_eq_search] at h
  by_cases hn : nodes = []
  · subst hn
    rw [search_nil] at h
    cases h
  -- only a walk can come to a connection, and the dial that it ends with is its last event
  rcases ready_or_unready b l with ⟨l₁, hr⟩ | ⟨f, hu⟩
  · rw [search_of_ready hn hr] at h
    obtain ⟨hc, rfl⟩ := Prod.mk.inj h
    obtain ⟨before, node, t, w, m, pod, hd, hl, hm, hp, hdial⟩ :=
      Walk.exists_deciding_of_leader (Prod.ext hc rfl)
    have hevents := w.events_dial b pod
    have hobtained := w.obtained_dial b pod
    have hfst := w.dial_fst b pod
    rw [hdial] at hevents hobtained hfst
    exact ⟨t, m, pod, {
      decisive := ⟨l₁, before, node, w, hr, hd⟩
      leader := hl
      candidate := hm
      resolve_eq := by rw [resolve, PodMap.resolve_eq, hp]
      last := by
        rw [hevents]
        exact List.getLast?_concat
      obtained_eq := by rw [hobtained, hd.obtained_eq, hr.obtained_eq]
      endpoint_eq := fun hb => hb pod w.state c hfst.symm }⟩
  · rw [search_of_unready hn hu] at h
    cases h

def obtainedSince (l l' : Locator σ κ) : List (List Member) :=
  l'.world.obtained.drop l.world.obtained.length

/-- The connection leads to a member, of a list got since `l`, that is the leader by the word of
the connection itself. -/
def Bound (b : Backend σ κ) (l l' : Locator σ κ) (c : κ) : Prop :=
  ∃ members ∈ obtainedSince l l', ∃ m ∈ members,
    m.id = b.leaderId c ∧ l'.resolve m.nodeName = .ok (b.endpoint c)

theorem Led.bound_iff {m : Member} {pod : String} (h : Led b l nodes c l' t m pod)
    (hb : b.Faithful) : Bound b l l' c ↔
      ∃ m' ∈ t.members, m'.id = b.leaderId c ∧ l'.resolve m'.nodeName = l'.resolve m.nodeName := by
  have hsince : obtainedSince l l' = [t.members] := by
    rw [obtainedSince, h.obtained_eq, List.drop_left]
  simp only [Bound, hsince, List.mem_singleton, exists_eq_left, h.resolve_eq, h.endpoint_eq hb]

/-- The connection is to the pod of the leader by the word of the member that was asked. It is to
the pod of the leader by its own word as well if the two agree, or if the member that it names is
behind the same pod; and only then. -/
theorem leader_bound_iff (hb : b.Faithful) (h : l.leader b nodes = (.ok c, l')) :
    ∃ t m, l.Decisive b nodes t ∧ t.leader? = some m ∧ m.nodeName ∈ nodes ∧
      l'.resolve m.nodeName = .ok (b.endpoint c) ∧
      (b.leaderId c = t.leaderId → Bound b l l' c) ∧
      (Bound b l l' c ↔ ∃ m' ∈ t.members,
        m'.id = b.leaderId c ∧ l'.resolve m'.nodeName = l'.resolve m.nodeName) := by
  obtain ⟨t, m, pod, hled⟩ := exists_led h
  have hiff := hled.bound_iff hb
  refine ⟨t, m, hled.decisive, hled.leader, hled.candidate, ?_, ?_, hiff⟩
  · rw [hled.resolve_eq, hled.endpoint_eq hb]
  · intro hid
    have hm : m.id = t.leaderId := by simpa using List.find?_some hled.leader
    exact hiff.2 ⟨m, List.mem_of_find?_eq_some hled.leader, hm.trans hid.symm, rfl⟩

end Locator

def Script.twoMembers : List Member := [⟨1, "a-1", [], [], false⟩, ⟨2, "b-2", [], [], false⟩]

/-- Two members, of which the first names itself when it is dialled first. From then on both name
`later`. -/
def Script.shifting (later : UInt64) : Script where
  listing := .ok [⟨"a", "etcd-a"⟩, ⟨"b", "etcd-b"⟩]
  behaviours := [("etcd-a", [.serves 1 (.ok twoMembers), .serves later (.ok twoMembers)]),
    ("etcd-b", [.serves later (.ok twoMembers)])]

namespace Locator

theorem leader_bound_settled :
    let l : Locator Script Script.Connection := start (Script.shifting 1)
    let r := l.leader Script.backend ["a", "b"]
    ∃ c, r.1 = .ok c ∧ Bound Script.backend l r.2 c := by
  intro l r
  have h : l.leader Script.backend ["a", "b"] =
      (.ok ⟨"etcd-a", 1, .ok Script.twoMembers⟩, r.2) := rfl
  obtain ⟨t, m, ht, -, -, -, hbound, -⟩ := leader_bound_iff Script.faithful_backend h
  refine ⟨_, rfl, hbound ?_⟩
  have hdecisive : l.Decisive Script.backend ["a", "b"] ⟨1, Script.twoMembers⟩ :=
    ⟨_, [], "a", _, .listed rfl rfl, ⟨["b"], rfl⟩, ⟨[], rfl⟩, rfl⟩
  rw [ht.eq hdecisive]
  rfl

/-- A leader that changes between the two dials: the connection that was made to its pod names the
new one, which is behind another. -/
theorem leader_not_bound_shifted : Script.backend.Faithful ∧
    ¬∀ (l l' : Locator Script Script.Connection) nodes c,
      l.leader Script.backend nodes = (.ok c, l') → Bound Script.backend l l' c := by
  refine ⟨Script.faithful_backend, fun h => ?_⟩
  let l : Locator Script Script.Connection := start (Script.shifting 2)
  let l' := (l.leader Script.backend ["a", "b"]).2
  obtain ⟨members, hmembers, m, hm, hid, hresolve⟩ :=
    h l l' ["a", "b"] ⟨"etcd-a", 2, .ok Script.twoMembers⟩ rfl
  have hsince : obtainedSince l l' = [Script.twoMembers] := rfl
  rw [hsince, List.mem_singleton] at hmembers
  subst hmembers
  -- the first has another id, and the second is behind another pod
  simp only [Script.twoMembers, List.mem_cons, List.not_mem_nil, or_false] at hm
  rcases hm with rfl | rfl
  · exact absurd hid (by decide)
  · have hb : l'.resolve "b" = .ok "etcd-b" := rfl
    exact absurd (Except.ok.inj (hb.symm.trans hresolve)) (by decide)

end Locator

end EtcdLocator
