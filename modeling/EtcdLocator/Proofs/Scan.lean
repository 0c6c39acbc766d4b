import EtcdLocator.Locator.Basic

namespace EtcdLocator

/-- The pod that stands in the map for a node. -/
def PodMap.pod? (m : PodMap) (node : String) : Option String :=
  (m.entries.find? (·.node = node)).map (·.name)

theorem PodMap.resolve_eq (m : PodMap) (node : String) :
    m.resolve node = match m.pod? node with
      | some pod => .ok pod
      | none => .error (.noProxyPod node) := by
  unfold resolve pod?
  cases m.entries.find? (·.node = node) <;> rfl

theorem Attempts.failures_record_append (met : Attempts) (f : Failure) (fs : List Failure) :
    (met.record f).failures ++ fs = met.failures ++ f :: fs := by
  rw [record, List.append_assoc, List.singleton_append]

namespace World

variable {σ κ : Type} (b : Backend σ κ)

def dialled (w : World σ κ) : List String := w.events.filterMap Event.dialled?

@[simp] theorem dialled_list (w : World σ κ) : (w.list b).2.dialled = w.dialled := by
  simp [dialled, Event.dialled?]

@[simp] theorem dialled_members (c : κ) (w : World σ κ) :
    (w.members b c).2.dialled = w.dialled := by
  simp [dialled, Event.dialled?]

@[simp] theorem dialled_close (c : κ) (w : World σ κ) : (w.close b c).dialled = w.dialled := by
  simp [dialled, Event.dialled?]

@[simp] theorem dialled_dial (pod : String) (w : World σ κ) :
    (w.dial b pod).2.dialled = w.dialled ++ [pod] := by
  unfold dialled
  rw [events_dial, List.filterMap_append]
  congr 1
  split <;> rfl

end World

namespace Walk

abbrev Trial (σ κ α : Type) := String → World σ κ → Except Failure α × World σ κ

variable {σ κ α : Type}

section Trials

variable (t : Trial σ κ α)

/-- The world that tries at all of the nodes leave. -/
def after (nodes : List String) (w : World σ κ) : World σ κ :=
  nodes.foldl (fun w node => (t node w).2) w

def outcomes : List String → World σ κ → List (Except Failure α)
  | [], _ => []
  | node :: nodes, w => (t node w).1 :: outcomes nodes (t node w).2

/-- The first node with a try that succeeds and what it gives, or else all failures. -/
def scan : List String → World σ κ → Except (List Failure) (String × α) × World σ κ
  | [], w => (.error [], w)
  | node :: nodes, w =>
    match t node w with
    | (.ok a, w) => (.ok (node, a), w)
    | (.error f, w) =>
      let (found, w) := scan nodes w
      (found.mapError (f :: ·), w)

@[simp] theorem after_nil (w : World σ κ) : after t [] w = w := rfl

@[simp] theorem after_cons (node : String) (nodes : List String) (w : World σ κ) :
    after t (node :: nodes) w = after t nodes (t node w).2 := rfl

theorem after_append (nodes more : List String) (w : World σ κ) :
    after t (nodes ++ more) w = after t more (after t nodes w) := List.foldl_append

theorem scan_cons_ok {node : String} {w w' : World σ κ} {a : α} (h : t node w = (.ok a, w'))
    (nodes : List String) : scan t (node :: nodes) w = (.ok (node, a), w') := by
  rw [scan, h]

theorem scan_cons_error {node : String} {w w' : World σ κ} {f : Failure}
    (h : t node w = (.error f, w')) (nodes : List String) :
    scan t (node :: nodes) w = ((scan t nodes w').1.mapError (f :: ·), (scan t nodes w').2) := by
  rw [scan, h]

/-- If all tries fail, then so does the first, and so do the others in the world that it leaves. -/
theorem outcomes_cons_failed {node : String} {nodes : List String} {w : World σ κ}
    {fs : List Failure} (h : outcomes t (node :: nodes) w = fs.map .error) :
    ∃ f rest, fs = f :: rest ∧ t node w = (.error f, (t node w).2) ∧
      outcomes t nodes (t node w).2 = rest.map .error := by
  cases fs with
  | nil => simp [outcomes] at h
  | cons f rest =>
    simp only [outcomes, List.map_cons, List.cons.injEq] at h
    exact ⟨f, rest, rfl, Prod.ext h.1 rfl, h.2⟩

/-- Tries that all fail are all made, and their failures are all kept. -/
theorem scan_of_failed {nodes : List String} {w : World σ κ} {fs : List Failure}
    (h : outcomes t nodes w = fs.map .error) : scan t nodes w = (.error fs, after t nodes w) := by
  induction nodes generalizing w fs with
  | nil =>
    have hfs : fs = [] := by simpa [outcomes] using h.symm
    rw [hfs]
    rfl
  | cons node nodes ih =>
    obtain ⟨f, rest, rfl, ht, hrest⟩ := outcomes_cons_failed t h
    rw [scan_cons_error t ht, ih hrest]
    rfl

/-- A try that succeeds ends the scan. -/
theorem scan_of_first {before rest : List String} {node : String} {w w' : World σ κ}
    {fs : List Failure} {a : α} (h : outcomes t before w = fs.map .error)
    (hnode : t node (after t before w) = (.ok a, w')) :
    scan t (before ++ node :: rest) w = (.ok (node, a), w') := by
  induction before generalizing w fs with
  | nil => exact scan_cons_ok t hnode rest
  | cons first before ih =>
    obtain ⟨f, fs, rfl, ht, hrest⟩ := outcomes_cons_failed t h
    rw [List.cons_append, scan_cons_error t ht, ih hrest hnode]
    rfl

/-- A scan that fails has met with failures only. -/
theorem failed_of_scan {nodes : List String} {w w' : World σ κ} {fs : List Failure}
    (h : scan t nodes w = (.error fs, w')) : outcomes t nodes w = fs.map .error := by
  induction nodes generalizing w fs with
  | nil =>
    cases h
    rfl
  | cons node nodes ih =>
    rcases ht : t node w with ⟨f | a, w₁⟩
    · rw [scan_cons_error t ht] at h
      rcases hs : scan t nodes w₁ with ⟨rest | found, w₂⟩
      · rw [hs] at h
        cases h
        rw [outcomes, ht, ih hs]
        rfl
      · rw [hs] at h
        cases h
    · rw [scan_cons_ok t ht] at h
      cases h

/-- More nodes are tried only after failures at all that come before them. -/
theorem scan_append (nodes more : List String) (w : World σ κ) :
    scan t (nodes ++ more) w = match scan t nodes w with
      | (.ok found, w) => (.ok found, w)
      | (.error fs, w) => ((scan t more w).1.mapError (fs ++ ·), (scan t more w).2) := by
  induction nodes generalizing w with
  | nil =>
    show scan t more w = ((scan t more w).1.mapError ([] ++ ·), (scan t more w).2)
    rcases scan t more w with ⟨_ | _, _⟩ <;> rfl
  | cons node nodes ih =>
    rw [List.cons_append]
    rcases ht : t node w with ⟨f | a, w₁⟩
    · rw [scan_cons_error t ht, scan_cons_error t ht, ih]
      rcases scan t nodes w₁ with ⟨fs | found, w₂⟩
      · show (((scan t more w₂).1.mapError (fs ++ ·)).mapError (f :: ·), (scan t more w₂).2) =
          ((scan t more w₂).1.mapError (f :: fs ++ ·), (scan t more w₂).2)
        cases (scan t more w₂).1 <;> rfl
      · rfl
    · rw [scan_cons_ok t ht, scan_cons_ok t ht]

/-- Either all tries fail, or there is a first that succeeds. -/
theorem failed_or_first (nodes : List String) (w : World σ κ) :
    (∃ fs : List Failure, outcomes t nodes w = fs.map .error) ∨
    ∃ before node rest fs a w', nodes = before ++ node :: rest ∧
      outcomes t before w = (fs : List Failure).map .error ∧
      t node (after t before w) = (.ok a, w') := by
  induction nodes generalizing w with
  | nil => exact .inl ⟨[], rfl⟩
  | cons node nodes ih =>
    obtain ⟨outcome, hw⟩ : ∃ outcome, (t node w).1 = outcome := ⟨_, rfl⟩
    cases outcome with
    | ok a => exact .inr ⟨[], node, nodes, [], a, _, rfl, rfl, Prod.ext hw rfl⟩
    | error f =>
      rcases ih (t node w).2 with ⟨fs, hfs⟩ | ⟨before, first, rest, fs, a, w', rfl, hfs, hfirst⟩
      · exact .inl ⟨f :: fs, by simp [outcomes, hw, hfs]⟩
      · exact .inr ⟨node :: before, first, rest, f :: fs, a, w', rfl,
          by simp [outcomes, hw, hfs], hfirst⟩

/-- Tries that each dial the pod of their node, if it has one, do so one after the other. -/
theorem dialled_after {t : Trial σ κ α} {pods : PodMap}
    (h : ∀ node w, (t node w).2.dialled = w.dialled ++ (pods.pod? node).toList)
    (nodes : List String) (w : World σ κ) :
    (after t nodes w).dialled = w.dialled ++ nodes.filterMap pods.pod? := by
  induction nodes generalizing w with
  | nil => simp
  | cons node nodes ih =>
    rw [after_cons, ih, h, List.append_assoc]
    congr 1
    cases hp : pods.pod? node <;> simp [hp]

end Trials

@[ext]
structure Testimony where
  leaderId : UInt64
  members : List Member

def Testimony.leader? (t : Testimony) : Option Member := t.members.find? (·.id = t.leaderId)

variable (b : Backend σ κ) (pods : PodMap)

/-- Asks the member on a node for the leader and the members, over a connection that is closed
whatever the answer. -/
def survey : Trial σ κ Testimony := fun node w =>
  match pods.pod? node with
  | none => (.error (.noProxyPod node), w)
  | some pod =>
    match w.dial b pod with
    | (.error cause, w) => (.error (.connection node pod cause), w)
    | (.ok probe, w) =>
      match w.members b probe with
      | (.error cause, w) => (.error (.memberQuery node cause), w.close b probe)
      | (.ok members, w) => (.ok ⟨b.leaderId probe, members⟩, w.close b probe)

theorem connect_of_none {node : String} (hp : pods.pod? node = none) (w : World σ κ) :
    connect b pods node w = (.error (.noProxyPod node), w) := by
  unfold connect
  rw [pods.resolve_eq, hp]

theorem connect_of_some {node pod : String} (hp : pods.pod? node = some pod) (w : World σ κ) :
    connect b pods node w =
      ((w.dial b pod).1.mapError (.connection node pod), (w.dial b pod).2) := by
  unfold connect
  rw [pods.resolve_eq, hp]
  dsimp only
  rcases w.dial b pod with ⟨_ | _, _⟩ <;> rfl

theorem connect_of_refused {node pod : String} {w w' : World σ κ} {cause : Cause}
    (hp : pods.pod? node = some pod) (hd : w.dial b pod = (.error cause, w')) :
    connect b pods node w = (.error (.connection node pod cause), w') := by
  rw [connect_of_some b pods hp, hd]
  rfl

theorem connect_of_opened {node pod : String} {w w' : World σ κ} {c : κ}
    (hp : pods.pod? node = some pod) (hd : w.dial b pod = (.ok c, w')) :
    connect b pods node w = (.ok c, w') := by
  rw [connect_of_some b pods hp, hd]
  rfl

/-- A survey of a node starts with a connection to it. -/
theorem survey_eq (node : String) (w : World σ κ) :
    survey b pods node w = match connect b pods node w with
      | (.error f, w) => (.error f, w)
      | (.ok probe, w) =>
        ((w.members b probe).1.map (⟨b.leaderId probe, ·⟩) |>.mapError (.memberQuery node),
          (w.members b probe).2.close b probe) := by
  unfold survey connect
  rw [pods.resolve_eq]
  cases pods.pod? node with
  | none => rfl
  | some pod =>
    dsimp only
    rcases w.dial b pod with ⟨_ | probe, w₁⟩
    · rfl
    · dsimp only
      rcases w₁.members b probe with ⟨_ | members, w₂⟩ <;> rfl

theorem survey_cases (node : String) (w : World σ κ) :
    (pods.pod? node = none ∧ survey b pods node w = (.error (.noProxyPod node), w)) ∨
    (∃ pod cause w', pods.pod? node = some pod ∧ w.dial b pod = (.error cause, w') ∧
      survey b pods node w = (.error (.connection node pod cause), w')) ∨
    (∃ pod probe w' cause w'', pods.pod? node = some pod ∧ w.dial b pod = (.ok probe, w') ∧
      w'.members b probe = (.error cause, w'') ∧
      survey b pods node w = (.error (.memberQuery node cause), w''.close b probe)) ∨
    (∃ pod probe w' members w'', pods.pod? node = some pod ∧ w.dial b pod = (.ok probe, w') ∧
      w'.members b probe = (.ok members, w'') ∧
      survey b pods node w = (.ok ⟨b.leaderId probe, members⟩, w''.close b probe)) := by
  unfold survey
  cases pods.pod? node with
  | none => simp
  | some pod =>
    rcases hd : w.dial b pod with ⟨dial, w'⟩
    cases dial with
    | error cause => exact .inr (.inl ⟨pod, cause, w', rfl, hd, by simp [hd]⟩)
    | ok probe =>
      rcases hm : w'.members b probe with ⟨answer, w''⟩
      cases answer with
      | error cause =>
        exact .inr (.inr (.inl ⟨pod, probe, w', cause, w'', rfl, hd, hm, by simp [hd, hm]⟩))
      | ok members =>
        exact .inr (.inr (.inr ⟨pod, probe, w', members, w'', rfl, hd, hm, by simp [hd, hm]⟩))

/-- The leader is asked for first and followed afterwards. -/
theorem leaderVia_eq (candidates : List String) (node : String) (w : World σ κ) :
    leaderVia b pods candidates node w = match survey b pods node w with
      | (.error f, w) => (.error f, w)
      | (.ok t, w) => follow b pods candidates t.leaderId node t.members w := by
  unfold leaderVia
  rcases survey_cases b pods node w with ⟨hp, hs⟩ | ⟨pod, cause, w', hp, hd, hs⟩ |
    ⟨pod, probe, w', cause, w'', hp, hd, hm, hs⟩ | ⟨pod, probe, w', members, w'', hp, hd, hm, hs⟩
  · rw [connect_of_none b pods hp, hs]
  · rw [connect_of_refused b pods hp hd, hs]
  · rw [connect_of_opened b pods hp hd, hs]
    simp [hm]
  · rw [connect_of_opened b pods hp hd, hs]
    simp [hm]

theorem follow_eq (candidates : List String) (node : String) (t : Testimony) (w : World σ κ) :
    follow b pods candidates t.leaderId node t.members w = match t.leader? with
      | none => (.error (.leaderNotInMembers t.leaderId node), w)
      | some m =>
        if m.nodeName ∈ candidates then
          ((connect b pods m.nodeName w).1.mapError (.leaderUnreachable t.leaderId m.nodeName),
            (connect b pods m.nodeName w).2)
        else (.error (.leaderNodeNotCandidate t.leaderId m.nodeName), w) := by
  unfold follow
  show (match t.leader? with | none => _ | some m => _) = _
  cases t.leader? with
  | none => rfl
  | some m =>
    dsimp only
    congr 1
    rcases connect b pods m.nodeName w with ⟨_ | _, _⟩ <;> rfl

/-- A candidate that gives no answer does not end the walk. -/
theorem isRetryable_of_survey {node : String} {w w' : World σ κ} {f : Failure}
    (h : survey b pods node w = (.error f, w')) : f.isRetryable = true := by
  rcases survey_cases b pods node w with ⟨-, hs⟩ | ⟨_, _, _, -, -, hs⟩ |
    ⟨_, _, _, _, _, -, -, -, hs⟩ | ⟨_, _, _, _, _, -, -, -, hs⟩ <;> rw [h] at hs
  · cases hs
    rfl
  · cases hs
    rfl
  · cases hs
    rfl
  · cases hs

/-- A leader that cannot be followed does. -/
theorem not_isRetryable_of_follow {candidates : List String} {leaderId : UInt64} {node : String}
    {members : List Member} {w w' : World σ κ} {f : Failure}
    (h : follow b pods candidates leaderId node members w = (.error f, w')) :
    f.isRetryable = false := by
  unfold follow at h
  repeat' split at h
  all_goals simp only [Prod.mk.injEq, Except.error.injEq, reduceCtorEq, false_and] at h
  all_goals
    obtain ⟨rfl, -⟩ := h
    rfl

theorem leader_eq_scan (candidates nodes : List String) (met : Attempts) (w : World σ κ) :
    leader b pods candidates nodes met w = match scan (survey b pods) nodes w with
      | (.error fs, w) => (.error (.noReachableLeader (met.failures ++ fs)), w)
      | (.ok (node, t), w) => follow b pods candidates t.leaderId node t.members w := by
  -- what was met so far goes on in front of the failures of the scan
  induction nodes generalizing met w with
  | nil => simp [leader, scan]
  | cons node nodes ih =>
    rw [leader, leaderVia_eq]
    rcases hs : survey b pods node w with ⟨outcome, w'⟩
    cases outcome with
    | error f =>
      rw [scan_cons_error _ hs]
      dsimp only
      rw [if_pos (isRetryable_of_survey b pods hs), ih]
      obtain ⟨found, w''⟩ := scan (survey b pods) nodes w'
      cases found with
      | error fs =>
        dsimp only
        rw [met.failures_record_append]
        rfl
      | ok found => rfl
    | ok t =>
      rw [scan_cons_ok _ hs]
      dsimp only
      -- the failures of `follow` are the ones that the walk does not go on after
      rcases hf : follow b pods candidates t.leaderId node t.members w' with ⟨result, w''⟩
      cases result with
      | error f => simp [not_isRetryable_of_follow b pods hf]
      | ok c => rfl

theorem firstAvailable_eq_scan (nodes : List String) (met : Attempts) (w : World σ κ) :
    firstAvailable b pods nodes met w = match scan (connect b pods) nodes w with
      | (.error fs, w) => (.error (.noAvailableNode (met.failures ++ fs)), w)
      | (.ok (_, c), w) => (.ok c, w) := by
  induction nodes generalizing met w with
  | nil => simp [firstAvailable, scan]
  | cons node nodes ih =>
    rw [firstAvailable]
    rcases hc : connect b pods node w with ⟨outcome, w'⟩
    cases outcome with
    | error f =>
      rw [scan_cons_error _ hc]
      dsimp only
      rw [ih]
      obtain ⟨found, w''⟩ := scan (connect b pods) nodes w'
      cases found with
      | error fs =>
        dsimp only
        rw [met.failures_record_append]
        rfl
      | ok found => rfl
    | ok c =>
      rw [scan_cons_ok _ hc]

theorem dialled_connect (node : String) (w : World σ κ) :
    (connect b pods node w).2.dialled = w.dialled ++ (pods.pod? node).toList := by
  cases hp : pods.pod? node with
  | none => simp [connect_of_none b pods hp]
  | some pod => simp [connect_of_some b pods hp]

theorem dialled_survey (node : String) (w : World σ κ) :
    (survey b pods node w).2.dialled = w.dialled ++ (pods.pod? node).toList := by
  rcases survey_cases b pods node w with ⟨hp, hs⟩ | ⟨pod, cause, w', hp, hd, hs⟩ |
    ⟨pod, probe, w', cause, w'', hp, hd, hm, hs⟩ | ⟨pod, probe, w', members, w'', hp, hd, hm, hs⟩
  · simp [hp, hs]
  · simpa [hp, hs, hd] using w.dialled_dial b pod
  · have hw : w''.dialled = w'.dialled := by simpa [hm] using w'.dialled_members b probe
    simpa [hp, hs, hd, hw] using w.dialled_dial b pod
  · have hw : w''.dialled = w'.dialled := by simpa [hm] using w'.dialled_members b probe
    simpa [hp, hs, hd, hw] using w.dialled_dial b pod

end Walk

end EtcdLocator
