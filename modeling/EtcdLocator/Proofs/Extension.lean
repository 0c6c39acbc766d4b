import EtcdLocator.Locator.Script
import EtcdLocator.Proofs.Lockstep

namespace EtcdLocator

variable {σ κ : Type}

theorem World.exists_dialled_of_isPrefix {w w' : World σ κ} (h : w.events <+: w'.events) :
    ∃ dials, w'.dialled = w.dialled ++ dials := by
  obtain ⟨es, hes⟩ := h
  refine ⟨es.filterMap Event.dialled?, ?_⟩
  rw [World.dialled, ← hes, List.filterMap_append]
  rfl

namespace Walk

variable (b : Backend σ κ) (pods : PodMap)

theorem firstAvailable_append (nodes extra : List String) (met : Attempts) (w : World σ κ) :
    firstAvailable b pods (nodes ++ extra) met w = match scan (connect b pods) nodes w with
      | (.error fs, w) => firstAvailable b pods extra ⟨met.failures ++ fs⟩ w
      | (.ok (_, c), w) => (.ok c, w) := by
  rw [firstAvailable_eq_scan, scan_append]
  rcases scan (connect b pods) nodes w with ⟨fs | found, w₁⟩
  · dsimp only
    rw [firstAvailable_eq_scan]
    rcases scan (connect b pods) extra w₁ with ⟨fs' | found, w₂⟩
    · dsimp only
      rw [List.append_assoc]
      rfl
    · rfl
  · rfl

theorem leader_append (candidates nodes extra : List String) (met : Attempts) (w : World σ κ) :
    leader b pods candidates (nodes ++ extra) met w = match scan (survey b pods) nodes w with
      | (.error fs, w) => leader b pods candidates extra ⟨met.failures ++ fs⟩ w
      | (.ok (node, t), w) => follow b pods candidates t.leaderId node t.members w := by
  rw [leader_eq_scan, scan_append]
  rcases scan (survey b pods) nodes w with ⟨fs | found, w₁⟩
  · dsimp only
    rw [leader_eq_scan]
    rcases scan (survey b pods) extra w₁ with ⟨fs' | found, w₂⟩
    · dsimp only
      rw [List.append_assoc]
      rfl
    · rfl
  · rfl

/-- What follows the word of a member is the same among more candidates, unless the leader was none
and is one of them. -/
theorem follow_append (nodes extra : List String) (node : String) (t : Testimony)
    (w : World σ κ) :
    (follow b pods (nodes ++ extra) t.leaderId node t.members w =
        follow b pods nodes t.leaderId node t.members w ∧
      ∀ leaderId x, (follow b pods nodes t.leaderId node t.members w).1 =
        .error (.leaderNodeNotCandidate leaderId x) → x ∉ extra) ∨
    ∃ m : Member, m.nodeName ∈ extra ∧
      follow b pods nodes t.leaderId node t.members w =
        (.error (.leaderNodeNotCandidate t.leaderId m.nodeName), w) ∧
      follow b pods (nodes ++ extra) t.leaderId node t.members w =
        ((connect b pods m.nodeName w).1.mapError (.leaderUnreachable t.leaderId m.nodeName),
          (connect b pods m.nodeName w).2) := by
  rw [follow_eq, follow_eq]
  -- the leader is the same for both lists; what may differ is whether its node is a candidate
  cases t.leader? with
  | none => exact .inl ⟨rfl, nofun⟩
  | some m =>
    dsimp only
    by_cases hm : m.nodeName ∈ nodes
    · rw [if_pos hm, if_pos (List.mem_append_left extra hm)]
      refine .inl ⟨rfl, ?_⟩
      rcases connect b pods m.nodeName w with ⟨_ | _, _⟩ <;> nofun
    · rw [if_neg hm]
      by_cases hx : m.nodeName ∈ extra
      · rw [if_pos (List.mem_append_right nodes hx)]
        exact .inr ⟨m, hx, rfl, rfl⟩
      · rw [if_neg (by simp [hm, hx])]
        refine .inl ⟨rfl, ?_⟩
        rintro leaderId x ⟨⟩
        exact hx

/-- What was met before a walk comes first among its causes. -/
theorem isPrefix_of_noAvailableNode {nodes : List String} {met : Attempts} {w : World σ κ}
    {fs : List Failure} (h : (firstAvailable b pods nodes met w).1 = .error (.noAvailableNode fs)) :
    met.failures <+: fs := by
  rw [firstAvailable_eq_scan] at h
  rcases hs : scan (connect b pods) nodes w with ⟨fs' | found, w₁⟩ <;> rw [hs] at h <;> cases h
  exact List.prefix_append _ _

theorem follow_ne_noReachableLeader {candidates : List String} {node : String} {t : Testimony}
    {w : World σ κ} (fs : List Failure) :
    (follow b pods candidates t.leaderId node t.members w).1 ≠ .error (.noReachableLeader fs) := by
  rw [follow_eq]
  cases t.leader? with
  | none => nofun
  | some m =>
    dsimp only
    split
    · cases (connect b pods m.nodeName w).1 <;> nofun
    · nofun

theorem isPrefix_of_noReachableLeader {candidates nodes : List String} {met : Attempts}
    {w : World σ κ} {fs : List Failure}
    (h : (leader b pods candidates nodes met w).1 = .error (.noReachableLeader fs)) :
    met.failures <+: fs := by
  rw [leader_eq_scan] at h
  rcases hs : scan (survey b pods) nodes w with ⟨fs' | ⟨node, t⟩, w₁⟩ <;> rw [hs] at h
  · cases h
    exact List.prefix_append _ _
  · exact absurd h (follow_ne_noReachableLeader b pods fs)

theorem isPrefix_leader_of_scan (candidates nodes : List String) (met : Attempts)
    (w : World σ κ) : w.events <+: (leader b pods candidates nodes met w).2.events :=
  (isPrefix_scan_survey b pods nodes w).trans (isPrefix_leader b pods candidates nodes met w)

theorem isPrefix_firstAvailable (nodes : List String) (met : Attempts) (w : World σ κ) :
    w.events <+: (firstAvailable b pods nodes met w).2.events := by
  have h := isPrefix_scan_connect b pods nodes w
  rw [firstAvailable_eq_scan]
  rcases hs : scan (connect b pods) nodes w with ⟨fs | found, w₁⟩ <;> rwa [hs] at h

end Walk

namespace Locator

/-- How `long`, a search among more candidates, compares with `short`, both begun at `l`. -/
structure Extends (exhausted : List Failure → Failure) (l : Locator σ κ)
    (short long : Except Failure κ × Locator σ κ) : Prop where
  dialled : ∃ dials more, short.2.world.dialled = l.world.dialled ++ dials ∧
    long.2.world.dialled = l.world.dialled ++ dials ++ more
  fault {f : Failure} (h : short.1 = .error f) (hf : f.kind = .inventory) : long = short
  found {c : κ} (h : short.1 = .ok c) : long = short
  causes {fs fs' : List Failure} (h : short.1 = .error (exhausted fs))
    (h' : long.1 = .error (exhausted fs')) : fs <+: fs'

/-- Where the leader is searched for, `extra` are the candidates that `short` does without. -/
structure LeaderExtends (b : Backend σ κ) (extra : List String) (l : Locator σ κ)
    (short long : Except Failure κ × Locator σ κ) : Prop
    extends Extends .noReachableLeader l short long where
  notInMembers {leaderId : UInt64} {node : String}
    (h : short.1 = .error (.leaderNotInMembers leaderId node)) : long = short
  unreachable {leaderId : UInt64} {node : String} {f : Failure}
    (h : short.1 = .error (.leaderUnreachable leaderId node f)) : long = short
  stillNoCandidate {leaderId : UInt64} {x : String}
    (h : short.1 = .error (.leaderNodeNotCandidate leaderId x)) (hx : x ∉ extra) : long = short
  nowCandidate {leaderId : UInt64} {x : String}
    (h : short.1 = .error (.leaderNodeNotCandidate leaderId x)) (hx : x ∈ extra) :
    long = ((Walk.connect b short.2.pods x short.2.world).1.mapError
        (.leaderUnreachable leaderId x),
      ⟨short.2.pods, (Walk.connect b short.2.pods x short.2.world).2⟩)

variable {exhausted : List Failure → Failure} {l : Locator σ κ}
  {short long : Except Failure κ × Locator σ κ}

theorem exists_dialled_of_isPrefix (h : l.world.events <+: short.2.world.events)
    (hmore : short.2.world.events <+: long.2.world.events) :
    ∃ dials more, short.2.world.dialled = l.world.dialled ++ dials ∧
      long.2.world.dialled = l.world.dialled ++ dials ++ more := by
  obtain ⟨dials, hd⟩ := World.exists_dialled_of_isPrefix h
  obtain ⟨more, hm⟩ := World.exists_dialled_of_isPrefix hmore
  exact ⟨dials, more, hd, by rw [hm, hd]⟩

/-- A search that is settled does not get to the candidates at the end. -/
theorem Extends.refl (he : Function.Injective exhausted)
    (h : l.world.events <+: short.2.world.events) : Extends exhausted l short short where
  dialled := exists_dialled_of_isPrefix h (List.prefix_refl _)
  fault _ _ := rfl
  found _ := rfl
  causes {fs fs'} hfs hfs' := by
    have heq : fs = fs' := he (Except.error.inj (hfs.symm.trans hfs'))
    exact heq ▸ List.prefix_refl fs

theorem Extends.of_exhausted {fs : List Failure} {l' : Locator σ κ}
    (he : Function.Injective exhausted) (hk : (exhausted fs).kind ≠ .inventory)
    (h : l.world.events <+: l'.world.events)
    (hmore : l'.world.events <+: long.2.world.events)
    (hfs : ∀ fs', long.1 = .error (exhausted fs') → fs <+: fs') :
    Extends exhausted l (.error (exhausted fs), l') long where
  dialled := exists_dialled_of_isPrefix h hmore
  fault h hf := by
    cases h
    exact absurd hf hk
  found := nofun
  causes h := by
    rw [← he (Except.error.inj h)]
    exact hfs _

theorem noAvailableNode_injective : Function.Injective Failure.noAvailableNode := by
  rintro fs fs' ⟨⟩
  rfl

theorem noReachableLeader_injective : Function.Injective Failure.noReachableLeader := by
  rintro fs fs' ⟨⟩
  rfl

theorem LeaderExtends.refl {b : Backend σ κ} {extra : List String}
    (h : l.world.events <+: short.2.world.events)
    (hx : ∀ leaderId x, short.1 = .error (.leaderNodeNotCandidate leaderId x) → x ∉ extra) :
    LeaderExtends b extra l short short where
  toExtends := .refl noReachableLeader_injective h
  notInMembers _ := rfl
  unreachable _ := rfl
  stillNoCandidate _ _ := rfl
  nowCandidate hshort hmem := absurd hmem (hx _ _ hshort)

theorem LeaderExtends.of_exhausted {b : Backend σ κ} {extra : List String} {fs : List Failure}
    {l' : Locator σ κ}
    (h : Extends .noReachableLeader l (.error (.noReachableLeader fs), l') long) :
    LeaderExtends b extra l (.error (.noReachableLeader fs), l') long where
  toExtends := h
  notInMembers := nofun
  unreachable := nofun
  stillNoCandidate := nofun
  nowCandidate := nofun

/-- The leader was no candidate, and is one of the new. -/
theorem LeaderExtends.of_notCandidate {b : Backend σ κ} {extra : List String} {leaderId : UInt64}
    {x : String} {l' : Locator σ κ} (h : l.world.events <+: l'.world.events) (hx : x ∈ extra) :
    LeaderExtends b extra l (.error (.leaderNodeNotCandidate leaderId x), l')
      ((Walk.connect b l'.pods x l'.world).1.mapError (.leaderUnreachable leaderId x),
        ⟨l'.pods, (Walk.connect b l'.pods x l'.world).2⟩) where
  dialled := exists_dialled_of_isPrefix h (Walk.connect_adds b l'.pods x l'.world).isPrefix
  fault h hf := by
    cases h
    cases hf
  found := nofun
  causes := nofun
  notInMembers := nofun
  unreachable := nofun
  stillNoCandidate h hnot := by
    cases h
    exact absurd hx hnot
  nowCandidate h _ := by
    cases h
    rfl

theorem Ready.isPrefix {b : Backend σ κ} {l l' : Locator σ κ} (h : Ready b l l') :
    l.world.events <+: l'.world.events := by
  rcases h.events_eq with he | ⟨answer, he⟩
  · exact he ▸ List.prefix_refl _
  · exact ⟨_, he.symm⟩

variable {b : Backend σ κ} {nodes extra : List String}

theorem firstAvailable_extends (b : Backend σ κ) (l : Locator σ κ) (hn : nodes ≠ [])
    (extra : List String) :
    Extends .noAvailableNode l (l.firstAvailable b nodes)
      (l.firstAvailable b (nodes ++ extra)) := by
  have hn' := List.append_ne_nil_of_left_ne_nil hn extra
  rw [firstAvailable_eq_search, firstAvailable_eq_search]
  rcases ready_or_unready b l with ⟨l', hr⟩ | ⟨f, hu⟩
  · rw [search_of_ready hn hr, search_of_ready hn' hr, Walk.firstAvailable_append,
      Walk.firstAvailable_eq_scan]
    have hpre := hr.isPrefix.trans (Walk.isPrefix_scan_connect b l'.pods nodes l'.world)
    rcases hs : Walk.scan (Walk.connect b l'.pods) nodes l'.world with ⟨fs | found, w⟩ <;>
      rw [hs] at hpre
    · exact .of_exhausted noAvailableNode_injective (by simp [Failure.kind]) hpre
        (Walk.isPrefix_firstAvailable b l'.pods extra _ w)
        fun fs' => Walk.isPrefix_of_noAvailableNode b l'.pods
    · exact .refl noAvailableNode_injective hpre
  · rw [search_of_unready hn hu, search_of_unready hn' hu]
    exact .refl noAvailableNode_injective (List.prefix_append _ _)

theorem leader_extends (b : Backend σ κ) (l : Locator σ κ) (hn : nodes ≠ [])
    (extra : List String) :
    LeaderExtends b extra l (l.leader b nodes) (l.leader b (nodes ++ extra)) := by
  have hn' := List.append_ne_nil_of_left_ne_nil hn extra
  rw [leader_eq_search, leader_eq_search]
  rcases ready_or_unready b l with ⟨l', hr⟩ | ⟨f, hu⟩
  · rw [search_of_ready hn hr, search_of_ready hn' hr, Walk.leader_append, Walk.leader_eq_scan]
    have hpre := hr.isPrefix.trans (Walk.isPrefix_scan_survey b l'.pods nodes l'.world)
    rcases hs : Walk.scan (Walk.survey b l'.pods) nodes l'.world with ⟨fs | ⟨node, t⟩, w⟩ <;>
      rw [hs] at hpre
    · apply LeaderExtends.of_exhausted
      exact .of_exhausted noReachableLeader_injective (by simp [Failure.kind]) hpre
        (Walk.isPrefix_leader_of_scan b l'.pods _ extra _ w)
        fun fs' => Walk.isPrefix_of_noReachableLeader b l'.pods
    -- only a candidate among `nodes` decides, and both walks come to it in the same world
    · dsimp only
      have hfollow := (Walk.follow_adds b l'.pods nodes node t w).isPrefix
      rcases Walk.follow_append b l'.pods nodes extra node t w with
        ⟨heq, hx⟩ | ⟨m, hm, hshort, hlong⟩
      · rw [heq]
        exact .refl (hpre.trans hfollow) hx
      · rw [hshort, hlong]
        exact .of_notCandidate hpre hm
  · rw [search_of_unready hn hu, search_of_unready hn' hu]
    refine .refl (List.prefix_append _ _) ?_
    intro leaderId x h
    have hk := PodMap.kind_of_podsOf hu.fault
    cases h
    cases hk

/-- Candidates at the end change nothing that is settled without them, but that a leader which was
none of the candidates may now be one. -/
theorem searches_extend (b : Backend σ κ) (l : Locator σ κ) {nodes : List String} (hn : nodes ≠ [])
    (extra : List String) :
    Extends .noAvailableNode l (l.firstAvailable b nodes) (l.firstAvailable b (nodes ++ extra)) ∧
    LeaderExtends b extra l (l.leader b nodes) (l.leader b (nodes ++ extra)) :=
  ⟨firstAvailable_extends b l hn extra, leader_extends b l hn extra⟩

/-- The first node names a leader on a node that is a candidate only in the longer list. -/
theorem searches_extend_joined :
    let members : List Member := [⟨1, "a-1", [], [], false⟩, ⟨2, "b-2", [], [], false⟩]
    let script : Script := {
      listing := .ok [⟨"a", "etcd-a"⟩, ⟨"b", "etcd-b"⟩]
      behaviours := [("etcd-a", [.serves 2 (.ok members)]), ("etcd-b", [.serves 2 (.ok members)])] }
    let l : Locator Script Script.Connection := start script
    let short := l.leader Script.backend ["a"]
    let long := l.leader Script.backend (["a"] ++ ["b"])
    short.1.toOption = none ∧ long.1.map (·.pod) = .ok "etcd-b" ∧
      Extends .noAvailableNode l (l.firstAvailable Script.backend ["a"])
        (l.firstAvailable Script.backend (["a"] ++ ["b"])) ∧
      LeaderExtends Script.backend ["b"] l short long := by
  intro members script l short long
  exact ⟨rfl, rfl, searches_extend Script.backend l (by simp) ["b"]⟩

end Locator

end EtcdLocator
