import EtcdLocator.Proofs.Run
import EtcdLocator.Proofs.Search

namespace EtcdLocator

variable {σ κ : Type}

/-- A condition on the open connections and the world that every call keeps. -/
structure Backend.Upholds (b : Backend σ κ) (P : List κ → World σ κ → Prop) : Prop where
  perm {cs cs' : List κ} {w : World σ κ} (h : P cs w) (hp : cs.Perm cs') : P cs' w
  list {cs : List κ} {w : World σ κ} (h : P cs w) : P cs (w.list b).2
  refused {cs : List κ} {w w' : World σ κ} {pod : String} {cause : Cause} (h : P cs w)
    (hd : w.dial b pod = (.error cause, w')) : P cs w'
  opened {cs : List κ} {w w' : World σ κ} {pod : String} {c : κ} (h : P cs w)
    (hd : w.dial b pod = (.ok c, w')) : P (c :: cs) w'
  members {cs : List κ} {w : World σ κ} {c : κ} (h : P cs w) (hc : c ∈ cs) :
    P cs (w.members b c).2
  close {cs : List κ} {w : World σ κ} {c : κ} (h : P (c :: cs) w) : P cs (w.close b c)
  drop {cs : List κ} {w : World σ κ} {c : κ} (h : P (c :: cs) w) : P cs (w.drop b c)

namespace Backend.Upholds

open Walk

variable {b : Backend σ κ} {P : List κ → World σ κ → Prop} {cs : List κ} {w : World σ κ}

abbrev Adds (P : List κ → World σ κ → Prop) (cs : List κ)
    (r : Except Failure κ × World σ κ) : Prop :=
  P (r.1.toOption.toList ++ cs) r.2

theorem connect (hb : b.Upholds P) (pods : PodMap) (node : String) (h : P cs w) :
    Adds P cs (Walk.connect b pods node w) := by
  cases hp : pods.pod? node with
  | none =>
    rw [connect_of_none b pods hp]
    exact h
  | some pod =>
    rcases hd : w.dial b pod with ⟨cause | c, w'⟩
    · rw [connect_of_refused b pods hp hd]
      exact hb.refused h hd
    · rw [connect_of_opened b pods hp hd]
      exact hb.opened h hd

theorem firstAvailable (hb : b.Upholds P) (pods : PodMap) (nodes : List String) (met : Attempts)
    (h : P cs w) : Adds P cs (Walk.firstAvailable b pods nodes met w) := by
  induction nodes generalizing met w with
  | nil => exact h
  | cons node nodes ih =>
    have hc := hb.connect pods node h
    rw [Walk.firstAvailable]
    rcases hw : Walk.connect b pods node w with ⟨f | c, w'⟩ <;> rw [hw] at hc
    · exact ih (met.record f) hc
    · exact hc

theorem follow (hb : b.Upholds P) (pods : PodMap) (candidates : List String) (leaderId : UInt64)
    (node : String) (members : List Member) (h : P cs w) :
    Adds P cs (Walk.follow b pods candidates leaderId node members w) := by
  unfold Walk.follow
  split
  · exact h
  · rename_i m _
    split
    · have hc := hb.connect pods m.nodeName h
      rcases hw : Walk.connect b pods m.nodeName w with ⟨f | c, w'⟩ <;> rw [hw] at hc <;> exact hc
    · exact h

/-- A probe is closed before anything else is dialled. -/
theorem leaderVia (hb : b.Upholds P) (pods : PodMap) (candidates : List String) (node : String)
    (h : P cs w) : Adds P cs (Walk.leaderVia b pods candidates node w) := by
  have hc := hb.connect pods node h
  rw [Walk.leaderVia]
  rcases hw : Walk.connect b pods node w with ⟨f | probe, w'⟩ <;> rw [hw] at hc
  · exact hc
  · have hclosed := hb.close (hb.members hc List.mem_cons_self)
    dsimp only
    cases (w'.members b probe).1 with
    | error cause => exact hclosed
    | ok members => exact hb.follow pods candidates _ node members hclosed

theorem leader (hb : b.Upholds P) (pods : PodMap) (candidates nodes : List String)
    (met : Attempts) (h : P cs w) : Adds P cs (Walk.leader b pods candidates nodes met w) := by
  induction nodes generalizing met w with
  | nil => exact h
  | cons node nodes ih =>
    have hv := hb.leaderVia pods candidates node h
    rw [Walk.leader]
    rcases hw : Walk.leaderVia b pods candidates node w with ⟨f | c, w'⟩ <;> rw [hw] at hv
    · dsimp only
      split
      · exact ih (met.record f) hv
      · exact hv
    · exact hv

theorem refresh (hb : b.Upholds P) {l : Locator σ κ} (h : P cs l.world) :
    P cs (l.refresh b).2.world := by
  rw [Locator.refresh_eq]
  split <;> exact hb.list h

theorem ensure (hb : b.Upholds P) {l : Locator σ κ} (h : P cs l.world) :
    P cs (l.ensure b).2.world := by
  unfold Locator.ensure
  split
  · exact h
  · exact hb.refresh h

theorem search (hb : b.Upholds P) {complaint : String} {nodes : List String}
    {walk : PodMap → World σ κ → Except Failure κ × World σ κ}
    (hwalk : ∀ pods w, P cs w → Adds P cs (walk pods w)) {l : Locator σ κ} (h : P cs l.world) :
    P ((l.search b complaint nodes walk).1.toOption.toList ++ cs)
      (l.search b complaint nodes walk).2.world := by
  have he := hb.ensure h
  unfold Locator.search
  split
  · exact h
  · rcases hl : l.ensure b with ⟨f | ⟨⟩, l'⟩ <;> rw [hl] at he
    · exact he
    · exact hwalk l'.pods l'.world he

end Backend.Upholds

namespace Session

/-- Each name is used once, and `P` holds of the connections in hand together with those that are
held. -/
structure Satisfies (P : List κ → World σ κ → Prop) (inHand : List κ) (s : Session σ κ) : Prop where
  nodup : (s.held.map (·.1)).Nodup
  holds : P (inHand ++ s.held.map (·.2)) s.locator.world

/-- The connection under a name is one of those held, and the only one under that name. -/
theorem perm_filter_name {held : List (String × κ)} {name : String} {c : κ}
    (hn : (held.map (·.1)).Nodup) (hc : (held.find? (·.1 = name)).map (·.2) = some c) :
    (held.map (·.2)).Perm (c :: (held.filter (·.1 ≠ name)).map (·.2)) := by
  induction held with
  | nil => simp at hc
  | cons h held ih =>
    simp only [List.map_cons, List.nodup_cons] at hn
    by_cases hname : h.1 = name
    -- no other has this name, so that the filter takes out nothing else
    · have hrest : held.filter (·.1 ≠ name) = held := by
        rw [List.filter_eq_self]
        intro h' hmem
        have hne : h'.1 ≠ h.1 := fun he => hn.1 (he ▸ List.mem_map_of_mem hmem)
        simpa [← hname] using hne
      have hhc : h.2 = c := by simpa [hname] using hc
      rw [List.filter_cons_of_neg (by simpa using hname), hrest, List.map_cons, hhc]
    · rw [List.find?_cons_of_neg (by simpa using hname)] at hc
      rw [List.filter_cons_of_pos (by simpa using hname), List.map_cons, List.map_cons]
      exact ((ih hn.2 hc).cons h.2).trans (.swap c h.2 _)

theorem mem_of_held? {s : Session σ κ} {name : String} {c : κ} (hc : s.held? name = some c) :
    c ∈ s.held.map (·.2) := by
  obtain ⟨h, hf, rfl⟩ := Option.map_eq_some_iff.1 hc
  exact List.mem_map_of_mem (List.mem_of_find?_eq_some hf)

variable {b : Backend σ κ} {P : List κ → World σ κ → Prop} {inHand : List κ} {s : Session σ κ}

theorem Satisfies.of_world (h : Satisfies P inHand s) {locator : Locator σ κ}
    (hw : P (inHand ++ s.held.map (·.2)) locator.world) :
    Satisfies P inHand { s with locator } := ⟨h.nodup, hw⟩

/-- The connection under a name is in hand once the name is given up. -/
theorem Satisfies.forget (hb : b.Upholds P) (h : Satisfies P inHand s) {name : String} {c : κ}
    (hc : s.held? name = some c) : Satisfies P (c :: inHand) (s.forget name) where
  nodup := h.nodup.sublist (List.filter_sublist.map _)
  holds := hb.perm h.holds
    (((perm_filter_name h.nodup hc).append_left inHand).trans List.perm_middle)

theorem Satisfies.drop (hb : b.Upholds P) {c : κ} (h : Satisfies P (c :: inHand) s) :
    Satisfies P inHand (s.onWorld (·.drop b c)) := ⟨h.nodup, hb.drop h.holds⟩

theorem Satisfies.dropHeld (hb : b.Upholds P) (h : Satisfies P inHand s) (name : String) :
    Satisfies P inHand (s.dropHeld b name) := by
  unfold Session.dropHeld
  split
  · exact h
  · rename_i c hc
    exact (h.forget hb hc).drop hb

theorem not_mem_dropHeld (b : Backend σ κ) (s : Session σ κ) (name : String) :
    name ∉ (s.dropHeld b name).held.map (·.1) := by
  unfold Session.dropHeld
  split
  · rename_i hc
    intro hmem
    obtain ⟨h, hh, rfl⟩ := List.mem_map.1 hmem
    simp only [held?, Option.map_eq_none_iff, List.find?_eq_none] at hc
    exact hc h hh (by simp)
  · simp [onWorld, Session.forget]

/-- The connection in hand is dropped at once, or held from now on. -/
theorem Satisfies.keep (hb : b.Upholds P) {c : κ} (h : Satisfies P [c] s) (name : String) :
    Satisfies P [] (s.keep b name c) := by
  unfold Session.keep
  split
  -- there is no name to keep it under
  · exact h.drop hb
  -- what was held under the name before is dropped first
  · have hd := h.dropHeld hb name
    exact ⟨List.nodup_cons.2 ⟨not_mem_dropHeld b s name, hd.nodup⟩, hd.holds⟩

/-- A search hands over the connection that it came to. -/
theorem Satisfies.settle (hb : b.Upholds P) (h : Satisfies P [] s) (name : String)
    {r : Except Failure κ × Locator σ κ}
    (hr : P (r.1.toOption.toList ++ s.held.map (·.2)) r.2.world) :
    Satisfies P [] (s.settle b name r).2 := by
  obtain ⟨_ | c, locator⟩ := r
  · exact h.of_world hr
  · have hc : Satisfies P [c] { s with locator } := ⟨h.nodup, hr⟩
    exact hc.keep hb name

/-- A request keeps what the calls keep, if what happens without a call keeps it too. -/
theorem Satisfies.step (hb : b.Upholds P) (h : Satisfies P [] s) {o : Operation σ}
    (ha : ∀ change, o = .alter change →
      P (s.held.map (·.2)) { s.locator.world with state := change s.locator.world.state }) :
    Satisfies P [] (s.step b o).2 := by
  -- the searches come to a connection that `settle` takes in hand; every other request makes calls
  -- that keep `P` over the connections held, or over one of them given up by its name
  cases o with
  | leader nodes name =>
    rw [Session.step, Locator.leader_eq_search]
    exact h.settle hb name
      (hb.search (fun pods _ => hb.leader pods nodes nodes {}) h.holds)
  | firstAvailable nodes name =>
    rw [Session.step, Locator.firstAvailable_eq_search]
    exact h.settle hb name
      (hb.search (fun pods _ => hb.firstAvailable pods nodes {}) h.holds)
  | members name =>
    rw [step_members]
    split
    · exact h
    · rename_i c hc
      exact h.of_world (hb.members h.holds (mem_of_held? hc))
  | report name format =>
    rw [step_report]
    split
    · exact h
    · rename_i c hc
      have hf := h.forget hb hc
      exact ⟨hf.nodup, hb.close (hb.members hf.holds List.mem_cons_self)⟩
  | close name =>
    rw [step_close]
    split
    · exact h
    · rename_i c hc
      have hf := h.forget hb hc
      exact ⟨hf.nodup, hb.close hf.holds⟩
  | drop name =>
    rw [step_drop]
    exact h.dropHeld hb name
  | ensure =>
    rw [step_ensure]
    exact h.of_world (hb.ensure h.holds)
  | proxyPods =>
    rw [step_proxyPods]
    exact h.of_world (hb.ensure h.holds)
  | refresh =>
    rw [step_refresh]
    exact h.of_world (hb.refresh h.holds)
  | resolve node =>
    rw [step_resolve]
    exact h
  | invalidate => exact h.of_world h.holds
  | alter change => exact h.of_world (ha change rfl)

end Session

end EtcdLocator
