import EtcdLocator.Proofs.History

namespace EtcdLocator

variable {σ κ : Type}

namespace Event

theorem not_listed_of_listed_eq {es : List (Event κ)} (h : es.filterMap listed? = [])
    (answer : PodMap.Listing) : .listed answer ∉ es := by
  intro hmem
  have hl : answer ∈ es.filterMap listed? := List.mem_filterMap.2 ⟨_, hmem, rfl⟩
  rw [h] at hl
  cases hl

theorem Searched.not_listed_tail {r : Except Failure κ} {es : List (Event κ)} (h : Searched r es)
    (answer : PodMap.Listing) : .listed answer ∉ es.tail := by
  cases h with
  | known h =>
    exact fun hmem => not_listed_of_listed_eq h.listed_eq answer (List.mem_of_mem_tail hmem)
  | listed _ h => exact not_listed_of_listed_eq h.listed_eq answer

theorem Probing.opened_of_asked {es : List (Event κ)} (h : Probing es) {c : κ}
    {answer : Except Cause (List Member)} (hmem : .asked c answer ∈ es) :
    ∃ pod, .opened pod c ∈ es := by
  induction h with
  | nil => cases hmem
  | refused pod cause _ ih =>
    obtain ⟨pod, hpod⟩ := ih (by simpa using hmem)
    exact ⟨pod, List.mem_cons_of_mem _ hpod⟩
  | probed pod c' answer' _ ih =>
    simp only [List.mem_cons, asked.injEq, reduceCtorEq, false_or] at hmem
    rcases hmem with ⟨rfl, -⟩ | hrest
    · exact ⟨pod, List.mem_cons_self⟩
    · obtain ⟨pod', hpod⟩ := ih hrest
      exact ⟨pod', by simp [hpod]⟩

/-- A search asks only over connections that it opened. -/
theorem Searched.opened_of_asked {r : Except Failure κ} {es : List (Event κ)} (h : Searched r es)
    {c : κ} {answer : Except Cause (List Member)} (hmem : .asked c answer ∈ es) :
    ∃ pod, .opened pod c ∈ es := by
  have of_walked {r : Except Failure κ} {es : List (Event κ)} (h : Walked r es)
      (hmem : .asked c answer ∈ es) : ∃ pod, .opened pod c ∈ es := by
    cases h with
    | failed h => exact h.opened_of_asked hmem
    | found pod c' h =>
      obtain ⟨pod', hpod⟩ := h.opened_of_asked (by simpa using hmem)
      exact ⟨pod', List.mem_append_left _ hpod⟩
  cases h with
  | known h => exact of_walked h hmem
  | listed answer' h =>
    obtain ⟨pod, hpod⟩ := of_walked h (by simpa using hmem)
    exact ⟨pod, List.mem_cons_of_mem _ hpod⟩

end Event

def World.DialsAmong (pods : PodMap) (nodes : List String) (w w' : World σ κ) : Prop :=
  ∃ dials, w'.dialled = w.dialled ++ dials ∧
    ∀ pod ∈ dials, ∃ node ∈ nodes, pods.pod? node = some pod

namespace World.DialsAmong

variable {pods : PodMap} {nodes more : List String} {w w' w'' : World σ κ}

theorem of_eq (h : w'.dialled = w.dialled) : DialsAmong pods nodes w w' :=
  ⟨[], by rw [h, List.append_nil], nofun⟩

theorem trans (h : DialsAmong pods nodes w w') (h' : DialsAmong pods nodes w' w'') :
    DialsAmong pods nodes w w'' := by
  obtain ⟨dials, hd, hdials⟩ := h
  obtain ⟨later, hl, hlater⟩ := h'
  refine ⟨dials ++ later, by rw [hl, hd, List.append_assoc], ?_⟩
  intro pod hpod
  rcases List.mem_append.1 hpod with hpod | hpod
  · exact hdials pod hpod
  · exact hlater pod hpod

theorem mono (h : DialsAmong pods nodes w w') (hn : ∀ node ∈ nodes, node ∈ more) :
    DialsAmong pods more w w' := by
  obtain ⟨dials, hd, hdials⟩ := h
  refine ⟨dials, hd, fun pod hpod => ?_⟩
  obtain ⟨node, hnode, hp⟩ := hdials pod hpod
  exact ⟨node, hn node hnode, hp⟩

theorem of_toList {node : String} (h : w'.dialled = w.dialled ++ (pods.pod? node).toList)
    (hn : node ∈ nodes) : DialsAmong pods nodes w w' :=
  ⟨_, h, fun _ hpod => ⟨node, hn, Option.mem_toList.1 hpod⟩⟩

end World.DialsAmong

namespace Walk

open World (DialsAmong)

variable (b : Backend σ κ) (pods : PodMap)

theorem dialsAmong_scan {α : Type} {t : Trial σ κ α}
    (h : ∀ node w, (t node w).2.dialled = w.dialled ++ (pods.pod? node).toList)
    (nodes : List String) (w : World σ κ) : DialsAmong pods nodes w (scan t nodes w).2 := by
  induction nodes generalizing w with
  | nil => exact .of_eq rfl
  | cons node nodes ih =>
    have hnode : DialsAmong pods (node :: nodes) w (t node w).2 :=
      .of_toList (h node w) List.mem_cons_self
    rcases ht : t node w with ⟨f | a, w'⟩ <;> rw [ht] at hnode
    · rw [scan_cons_error t ht]
      exact hnode.trans ((ih w').mono fun _ => List.mem_cons_of_mem _)
    · rw [scan_cons_ok t ht]
      exact hnode

theorem dialsAmong_firstAvailable (nodes : List String) (w : World σ κ) :
    DialsAmong pods nodes w (firstAvailable b pods nodes {} w).2 := by
  have hs := dialsAmong_scan pods (dialled_connect b pods) nodes w
  rw [firstAvailable_eq_scan]
  rcases hscan : scan (connect b pods) nodes w with ⟨fs | found, w'⟩ <;> rw [hscan] at hs <;>
    exact hs

theorem dialsAmong_leader (nodes : List String) (w : World σ κ) :
    DialsAmong pods nodes w (leader b pods nodes nodes {} w).2 := by
  have hs := dialsAmong_scan pods (dialled_survey b pods) nodes w
  rw [leader_eq_scan]
  rcases hscan : scan (survey b pods) nodes w with ⟨fs | ⟨node, t⟩, w'⟩ <;> rw [hscan] at hs
  · exact hs
  · refine hs.trans ?_
    dsimp only
    rw [follow_eq]
    cases t.leader? with
    | none => exact .of_eq rfl
    | some m =>
      dsimp only
      split
      · rename_i hm
        exact .of_toList (dialled_connect b pods m.nodeName w') hm
      · exact .of_eq rfl

end Walk

theorem Locator.dialsAmong_search (b : Backend σ κ) (complaint : String) {nodes : List String}
    {walk : PodMap → World σ κ → Except Failure κ × World σ κ}
    (hwalk : ∀ pods w, World.DialsAmong pods nodes w (walk pods w).2) (l : Locator σ κ) :
    World.DialsAmong (l.search b complaint nodes walk).2.pods nodes l.world
      (l.search b complaint nodes walk).2.world := by
  by_cases hn : nodes = []
  · subst hn
    exact .of_eq rfl
  · rcases ready_or_unready b l with ⟨l', hr⟩ | ⟨f, hu⟩
    · rw [search_of_ready hn hr]
      obtain ⟨dials, hd, hdials⟩ := hwalk l'.pods l'.world
      exact ⟨dials, by rw [hd, hr.dialled_eq], hdials⟩
    · rw [search_of_unready hn hu]
      exact .of_eq (l.world.dialled_list b)

def Operation.candidates? : Operation σ → Option (List String)
  | leader nodes _ | firstAvailable nodes _ => some nodes
  | _ => none

namespace Session

variable (b : Backend σ κ)

/-- The calls `es` that a search over the nodes makes, with what is dropped for it. -/
structure Sought (nodes : List String) (pods : PodMap) (es : List (Event κ)) : Prop where
  candidate {pod : String} (h : pod ∈ es.filterMap Event.dialled?) :
    ∃ node ∈ nodes, pods.pod? node = some pod
  opened {c : κ} {answer : Except Cause (List Member)} (h : .asked c answer ∈ es) :
    ∃ pod, .opened pod c ∈ es

structure Step.Calls (t : Step σ κ) (es : List (Event κ)) : Prop where
  events_eq : t.after.events = t.before.events ++ es
  listed_first (answer : PodMap.Listing) : .listed answer ∉ es.tail
  sought {nodes : List String} (h : t.operation.candidates? = some nodes) :
    Sought nodes t.after.locator.pods es

theorem dropHeld_events (s : Session σ κ) (name : String) :
    ∃ drops, (s.dropHeld b name).events = s.events ++ drops ∧ ∀ e ∈ drops, ∃ c, e = .dropped c := by
  unfold dropHeld
  split
  · exact ⟨[], (List.append_nil _).symm, nofun⟩
  · rename_i c _
    exact ⟨[.dropped c], rfl, fun e he => ⟨c, List.mem_singleton.1 he⟩⟩

theorem settle_events (s : Session σ κ) (name : String) (r : Except Failure κ × Locator σ κ) :
    ∃ drops, (s.settle b name r).2.events = r.2.world.events ++ drops ∧
      ∀ e ∈ drops, ∃ c, e = .dropped c := by
  obtain ⟨_ | c, l⟩ := r
  · exact ⟨[], (List.append_nil _).symm, nofun⟩
  · rw [settle, keep]
    split
    · exact ⟨[.dropped c], rfl, fun e he => ⟨c, List.mem_singleton.1 he⟩⟩
    · exact dropHeld_events b { s with locator := l } name

theorem mem_of_mem_tail_append {α : Type} {l more : List α} {a : α} (h : a ∈ (l ++ more).tail) :
    a ∈ l.tail ∨ a ∈ more := by
  cases l with
  | nil => exact .inr (List.mem_of_mem_tail h)
  | cons x l => exact List.mem_append.1 h

/-- Whatever is given up at the end does not come into it. -/
theorem sought_append {nodes : List String} {pods : PodMap} {es drops : List (Event κ)}
    (h : Sought nodes pods es) (hd : ∀ e ∈ drops, ∃ c, e = .dropped c) :
    Sought nodes pods (es ++ drops) where
  candidate {pod} hpod := by
    rw [List.filterMap_append] at hpod
    rcases List.mem_append.1 hpod with hpod | hpod
    · exact h.candidate hpod
    · obtain ⟨e, he, hdial⟩ := List.mem_filterMap.1 hpod
      obtain ⟨c, rfl⟩ := hd e he
      cases hdial
  opened {c answer} hasked := by
    rcases List.mem_append.1 hasked with hasked | hasked
    · obtain ⟨pod, hpod⟩ := h.opened hasked
      exact ⟨pod, List.mem_append_left _ hpod⟩
    · obtain ⟨c', hc'⟩ := hd _ hasked
      cases hc'

theorem sought_search (l : Locator σ κ) (complaint : String) {nodes : List String}
    {walk : PodMap → World σ κ → Except Failure κ × World σ κ}
    (hdials : ∀ pods w, World.DialsAmong pods nodes w (walk pods w).2) {es : List (Event κ)}
    (hes : Event.Searched (l.search b complaint nodes walk).1 es)
    (he : (l.search b complaint nodes walk).2.world.events = l.world.events ++ es) :
    Sought nodes (l.search b complaint nodes walk).2.pods es where
  candidate {pod} hpod := by
    obtain ⟨dials, hd, hamong⟩ := l.dialsAmong_search b complaint hdials
    have heq : es.filterMap Event.dialled? = dials := by
      rw [World.dialled, he, List.filterMap_append] at hd
      exact List.append_cancel_left hd
    exact hamong pod (heq ▸ hpod)
  opened := hes.opened_of_asked

theorem calls_search (s : Session σ κ) {o : Operation σ} {complaint name : String}
    {nodes : List String} {walk : PodMap → World σ κ → Except Failure κ × World σ κ}
    (hstep : s.step b o = s.settle b name (s.locator.search b complaint nodes walk))
    (ho : o.candidates? = some nodes)
    (hadds : ∀ pods w, World.Adds (Event.Walked (walk pods w).1) w (walk pods w).2)
    (hdials : ∀ pods w, World.DialsAmong pods nodes w (walk pods w).2) :
    ∃ es, (s.request b o).Calls es := by
  obtain ⟨es, hes, he⟩ := s.locator.search_adds b hadds
  obtain ⟨drops, hdrops, hdropped⟩ :=
    settle_events b s name (s.locator.search b complaint nodes walk)
  have hpods := (keeps_settle b s name (s.locator.search b complaint nodes walk)).pods_eq
  rw [← hstep] at hdrops hpods
  refine ⟨es ++ drops, ?_, ?_, ?_⟩
  · rw [← List.append_assoc]
    exact hdrops.trans (congrArg (· ++ drops) he)
  · intro answer hmem
    rcases mem_of_mem_tail_append hmem with hmem | hmem
    · exact hes.not_listed_tail answer hmem
    · obtain ⟨c, hc⟩ := hdropped _ hmem
      cases hc
  · intro nodes' h'
    cases ho.symm.trans h'
    have hs := sought_append (sought_search b s.locator complaint hdials hes he) hdropped
    exact hpods ▸ hs

/-- Calls without a search, of which the pods are listed by the first at most. -/
theorem calls_of_events {t : Step σ κ} {es : List (Event κ)}
    (he : t.after.events = t.before.events ++ es) (hl : ∀ answer, .listed answer ∉ es.tail)
    (ho : t.operation.candidates? = none) : t.Calls es := by
  refine ⟨he, hl, fun h => ?_⟩
  rw [ho] at h
  cases h

theorem calls_of_ensure {s : Session σ κ} {o : Operation σ}
    (hs : (s.step b o).2.locator = (s.locator.ensure b).2) (ho : o.candidates? = none) :
    ∃ es, (s.request b o).Calls es := by
  rcases s.locator.ensure_events b with he | ⟨answer, he⟩
  · have hevents : (s.step b o).2.events = s.events ++ [] := by
      rw [events, hs, he, List.append_nil]
      rfl
    exact ⟨[], calls_of_events hevents (by simp) ho⟩
  · have hevents : (s.step b o).2.events = s.events ++ [.listed answer] := by
      rw [events, hs, he]
      rfl
    exact ⟨[.listed answer], calls_of_events hevents (by simp) ho⟩

/-- A request by name makes the same calls for each connection, and none if nothing is held. -/
theorem calls_of_held {s : Session σ κ} {o : Operation σ} {name : String} {f : κ → Session σ κ}
    {calls : κ → List (Event κ)}
    (hs : (s.step b o).2 = (s.held? name).elim s f)
    (hf : ∀ c, (f c).events = s.events ++ calls c)
    (hl : ∀ c answer, .listed answer ∉ (calls c).tail) (ho : o.candidates? = none) :
    ∃ es, (s.request b o).Calls es := by
  cases hc : s.held? name with
  | none =>
    rw [hc, Option.elim_none] at hs
    have hevents : (s.step b o).2.events = s.events ++ [] := by rw [hs, List.append_nil]
    exact ⟨[], calls_of_events hevents (by simp) ho⟩
  | some c =>
    rw [hc, Option.elim_some] at hs
    exact ⟨calls c, calls_of_events ((congrArg events hs).trans (hf c)) (hl c) ho⟩

theorem exists_calls (s : Session σ κ) (o : Operation σ) : ∃ es, (s.request b o).Calls es := by
  -- a request is a search, or it is made over one connection that is held, or its calls are known
  cases o with
  | leader nodes name =>
    exact calls_search b s rfl rfl (fun pods w => Walk.leader_adds b pods nodes w)
      (fun pods w => Walk.dialsAmong_leader b pods nodes w)
  | firstAvailable nodes name =>
    exact calls_search b s rfl rfl (fun pods w => Walk.firstAvailable_adds b pods nodes w)
      (fun pods w => Walk.dialsAmong_firstAvailable b pods nodes w)
  | members name =>
    have hs : (s.step b (.members name)).2 = (s.held? name).elim s fun c => (s.ask b c).2 := by
      rw [step_members]
      cases s.held? name <;> rfl
    exact calls_of_held b hs (fun c => s.locator.world.events_members b c) (by simp) rfl
  | report name format =>
    have hs : (s.step b (.report name format)).2 = (s.held? name).elim s
        fun c => { s.forget name with locator := (s.locator.inspect b c).2 } := by
      rw [step_report]
      cases s.held? name <;> rfl
    exact calls_of_held b hs (fun c => s.locator.inspect_events b c) (by simp) rfl
  | close name =>
    have hs : (s.step b (.close name)).2 = (s.held? name).elim s
        fun c => (s.forget name).onWorld (·.close b c) := by
      rw [step_close]
      cases s.held? name <;> rfl
    exact calls_of_held b hs (fun c => s.locator.world.events_close b c) (by simp) rfl
  | drop name =>
    obtain ⟨drops, hdrops, hdropped⟩ := dropHeld_events b s name
    refine ⟨drops, calls_of_events ((congrArg events (step_drop b s name)).trans hdrops) ?_ rfl⟩
    intro answer hmem
    obtain ⟨c, hc⟩ := hdropped _ (List.mem_of_mem_tail hmem)
    cases hc
  | ensure => exact calls_of_ensure b (congrArg (·.2.locator) (step_ensure b s)) rfl
  | proxyPods => exact calls_of_ensure b (congrArg (·.2.locator) (step_proxyPods b s)) rfl
  | refresh =>
    have hevents : (s.step b .refresh).2.events =
        s.events ++ [.listed (s.locator.world.list b).1] := by
      rw [step_refresh]
      exact s.locator.refresh_events b
    exact ⟨_, calls_of_events hevents (by simp) rfl⟩
  | resolve node =>
    have hevents : (s.step b (.resolve node)).2.events = s.events ++ [] := by
      rw [step_resolve, List.append_nil]
    exact ⟨[], calls_of_events hevents (by simp) rfl⟩
  | invalidate | alter => exact ⟨[], calls_of_events (List.append_nil _).symm (by simp) rfl⟩

end Session

end EtcdLocator
