import EtcdLocator.Locator.Inspection
import EtcdLocator.Proofs.Search

namespace EtcdLocator

variable {σ κ : Type}

namespace Event

/-- What a call changes in the number of open connections that `p` counts. -/
def delta (p : κ → Bool) : Event κ → Int
  | opened _ c => if p c then 1 else 0
  | closed c | dropped c => if p c then -1 else 0
  | _ => 0

/-- The connections that `p` counts and that the calls leave open. -/
def net (p : κ → Bool) : List (Event κ) → Int
  | [] => 0
  | e :: es => e.delta p + net p es

@[simp] theorem net_nil (p : κ → Bool) : net p ([] : List (Event κ)) = 0 := rfl

@[simp] theorem net_cons (p : κ → Bool) (e : Event κ) (es : List (Event κ)) :
    net p (e :: es) = e.delta p + net p es := rfl

@[simp] theorem net_append (p : κ → Bool) (es more : List (Event κ)) :
    net p (es ++ more) = net p es + net p more := by
  induction es with
  | nil => simp
  | cons e es ih => rw [List.cons_append, net_cons, net_cons, ih, Int.add_assoc]

def alive (es : List (Event κ)) : Int := net (fun _ => true) es

def opened? : Event κ → Option κ
  | opened _ c => some c
  | _ => none

def closed? : Event κ → Option κ
  | closed c => some c
  | _ => none

def dropped? : Event κ → Option κ
  | dropped c => some c
  | _ => none

theorem net_eq (p : κ → Bool) (es : List (Event κ)) :
    net p es = (es.filterMap opened?).countP p - (es.filterMap closed?).countP p -
      (es.filterMap dropped?).countP p := by
  induction es with
  | nil => rfl
  | cons e es ih =>
    rw [net_cons, ih]
    cases e with
    | opened | closed | dropped =>
      simp only [delta, opened?, closed?, dropped?, List.filterMap_cons, List.countP_cons]
      split <;> omega
    | listed | refused | asked => simp [delta, opened?, closed?, dropped?, List.filterMap_cons]

/-- Words of probes: each a dial that failed, or a connection that was opened, asked once and
closed. -/
inductive Probing : List (Event κ) → Prop
  | nil : Probing []
  | refused {es} (pod cause) (h : Probing es) : Probing (refused pod cause :: es)
  | probed {es} (pod c answer) (h : Probing es) :
      Probing (opened pod c :: asked c answer :: closed c :: es)

theorem Probing.append {es more : List (Event κ)} (h : Probing es) (hm : Probing more) :
    Probing (es ++ more) := by
  induction h with
  | nil => exact hm
  | refused pod cause _ ih => exact ih.refused pod cause
  | probed pod c answer _ ih => exact ih.probed pod c answer

/-- What a walk that came to `result` has asked of the cluster: probes, and a connection that is
opened last and stays open if it is the result. -/
inductive Walked : Except Failure κ → List (Event κ) → Prop
  | failed {f es} (h : Probing es) : Walked (.error f) es
  | found {es} (pod c) (h : Probing es) : Walked (.ok c) (es ++ [opened pod c])

inductive Searched : Except Failure κ → List (Event κ) → Prop
  | known {r es} (h : Walked r es) : Searched r es
  | listed {r es} (answer) (h : Walked r es) : Searched r (listed answer :: es)

theorem Probing.net_eq {es : List (Event κ)} (h : Probing es) (p : κ → Bool) : net p es = 0 := by
  induction h with
  | nil => rfl
  | refused pod cause _ ih => simp [delta, ih]
  | probed pod c answer _ ih =>
    simp only [net_cons, delta, ih]
    split <;> rfl

/-- However early a word of probes is broken off, at most one connection is open. -/
theorem Probing.alive_le {es pre : List (Event κ)} (h : Probing es) (hp : pre <+: es) :
    alive pre = 0 ∨ alive pre = 1 := by
  induction h generalizing pre with
  | nil => simp [List.prefix_nil.1 hp, alive]
  | refused pod cause _ ih =>
    rcases List.prefix_cons_iff.1 hp with rfl | ⟨rest, rfl, hr⟩
    · simp [alive]
    · simpa [alive, delta] using ih hr
  | probed pod c answer _ ih =>
    rcases List.prefix_cons_iff.1 hp with rfl | ⟨pre₁, rfl, h₁⟩
    · simp [alive]
    rcases List.prefix_cons_iff.1 h₁ with rfl | ⟨pre₂, rfl, h₂⟩
    · simp [alive, delta]
    rcases List.prefix_cons_iff.1 h₂ with rfl | ⟨pre₃, rfl, h₃⟩
    · simp [alive, delta]
    · simpa [alive, delta, ← Int.add_assoc] using ih h₃

theorem Probing.not_dropped {es : List (Event κ)} (h : Probing es) (c : κ) : dropped c ∉ es := by
  induction h with
  | nil => simp
  | refused _ _ _ ih => simpa using ih
  | probed _ _ _ _ ih => simpa using ih

theorem Walked.prepend {r : Except Failure κ} {es more : List (Event κ)} (h : Probing es)
    (hm : Walked r more) : Walked r (es ++ more) := by
  cases hm with
  | failed hp => exact .failed (h.append hp)
  | found pod c hp =>
    rw [← List.append_assoc]
    exact .found pod c (h.append hp)

/-- A walk leaves open what it came to. -/
theorem Walked.net_eq {r : Except Failure κ} {es : List (Event κ)} (h : Walked r es)
    (p : κ → Bool) : net p es = r.toOption.toList.countP p := by
  cases h with
  | failed h => exact h.net_eq p
  | found pod c h =>
    simp only [net_append, h.net_eq p, net_cons, net_nil, delta, Except.toOption,
      Option.toList_some, List.countP_singleton]
    split <;> rfl

theorem Walked.alive_le {r : Except Failure κ} {es pre : List (Event κ)} (h : Walked r es)
    (hp : pre <+: es) : alive pre = 0 ∨ alive pre = 1 := by
  cases h with
  | failed h => exact h.alive_le hp
  | found pod c h =>
    -- the connection that stays open is there only at the very end
    rcases List.prefix_concat_iff.1 hp with rfl | hp
    · simp [alive, h.net_eq, delta]
    · exact h.alive_le hp

theorem Walked.not_dropped {r : Except Failure κ} {es : List (Event κ)} (h : Walked r es) (c : κ) :
    dropped c ∉ es := by
  cases h with
  | failed h => exact h.not_dropped c
  | found pod c' h => simpa using h.not_dropped c

theorem Searched.net_eq {r : Except Failure κ} {es : List (Event κ)} (h : Searched r es)
    (p : κ → Bool) : net p es = r.toOption.toList.countP p := by
  cases h with
  | known h => exact h.net_eq p
  | listed answer h => simp [h.net_eq p, delta]

theorem Searched.alive_le {r : Except Failure κ} {es pre : List (Event κ)} (h : Searched r es)
    (hp : pre <+: es) : alive pre = 0 ∨ alive pre = 1 := by
  cases h with
  | known h => exact h.alive_le hp
  | listed answer h =>
    rcases List.prefix_cons_iff.1 hp with rfl | ⟨rest, rfl, hr⟩
    · simp [alive]
    · simpa [alive, delta] using h.alive_le hr

theorem Searched.not_dropped {r : Except Failure κ} {es : List (Event κ)} (h : Searched r es)
    (c : κ) : dropped c ∉ es := by
  cases h with
  | known h => exact h.not_dropped c
  | listed answer h => simpa using h.not_dropped c

end Event

open Event

def World.Adds (L : List (Event κ) → Prop) (w w' : World σ κ) : Prop :=
  ∃ es, L es ∧ w'.events = w.events ++ es

theorem World.Adds.trans {L M N : List (Event κ) → Prop} {w₁ w₂ w₃ : World σ κ}
    (h : Adds L w₁ w₂) (hm : Adds M w₂ w₃) (hn : ∀ es more, L es → M more → N (es ++ more)) :
    Adds N w₁ w₃ := by
  obtain ⟨es, hes, h⟩ := h
  obtain ⟨more, hmore, hm⟩ := hm
  exact ⟨es ++ more, hn es more hes hmore, by rw [hm, h, List.append_assoc]⟩

namespace Walk

variable (b : Backend σ κ) (pods : PodMap)

theorem connect_adds (node : String) (w : World σ κ) :
    World.Adds (Walked (connect b pods node w).1) w (connect b pods node w).2 := by
  cases hp : pods.pod? node with
  | none =>
    rw [connect_of_none b pods hp]
    exact ⟨[], .failed .nil, by simp⟩
  | some pod =>
    rw [connect_of_some b pods hp]
    refine ⟨_, ?_, w.events_dial b pod⟩
    cases (w.dial b pod).1 with
    | error cause => exact .failed (.refused pod cause .nil)
    | ok c => exact .found pod c .nil

theorem probe_adds {pod : String} {probe : κ} {answer : Except Cause (List Member)}
    {w w' w'' : World σ κ} (hd : w.dial b pod = (.ok probe, w'))
    (hm : w'.members b probe = (answer, w'')) : World.Adds Probing w (w''.close b probe) := by
  have hopened := w.events_dial b pod
  have hasked := w'.events_members b probe
  rw [hd] at hopened
  rw [hm] at hasked
  refine ⟨_, .probed pod probe answer .nil, ?_⟩
  rw [World.events_close, hasked, hopened, List.append_assoc, List.append_assoc]
  rfl

theorem survey_adds (node : String) (w : World σ κ) :
    World.Adds Probing w (survey b pods node w).2 := by
  rcases survey_cases b pods node w with ⟨hp, hs⟩ | ⟨pod, cause, w', hp, hd, hs⟩ |
    ⟨pod, probe, w', cause, w'', hp, hd, hm, hs⟩ | ⟨pod, probe, w', members, w'', hp, hd, hm, hs⟩
  · exact ⟨[], .nil, by simp [hs]⟩
  · refine ⟨_, .refused pod cause .nil, ?_⟩
    simpa [hs, hd] using w.events_dial b pod
  · rw [hs]
    exact probe_adds b hd hm
  · rw [hs]
    exact probe_adds b hd hm

/-- Tries that fail probe. So does a scan, up to the try that ends it. -/
theorem scan_adds {α : Type} {t : Trial σ κ α} {L : α → List (Event κ) → Prop}
    (herr : ∀ node w f w', t node w = (.error f, w') → World.Adds Probing w w')
    (hok : ∀ node w a w', t node w = (.ok a, w') → World.Adds (L a) w w')
    (hL : ∀ a es more, Probing es → L a more → L a (es ++ more))
    (nodes : List String) (w : World σ κ) :
    (∀ fs w', scan t nodes w = (.error fs, w') → World.Adds Probing w w') ∧
    ∀ node a w', scan t nodes w = (.ok (node, a), w') → World.Adds (L a) w w' := by
  -- over the candidates: a try that fails is a probe before what the rest of the scan does
  induction nodes generalizing w with
  | nil =>
    refine ⟨?_, by simp [scan]⟩
    rintro fs w' h
    cases h
    exact ⟨[], .nil, by simp⟩
  | cons node nodes ih =>
    rcases ht : t node w with ⟨_ | a, w₁⟩
    · rw [scan_cons_error t ht]
      have h₁ := herr _ _ _ _ ht
      rcases hs : scan t nodes w₁ with ⟨_ | found, w₂⟩
      · constructor
        · rintro fs w' h
          cases h
          exact h₁.trans ((ih w₁).1 _ _ hs) fun _ _ => .append
        · rintro node' a w' h
          cases h
      · constructor
        · rintro fs w' h
          cases h
        · rintro node' a w' h
          cases h
          exact h₁.trans ((ih w₁).2 _ _ _ hs) (hL a)
    · rw [scan_cons_ok t ht]
      refine ⟨by simp, ?_⟩
      rintro node' a' w' h
      cases h
      exact hok _ _ _ _ ht

theorem firstAvailable_adds (nodes : List String) (w : World σ κ) :
    World.Adds (Walked (firstAvailable b pods nodes {} w).1) w
      (firstAvailable b pods nodes {} w).2 := by
  obtain ⟨herr, hok⟩ := scan_adds (t := connect b pods) (L := fun c => Walked (.ok c))
    (fun node w f w' h => by
      obtain ⟨es, hes, he⟩ := connect_adds b pods node w
      rw [h] at hes he
      cases hes with
      | failed hp => exact ⟨es, hp, he⟩)
    (fun node w c w' h => by
      have hc := connect_adds b pods node w
      rwa [h] at hc)
    (fun _ _ _ => Walked.prepend) nodes w
  rw [firstAvailable_eq_scan]
  rcases hs : scan (connect b pods) nodes w with ⟨fs | ⟨node, c⟩, w'⟩
  · obtain ⟨es, hes, he⟩ := herr _ _ hs
    exact ⟨es, .failed hes, he⟩
  · exact hok _ _ _ hs

theorem follow_adds (candidates : List String) (node : String) (t : Testimony) (w : World σ κ) :
    World.Adds (Walked (follow b pods candidates t.leaderId node t.members w).1) w
      (follow b pods candidates t.leaderId node t.members w).2 := by
  rw [follow_eq]
  cases t.leader? with
  | none => exact ⟨[], .failed .nil, by simp⟩
  | some m =>
    dsimp only
    split
    · obtain ⟨es, hes, he⟩ := connect_adds b pods m.nodeName w
      refine ⟨es, ?_, he⟩
      generalize (connect b pods m.nodeName w).1 = r at hes
      cases hes with
      | failed h => exact .failed h
      | found pod c h => exact .found pod c h
    · exact ⟨[], .failed .nil, by simp⟩

theorem leader_adds (nodes : List String) (w : World σ κ) :
    World.Adds (Walked (leader b pods nodes nodes {} w).1) w
      (leader b pods nodes nodes {} w).2 := by
  obtain ⟨herr, hok⟩ := scan_adds (t := survey b pods) (L := fun _ => Probing)
    (fun node w f w' h => by
      have hs := survey_adds b pods node w
      rwa [h] at hs)
    (fun node w t w' h => by
      have hs := survey_adds b pods node w
      rwa [h] at hs)
    (fun _ _ _ => .append) nodes w
  rw [leader_eq_scan]
  rcases hs : scan (survey b pods) nodes w with ⟨fs | ⟨node, t⟩, w'⟩
  · obtain ⟨es, hes, he⟩ := herr _ _ hs
    exact ⟨es, .failed hes, he⟩
  · exact (hok _ _ _ hs).trans (follow_adds b pods nodes node t w') fun _ _ => Walked.prepend

end Walk

namespace Locator

variable (b : Backend σ κ)

theorem Ready.events_eq {b : Backend σ κ} {l l' : Locator σ κ} (h : Ready b l l') :
    l'.world.events = l.world.events ∨
      ∃ answer, l'.world.events = l.world.events ++ [.listed answer] := by
  cases h with
  | built => exact .inl rfl
  | listed => exact .inr ⟨_, l.world.events_list b⟩

theorem refresh_events (l : Locator σ κ) :
    (l.refresh b).2.world.events = l.world.events ++ [.listed (l.world.list b).1] := by
  rw [refresh_eq]
  split <;> rfl

theorem ensure_events (l : Locator σ κ) :
    (l.ensure b).2.world.events = l.world.events ∨
      ∃ answer, (l.ensure b).2.world.events = l.world.events ++ [.listed answer] := by
  rcases ready_or_unready b l with ⟨l', hr⟩ | ⟨f, hu⟩
  · rw [hr.ensure_eq]
    exact hr.events_eq
  · rw [hu.ensure_eq]
    exact .inr ⟨_, l.world.events_list b⟩

/-- A report asks once and closes. -/
theorem inspect_events (c : κ) (l : Locator σ κ) :
    (l.inspect b c).2.world.events =
      l.world.events ++ [.asked c (l.world.members b c).1, .closed c] := by
  simp [inspect]

theorem search_adds {complaint : String} {nodes : List String}
    {walk : PodMap → World σ κ → Except Failure κ × World σ κ}
    (hwalk : ∀ pods w, World.Adds (Walked (walk pods w).1) w (walk pods w).2)
    (l : Locator σ κ) :
    World.Adds (Searched (l.search b complaint nodes walk).1) l.world
      (l.search b complaint nodes walk).2.world := by
  by_cases hn : nodes = []
  · subst hn
    exact ⟨[], .known (.failed .nil), by simp [search_nil]⟩
  · rcases ready_or_unready b l with ⟨l', hr⟩ | ⟨f, hu⟩
    -- a listing that was needed comes before all that the walk does
    · rw [search_of_ready hn hr]
      obtain ⟨es, hes, he⟩ := hwalk l'.pods l'.world
      rcases hr.events_eq with h | ⟨answer, h⟩
      · exact ⟨es, .known hes, by rw [he, h]⟩
      · exact ⟨.listed answer :: es, .listed answer hes, by rw [he, h, List.append_assoc]; rfl⟩
    · rw [search_of_unready hn hu]
      exact ⟨_, .listed _ (.failed .nil), l.world.events_list b⟩

end Locator

end EtcdLocator
