import EtcdLocator.Proofs.Pods
import EtcdLocator.Proofs.Run
import EtcdLocator.Proofs.Words

namespace EtcdLocator

variable {σ κ : Type}

namespace Event

def listed? : Event κ → Option PodMap.Listing
  | listed answer => some answer
  | _ => none

theorem Probing.listed_eq {es : List (Event κ)} (h : Probing es) : es.filterMap listed? = [] := by
  induction h with
  | nil => rfl
  | refused pod cause _ ih => exact ih
  | probed pod c answer _ ih => exact ih

theorem Walked.listed_eq {r : Except Failure κ} {es : List (Event κ)} (h : Walked r es) :
    es.filterMap listed? = [] := by
  cases h with
  | failed h => exact h.listed_eq
  | found pod c h =>
    rw [List.filterMap_append, h.listed_eq]
    rfl

end Event

namespace World

def listed (w : World σ κ) : List PodMap.Listing := w.events.filterMap Event.listed?

theorem listed_list (b : Backend σ κ) (w : World σ κ) :
    (w.list b).2.listed = w.listed ++ [(w.list b).1] := by
  rw [listed, events_list, List.filterMap_append]
  rfl

@[simp] theorem listed_drop (b : Backend σ κ) (c : κ) (w : World σ κ) :
    (w.drop b c).listed = w.listed := by
  simp [listed, Event.listed?]

theorem Adds.listed_eq {r : Except Failure κ} {w w' : World σ κ}
    (h : Adds (Event.Walked r) w w') : w'.listed = w.listed := by
  obtain ⟨es, hes, he⟩ := h
  rw [listed, he, List.filterMap_append, hes.listed_eq, List.append_nil]
  rfl

end World

structure Locator.Keeps (l l' : Locator σ κ) : Prop where
  pods_eq : l'.pods = l.pods
  listed_eq : l'.world.listed = l.world.listed

theorem Locator.Keeps.refl (l : Locator σ κ) : Keeps l l := ⟨rfl, rfl⟩

def Operation.ensures : Operation σ → Bool
  | ensure | proxyPods => true
  | leader nodes _ | firstAvailable nodes _ => !nodes.isEmpty
  | _ => false

namespace Session

variable (b : Backend σ κ)

def lists (s : Session σ κ) : Operation σ → Bool
  | .refresh => true
  | o => o.ensures && !s.locator.pods.isBuilt

/-- What a request does to the pod map, by the listings made for it. One that gives no pods is what
the request fails with. -/
inductive Effect (s : Session σ κ) :
    Operation σ → Answer κ → PodMap → List PodMap.Listing → Prop
  | forgot {a} : Effect s .invalidate a {} []
  | kept {o a} (ho : o ≠ .invalidate) (hl : s.lists o = false) : Effect s o a s.locator.pods []
  | built {o a m pods} (ho : o ≠ .invalidate) (hl : s.lists o = true)
      (hp : PodMap.podsOf (s.locator.world.list b).1 = .ok pods) (hm : m.BuiltFrom pods) :
      Effect s o a m [(s.locator.world.list b).1]
  | spoiled {o f} (ho : o ≠ .invalidate) (hl : s.lists o = true)
      (hp : PodMap.podsOf (s.locator.world.list b).1 = .error f) :
      Effect s o (.failed f) s.locator.pods [(s.locator.world.list b).1]

def Affects (s : Session σ κ) (o : Operation σ) (r : Answer κ × Session σ κ) : Prop :=
  ∃ made, r.2.locator.world.listed = s.locator.world.listed ++ made ∧
    Effect b s o r.1 r.2.locator.pods made

variable {b} {s : Session σ κ} {o : Operation σ} {r : Answer κ × Session σ κ}

theorem affects_of_kept (ho : o ≠ .invalidate) (hl : s.lists o = false)
    (h : s.locator.Keeps r.2.locator) : Affects b s o r :=
  ⟨[], by rw [h.listed_eq, List.append_nil], h.pods_eq ▸ .kept ho hl⟩

theorem affects_of_ready {l : Locator σ κ} (h : Locator.Ready b s.locator l)
    (ho : o ≠ .invalidate) (hl : s.lists o = !s.locator.pods.isBuilt)
    (hk : l.Keeps r.2.locator) : Affects b s o r := by
  cases h with
  | built h => exact affects_of_kept ho (by rw [hl, h]; rfl) hk
  | listed h hpods =>
    refine ⟨_, hk.listed_eq.trans (s.locator.world.listed_list b), ?_⟩
    refine .built ho (by rw [hl, h]; rfl) hpods ?_
    rw [hk.pods_eq]
    exact PodMap.builtFrom_byNode (PodMap.podsOf_eq_ok_iff.1 hpods).2

theorem affects_of_fault {f : Failure} (ho : o ≠ .invalidate) (hl : s.lists o = true)
    (h : PodMap.podsOf (s.locator.world.list b).1 = .error f) (ha : r.1 = .failed f)
    (hr : r.2.locator = ⟨s.locator.pods, (s.locator.world.list b).2⟩) : Affects b s o r := by
  refine ⟨[(s.locator.world.list b).1], ?_, ?_⟩
  · rw [hr]
    exact s.locator.world.listed_list b
  · rw [ha, hr]
    exact .spoiled ho hl h

variable (b)

theorem keeps_dropHeld (s : Session σ κ) (name : String) :
    s.locator.Keeps (s.dropHeld b name).locator := by
  unfold Session.dropHeld
  split
  · exact .refl s.locator
  · exact ⟨rfl, s.locator.world.listed_drop b _⟩

theorem keeps_settle (s : Session σ κ) (name : String) (r : Except Failure κ × Locator σ κ) :
    r.2.Keeps (s.settle b name r).2.locator := by
  obtain ⟨_ | c, l⟩ := r
  · exact .refl l
  · rw [settle, keep]
    split
    · exact ⟨rfl, l.world.listed_drop b c⟩
    · exact keeps_dropHeld b { s with locator := l } name

theorem affects_search (s : Session σ κ) {o : Operation σ} {complaint name : String}
    {nodes : List String} {walk : PodMap → World σ κ → Except Failure κ × World σ κ}
    (hwalk : ∀ pods w, World.Adds (Event.Walked (walk pods w).1) w (walk pods w).2)
    (ho : o ≠ .invalidate) (hl : s.lists o = (!nodes.isEmpty && !s.locator.pods.isBuilt)) :
    Affects b s o (s.settle b name (s.locator.search b complaint nodes walk)) := by
  by_cases hn : nodes = []
  · subst hn
    exact affects_of_kept ho hl (.refl s.locator)
  have hl' : s.lists o = !s.locator.pods.isBuilt := by
    rw [hl, List.isEmpty_eq_false_iff.2 hn]
    rfl
  rcases Locator.ready_or_unready b s.locator with ⟨l, hr⟩ | ⟨f, hu⟩
  · rw [Locator.search_of_ready hn hr]
    have hk := keeps_settle b s name
      ((walk l.pods l.world).1, ⟨l.pods, (walk l.pods l.world).2⟩)
    exact affects_of_ready hr ho hl'
      ⟨hk.pods_eq, hk.listed_eq.trans (hwalk l.pods l.world).listed_eq⟩
  · rw [Locator.search_of_unready hn hu]
    exact affects_of_fault ho (by rw [hl', hu.unbuilt]; rfl) hu.fault rfl rfl

theorem affects_ensure (s : Session σ κ) {o : Operation σ} {r : Answer κ × Session σ κ}
    (ho : o ≠ .invalidate) (hl : s.lists o = !s.locator.pods.isBuilt)
    (hr : r.2.locator = (s.locator.ensure b).2)
    (ha : ∀ f, (s.locator.ensure b).1 = .error f → r.1 = .failed f) : Affects b s o r := by
  rcases Locator.ready_or_unready b s.locator with ⟨l, hready⟩ | ⟨f, hu⟩
  · rw [hready.ensure_eq] at hr
    exact affects_of_ready hready ho hl (hr ▸ .refl l)
  · rw [hu.ensure_eq] at hr ha
    exact affects_of_fault ho (by rw [hl, hu.unbuilt]; rfl) hu.fault (ha f rfl) hr

theorem affects_refresh (s : Session σ κ) : Affects b s .refresh (s.step b .refresh) := by
  rw [step_refresh]
  cases h : PodMap.podsOf (s.locator.world.list b).1 with
  | error f =>
    have hr : s.locator.refresh b = (.error f, ⟨s.locator.pods, (s.locator.world.list b).2⟩) := by
      rw [Locator.refresh_eq, h]
    rw [hr]
    exact affects_of_fault (by simp) rfl h rfl rfl
  | ok pods =>
    have hr : s.locator.refresh b =
        (.ok (), ⟨⟨some (ProxyPod.byNode pods)⟩, (s.locator.world.list b).2⟩) := by
      rw [Locator.refresh_eq, h]
    rw [hr]
    exact ⟨_, s.locator.world.listed_list b,
      .built (by simp) rfl h (PodMap.builtFrom_byNode (PodMap.podsOf_eq_ok_iff.1 h).2)⟩

theorem affects_step (s : Session σ κ) (o : Operation σ) : Affects b s o (s.step b o) := by
  -- only searches, `ensure`, `proxyPods` and `refresh` can list the pods, and only `invalidate`
  -- forgets them; of all others it is enough that they keep map and listings
  cases o with
  | leader nodes name =>
    rw [step, Locator.leader_eq_search]
    exact affects_search b s (fun pods w => Walk.leader_adds b pods nodes w) (by simp) rfl
  | firstAvailable nodes name =>
    rw [step, Locator.firstAvailable_eq_search]
    exact affects_search b s (fun pods w => Walk.firstAvailable_adds b pods nodes w) (by simp) rfl
  | members name =>
    apply affects_of_kept (by simp) rfl
    rw [step_members]
    split
    · exact .refl s.locator
    · exact ⟨rfl, by simp [ask, World.listed, Event.listed?]⟩
  | report name format =>
    apply affects_of_kept (by simp) rfl
    rw [step_report]
    split
    · exact .refl s.locator
    · exact ⟨rfl, by simp [World.listed, Locator.inspect_events, Event.listed?]⟩
  | close name =>
    apply affects_of_kept (by simp) rfl
    rw [step_close]
    split
    · exact .refl s.locator
    · exact ⟨rfl, by simp [onWorld, forget, World.listed, Event.listed?]⟩
  | drop name =>
    apply affects_of_kept (by simp) rfl
    rw [step_drop]
    exact keeps_dropHeld b s name
  | ensure =>
    rw [step_ensure]
    refine affects_ensure b s (by simp) (Bool.true_and _) rfl ?_
    intro f hf
    rw [hf]
  | proxyPods =>
    rw [step_proxyPods]
    refine affects_ensure b s (by simp) (Bool.true_and _) rfl ?_
    intro f hf
    rw [hf]
  | refresh => exact affects_refresh b s
  | invalidate => exact ⟨[], (List.append_nil _).symm, .forgot⟩
  | resolve node =>
    apply affects_of_kept (by simp) rfl
    rw [step_resolve]
    exact .refl s.locator
  | alter change => exact affects_of_kept (by simp) rfl ⟨rfl, rfl⟩

inductive Mark where
  | listed (answer : PodMap.Listing)
  | forgot

def Mark.isForgot : Mark → Bool
  | forgot => true
  | listed _ => false

def Mark.pods? : Mark → Option (List ProxyPod)
  | listed answer => (PodMap.podsOf answer).toOption
  | forgot => none

/-- The marks since the pods were last forgotten, the latest first. -/
def sinceForgotten (past : List Mark) : List Mark := past.reverse.takeWhile (!·.isForgot)

/-- The pods listed last, unless they were forgotten. -/
def latest (past : List Mark) : Option (List ProxyPod) := (sinceForgotten past).findSome? Mark.pods?

def Step.made (t : Step σ κ) : List PodMap.Listing :=
  t.after.locator.world.listed.drop t.before.locator.world.listed.length

def Step.marks (t : Step σ κ) : List Mark :=
  match t.operation with
  | .invalidate => [.forgot]
  | _ => t.made.map .listed

def past (s : Session σ κ) (os : List (Operation σ)) : List Mark :=
  (s.steps b os).flatMap Step.marks

theorem latest_forgot (past : List Mark) : latest (past ++ [.forgot]) = none := by
  simp [latest, sinceForgotten, Mark.isForgot]

theorem latest_listed (past : List Mark) (answer : PodMap.Listing) :
    latest (past ++ [.listed answer]) = match PodMap.podsOf answer with
      | .ok pods => some pods
      | .error _ => latest past := by
  simp only [latest, sinceForgotten, List.reverse_append, List.reverse_singleton,
    List.singleton_append, List.takeWhile_cons, Mark.isForgot, Bool.not_false, if_true,
    List.findSome?_cons, Mark.pods?]
  cases PodMap.podsOf answer <;> rfl

def Remembers (past : List Mark) (m : PodMap) : Prop :=
  match latest past with
  | none => m = {}
  | some pods => m.BuiltFrom pods

theorem marks_of_made {s : Session σ κ} {o : Operation σ} {made : List PodMap.Listing}
    (h : (s.step b o).2.locator.world.listed = s.locator.world.listed ++ made)
    (ho : o ≠ .invalidate) : (s.request b o).marks = made.map .listed := by
  have hmade : (s.request b o).made = made := by
    rw [Step.made, request, h, List.drop_left]
  rw [Step.marks, hmade]
  split
  · contradiction
  · rfl

/-- One request keeps the map in step with the past. -/
theorem Remembers.step {past : List Mark} {s : Session σ κ} (h : Remembers past s.locator.pods)
    (o : Operation σ) :
    Remembers (past ++ (s.request b o).marks) (s.step b o).2.locator.pods := by
  obtain ⟨made, hmade, heffect⟩ := affects_step b s o
  -- the marks of the request are its listings, whatever else it does
  generalize (s.step b o).1 = answer at heffect
  generalize (s.step b o).2.locator.pods = m at heffect
  cases heffect with
  | forgot =>
    have hm : (s.request b .invalidate).marks = [.forgot] := rfl
    rw [hm, Remembers, latest_forgot]
  | kept ho hl =>
    rw [marks_of_made b hmade ho, List.map_nil, List.append_nil]
    exact h
  | built ho hl hp hm =>
    rw [marks_of_made b hmade ho, Remembers, List.map_singleton, latest_listed, hp]
    exact hm
  | spoiled ho hl hp =>
    rw [marks_of_made b hmade ho, Remembers, List.map_singleton, latest_listed, hp]
    exact h

/-- All requests do. -/
theorem Remembers.final {before : List Mark} {s : Session σ κ}
    (h : Remembers before s.locator.pods) (os : List (Operation σ)) :
    Remembers (before ++ s.past b os) (s.final b os).locator.pods := by
  induction os generalizing s before with
  | nil =>
    rw [past, steps, List.flatMap_nil, List.append_nil]
    exact h
  | cons o os ih =>
    rw [past, steps, List.flatMap_cons, ← List.append_assoc]
    exact ih (h.step b o)

end Session

end EtcdLocator
