import EtcdLocator.Proofs.Scan

namespace EtcdLocator

namespace PodMap

def podsOf : Listing → Except Failure (List ProxyPod)
  | .error cause => .error (.listing cause)
  | .ok [] => .error .noPods
  | .ok (p :: pods) => .ok (p :: pods)

theorem rebuild_eq (m : PodMap) (answer : Listing) :
    m.rebuild answer = match podsOf answer with
      | .error f => (.error f, m)
      | .ok pods => (.ok (), ⟨some (ProxyPod.byNode pods)⟩) := by
  rcases answer with cause | (_ | ⟨p, pods⟩) <;> rfl

theorem podsOf_eq_ok_iff {answer : Listing} {pods : List ProxyPod} :
    podsOf answer = .ok pods ↔ answer = .ok pods ∧ pods ≠ [] := by
  rcases answer with cause | (_ | ⟨p, l⟩)
  · simp [podsOf]
  · simp only [podsOf, reduceCtorEq, Except.ok.injEq, false_iff, not_and]
    intro h hne
    exact hne h.symm
  · simp only [podsOf, Except.ok.injEq, iff_self_and]
    rintro rfl
    exact List.cons_ne_nil p l

theorem kind_of_podsOf {answer : Listing} {f : Failure} (h : podsOf answer = .error f) :
    f.kind = .inventory := by
  rcases answer with cause | (_ | ⟨p, l⟩) <;> cases h <;> rfl

end PodMap

namespace Locator

variable {σ κ : Type} (b : Backend σ κ)

/-- A search for a connection by a walk over the nodes, refused with `complaint` if there are
none. -/
def search (complaint : String) (nodes : List String)
    (walk : PodMap → World σ κ → Except Failure κ × World σ κ) (l : Locator σ κ) :
    Except Failure κ × Locator σ κ :=
  if nodes.isEmpty then (.error (.invalidArgument complaint), l)
  else
    match ensure b l with
    | (.error f, l) => (.error f, l)
    | (.ok (), l) =>
      let (outcome, world) := walk l.pods l.world
      (outcome, { l with world })

theorem firstAvailable_eq_search (nodes : List String) (l : Locator σ κ) :
    l.firstAvailable b nodes =
      l.search b "for_first_available_node can't be called with an empty list of nodes" nodes
        fun pods => Walk.firstAvailable b pods nodes {} := rfl

theorem leader_eq_search (nodes : List String) (l : Locator σ κ) :
    l.leader b nodes =
      l.search b "for_leader can't be called with an empty list of nodes" nodes
        fun pods => Walk.leader b pods nodes nodes {} := rfl

/-- A locator with a built map: as it was, or after the listing that the map is from. -/
inductive Ready (l : Locator σ κ) : Locator σ κ → Prop
  | built (h : l.pods.isBuilt = true) : Ready l l
  | listed {pods : List ProxyPod} (h : l.pods.isBuilt = false)
      (hp : PodMap.podsOf (l.world.list b).1 = .ok pods) :
      Ready l ⟨⟨some (ProxyPod.byNode pods)⟩, (l.world.list b).2⟩

structure Unready (l : Locator σ κ) (f : Failure) : Prop where
  unbuilt : l.pods.isBuilt = false
  fault : PodMap.podsOf (l.world.list b).1 = .error f

theorem ready_or_unready (l : Locator σ κ) : (∃ l', Ready b l l') ∨ ∃ f, Unready b l f := by
  cases hb : l.pods.isBuilt with
  | true => exact .inl ⟨l, .built hb⟩
  | false =>
    cases hp : PodMap.podsOf (l.world.list b).1 with
    | ok pods => exact .inl ⟨_, .listed hb hp⟩
    | error f => exact .inr ⟨f, hb, hp⟩

theorem refresh_eq (l : Locator σ κ) :
    l.refresh b = match PodMap.podsOf (l.world.list b).1 with
      | .error f => (.error f, ⟨l.pods, (l.world.list b).2⟩)
      | .ok pods => (.ok (), ⟨⟨some (ProxyPod.byNode pods)⟩, (l.world.list b).2⟩) := by
  unfold refresh
  dsimp only
  rw [PodMap.rebuild_eq]
  cases PodMap.podsOf (l.world.list b).1 <;> rfl

variable {b}

theorem Ready.dialled_eq {l l' : Locator σ κ} (h : Ready b l l') :
    l'.world.dialled = l.world.dialled := by
  cases h with
  | built => rfl
  | listed => exact l.world.dialled_list b

theorem Ready.ensure_eq {l l' : Locator σ κ} (h : Ready b l l') : l.ensure b = (.ok (), l') := by
  cases h with
  | built h => exact if_pos h
  | listed h hp => rw [ensure, if_neg (by simp [h]), refresh_eq, hp]

theorem Unready.ensure_eq {l : Locator σ κ} {f : Failure} (h : Unready b l f) :
    l.ensure b = (.error f, ⟨l.pods, (l.world.list b).2⟩) := by
  rw [ensure, if_neg (by simp [h.unbuilt]), refresh_eq, h.fault]

variable {complaint : String} {nodes : List String}
  {walk : PodMap → World σ κ → Except Failure κ × World σ κ}

theorem search_nil (l : Locator σ κ) :
    l.search b complaint [] walk = (.error (.invalidArgument complaint), l) := rfl

theorem search_of_ready {l l' : Locator σ κ} (hn : nodes ≠ []) (h : Ready b l l') :
    l.search b complaint nodes walk =
      ((walk l'.pods l'.world).1, ⟨l'.pods, (walk l'.pods l'.world).2⟩) := by
  rw [search, if_neg (by simpa using hn), h.ensure_eq]

theorem search_of_unready {l : Locator σ κ} {f : Failure} (hn : nodes ≠ []) (h : Unready b l f) :
    l.search b complaint nodes walk = (.error f, ⟨l.pods, (l.world.list b).2⟩) := by
  rw [search, if_neg (by simpa using hn), h.ensure_eq]

/-- A walk whose failures are of neither kind leaves it to the search to refuse its arguments and
to report on the listing. -/
theorem search_kind_iff
    (hwalk : ∀ pods w f, (walk pods w).1 = .error f →
      f.kind ≠ .invalidArgument ∧ f.kind ≠ .inventory) (l : Locator σ κ) :
    ((∃ text, (l.search b complaint nodes walk).1 = .error (.invalidArgument text)) ↔
      nodes = []) ∧
    ((∃ f, (l.search b complaint nodes walk).1 = .error f ∧ f.kind = .inventory) ↔
      nodes ≠ [] ∧ ∃ f, Unready b l f) := by
  by_cases hn : nodes = []
  · subst hn
    simp [search_nil, Failure.kind]
  · rcases ready_or_unready b l with ⟨l', hr⟩ | ⟨f, hu⟩
    · have hnot : ¬∃ f, Unready b l f := by
        rintro ⟨f, hu⟩
        cases hr.ensure_eq.symm.trans hu.ensure_eq
      rw [search_of_ready hn hr]
      simp only [hn, hnot, and_false, iff_false, not_exists, not_and]
      exact ⟨fun text h => (hwalk _ _ _ h).1 rfl, fun f h => (hwalk _ _ _ h).2⟩
    · rw [search_of_unready hn hu]
      have hk := PodMap.kind_of_podsOf hu.fault
      simp only [hn, ne_eq, not_false_eq_true, true_and, iff_false, not_exists,
        Except.error.injEq]
      refine ⟨?_, ⟨fun _ => ⟨f, hu⟩, fun _ => ⟨f, rfl, hk⟩⟩⟩
      rintro text rfl
      cases hk

end Locator

end EtcdLocator
