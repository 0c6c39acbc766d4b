import Mathlib.Data.Finset.Card
import Mathlib.Data.List.Sort
import EtcdLocator.Proofs.Pods
import EtcdLocator.Proofs.Renderings
import EtcdLocator.Proofs.Stages
import EtcdLocator.Proofs.Tunnels

namespace EtcdLocator

open Kubernetes (Pod Response)

namespace Kubernetes

namespace Pod

def textWithin (object name : String) (v : Json) : Option String :=
  match (v.field? object).bind (·.field? name) with
  | some (.str s) => some s
  | _ => none

/-- Where an item of a list puts a pod, if it has both a name and a node. -/
def placement? (item : Json) : Option ProxyPod := do
  let node ← textWithin "spec" "nodeName" item
  let name ← textWithin "metadata" "name" item
  return { node, name }

theorem textWithin_eq {object name : String} {v w : Json} {text : Option String}
    (hw : optionalObject object v = some w) (ht : optionalText name w = some text) :
    textWithin object name v = text := by
  have hempty : Json.field? name (.obj []) = none := rfl
  unfold optionalObject at hw
  unfold optionalText at ht
  unfold textWithin
  split at hw <;> cases hw <;> rename_i hv <;> rw [hv]
  · rw [hempty] at ht
    exact Option.some.inj ht
  · rw [hempty] at ht
    exact Option.some.inj ht
  · rw [Option.bind_some]
    split at ht <;> cases ht <;> rename_i hf <;> rw [hf]

theorem proxy?_of_ofJson? {item : Json} {p : Pod} (h : ofJson? item = some p) :
    p.proxy? = placement? item := by
  cases item with
  | obj fields =>
    simp only [ofJson?, Option.bind_eq_bind, Option.pure_def] at h
    split at h
    · cases h
    · simp only [Option.bind_eq_some_iff, Option.some.injEq] at h
      obtain ⟨metadata, hm, spec, hs, status, hst, name, hn, node, hnode, phase, hp, rfl⟩ := h
      rw [proxy?, placement?, textWithin_eq hs hnode, textWithin_eq hm hn]
  | _ => cases h

theorem exists_mapM_ofJson? {items : List Json} (h : ∀ item ∈ items, (ofJson? item).isSome) :
    ∃ pods, items.mapM ofJson? = some pods ∧
      pods.filterMap proxy? = items.filterMap placement? := by
  induction items with
  | nil => exact ⟨[], rfl, rfl⟩
  | cons item items ih =>
    obtain ⟨p, hp⟩ := Option.isSome_iff_exists.1 (h item List.mem_cons_self)
    obtain ⟨pods, hpods, heq⟩ := ih fun other hmem => h other (List.mem_cons_of_mem item hmem)
    have hproxy := proxy?_of_ofJson? hp
    refine ⟨p :: pods, ?_, ?_⟩
    · rw [List.mapM_cons, hp, hpods]
      rfl
    · rw [List.filterMap_cons, List.filterMap_cons, hproxy, heq]

end Pod

/-- An answer lists those items and no others, all of which can be read as pods. -/
structure Response.Lists (r : Response) (items : List Json) : Prop where
  accepted : r.status < 400
  listed : ∃ v, Json.parse? r.body = some v ∧
    (v.field? "items" = some (.arr items) ∨ v.field? "items" = some .null ∧ items = [])
  readable : ∀ item ∈ items, (Pod.ofJson? item).isSome

theorem Response.Lists.proxies {r : Response} {items : List Json} (h : r.Lists items) :
    Pod.proxiesOfResponse r = .ok (items.filterMap Pod.placement?) := by
  obtain ⟨v, hparse, hitems⟩ := h.listed
  obtain ⟨pods, hpods, heq⟩ := Pod.exists_mapM_ofJson? h.readable
  have hdocument : r.document = .ok v := by
    rw [document, if_neg (Nat.not_le.2 h.accepted), hparse]
  have hlist : Pod.listOfJson? v = some pods := by
    unfold Pod.listOfJson?
    rcases hitems with hitems | ⟨hitems, rfl⟩
    · rw [hitems]
      exact hpods
    · rw [hitems]
      exact hpods
  apply bind_eq_ok_iff.2
  refine ⟨v, hdocument, ?_⟩
  rw [hlist, ← heq]

end Kubernetes

namespace ProxyPod

def on (node : String) (l : List ProxyPod) : List ProxyPod := l.filter (·.node = node)

theorem find?_reverse_eq (node : String) (l : List ProxyPod) :
    l.reverse.find? (·.node = node) = (on node l).reverse.head? := by
  rw [on, ← List.filter_reverse, List.head?_filter]

instance : Std.Antisymm fun p q : ProxyPod => Text.BytesLt p.node q.node where
  antisymm _ _ h h' := absurd rfl (Text.ne_of_bytesLt (Text.bytesLt_trans h h'))

instance : Std.Irrefl fun p q : ProxyPod => Text.BytesLt p.node q.node where
  irrefl _ h := Text.ne_of_bytesLt h rfl

theorem mem_byNode_iff (p : ProxyPod) (l : List ProxyPod) :
    p ∈ byNode l ↔ l.reverse.find? (·.node = p.node) = some p := by
  rw [← find?_byNode]
  exact (sorted_byNode l).mem_iff p

/-- The order in which pods of different nodes come makes no difference. -/
theorem byNode_eq_of_on {l l' : List ProxyPod} (h : ∀ node, on node l = on node l') :
    byNode l = byNode l' := by
  apply (sorted_byNode l).eq_of_mem_iff (sorted_byNode l')
  intro p
  rw [mem_byNode_iff, mem_byNode_iff, find?_reverse_eq, find?_reverse_eq, h]

theorem Sorted.nodup_nodes {l : List ProxyPod} (h : Sorted l) : (l.map (·.node)).Nodup :=
  List.pairwise_map.2 (h.imp Text.ne_of_bytesLt)

theorem mem_nodes_byNode_iff (node : String) (l : List ProxyPod) :
    node ∈ (byNode l).map (·.node) ↔ node ∈ l.map (·.node) := by
  simp only [List.mem_map]
  constructor
  · rintro ⟨p, hp, rfl⟩
    have hfind := (mem_byNode_iff p l).1 hp
    exact ⟨p, List.mem_reverse.1 (List.mem_of_find?_eq_some hfind), rfl⟩
  · rintro ⟨p, hp, rfl⟩
    -- the last pod on the node of `p`, which may be another one
    have hsome : (l.reverse.find? (·.node = p.node)).isSome :=
      List.find?_isSome.2 ⟨p, List.mem_reverse.2 hp, by simp⟩
    obtain ⟨q, hq⟩ := Option.isSome_iff_exists.1 hsome
    have hnode : q.node = p.node := by simpa using List.find?_some hq
    exact ⟨q, (mem_byNode_iff q l).2 (hnode ▸ hq), hnode⟩

theorem length_byNode (l : List ProxyPod) :
    (byNode l).length = (l.map (·.node)).toFinset.card := by
  have hnodes : (l.map (·.node)).toFinset = ((byNode l).map (·.node)).toFinset := by
    ext node
    rw [List.mem_toFinset, List.mem_toFinset, mem_nodes_byNode_iff]
  rw [hnodes, List.toFinset_card_of_nodup (sorted_byNode l).nodup_nodes, List.length_map]

end ProxyPod

def placedOn (node : String) (items : List Json) : List ProxyPod :=
  ProxyPod.on node (items.filterMap Pod.placement?)

/-- Items that put no pod anywhere make no difference. -/
theorem filterMap_placing (items : List Json) :
    (items.filter fun item => (Pod.placement? item).isSome).filterMap Pod.placement? =
      items.filterMap Pod.placement? := by
  rw [List.filterMap_filter]
  congr 1
  funext item
  cases Pod.placement? item with
  | none => rfl
  | some p => rfl

/-- Some item puts a pod of that name on the node, and no later item puts another there. -/
def LastPlaced (items : List Json) (node name : String) : Prop :=
  ∃ before item after, items = before ++ item :: after ∧
    Pod.placement? item = some ⟨node, name⟩ ∧
    ∀ later ∈ after, ∀ p, Pod.placement? later = some p → p.node ≠ node

theorem lastPlaced_iff {items : List Json} {node name : String} :
    LastPlaced items node name ↔
      (items.filterMap Pod.placement?).reverse.find? (·.node = node) = some ⟨node, name⟩ := by
  rw [← List.filterMap_reverse, List.find?_filterMap, Option.bind_eq_some_iff]
  constructor
  · rintro ⟨before, item, after, rfl, hitem, hafter⟩
    refine ⟨item, ?_, hitem⟩
    rw [List.find?_eq_some_iff_append]
    refine ⟨by simp [hitem], after.reverse, before.reverse, by simp, ?_⟩
    intro later hlater
    have hne := hafter later (List.mem_reverse.1 hlater)
    cases hp : Pod.placement? later with
    | none => rfl
    | some p => simpa using hne p hp
  · rintro ⟨item, hfind, hitem⟩
    obtain ⟨-, after, before, heq, hafter⟩ := List.find?_eq_some_iff_append.1 hfind
    refine ⟨before.reverse, item, after.reverse, ?_, hitem, ?_⟩
    · rw [← List.reverse_reverse items, heq]
      simp
    · intro later hlater p hp
      have hne := hafter later (List.mem_reverse.1 hlater)
      rw [hp] at hne
      simpa using hne

namespace PodMap

def ofListing : List ProxyPod → Except Failure PodMap
  | [] => .error .noPods
  | pods => .ok ⟨some (ProxyPod.byNode pods)⟩

/-- What is kept after a map was to be made anew: the old one, unless that succeeded. -/
def after (m : PodMap) : Except Failure PodMap → PodMap
  | .error _ => m
  | .ok built => built

theorem rebuild_ok (m : PodMap) (pods : List ProxyPod) :
    m.rebuild (.ok pods) = ((ofListing pods).map fun _ => (), m.after (ofListing pods)) := by
  cases pods with
  | nil => rfl
  | cons p pods => rfl

theorem ofListing_of_ne {pods : List ProxyPod} (h : pods ≠ []) :
    ofListing pods = .ok ⟨some (ProxyPod.byNode pods)⟩ := by
  cases pods with
  | nil => exact absurd rfl h
  | cons p pods => rfl

structure Shows (m : PodMap) (items : List Json) : Prop where
  resolve_iff (node name : String) : m.resolve node = .ok name ↔ LastPlaced items node name
  ascending : m.entries.Pairwise fun p q => Text.BytesLt p.node q.node
  mem_entries_iff (p : ProxyPod) : p ∈ m.entries ↔ m.resolve p.node = .ok p.name
  length_entries : m.entries.length = m.size
  size_eq : m.size = ((items.filterMap Pod.placement?).map (·.node)).toFinset.card

theorem shows_byNode {items : List Json} (h : items.filterMap Pod.placement? ≠ []) :
    Shows ⟨some (ProxyPod.byNode (items.filterMap Pod.placement?))⟩ items := by
  have hbuilt := builtFrom_byNode h
  have hresolve (node name : String) :
      resolve ⟨some (ProxyPod.byNode (items.filterMap Pod.placement?))⟩ node = .ok name ↔
        (items.filterMap Pod.placement?).reverse.find? (·.node = node) = some ⟨node, name⟩ := by
    rw [hbuilt.resolve_eq]
    cases hfind : (items.filterMap Pod.placement?).reverse.find? (·.node = node) with
    | none => simp
    | some p =>
      obtain ⟨other, name'⟩ := p
      have hnode : other = node := by simpa using List.find?_some hfind
      simp [hnode]
  exact {
    resolve_iff := fun node name => (hresolve node name).trans lastPlaced_iff.symm
    ascending := hbuilt.sorted
    mem_entries_iff := fun p => (hbuilt.mem_entries p).trans (hresolve p.node p.name).symm
    length_entries := rfl
    size_eq := ProxyPod.length_byNode _ }

theorem ofListing_eq_of_on {pods pods' : List ProxyPod}
    (h : ∀ node, ProxyPod.on node pods = ProxyPod.on node pods') :
    ofListing pods = ofListing pods' := by
  have hempty {l l' : List ProxyPod} (hl : ∀ node, ProxyPod.on node l = ProxyPod.on node l')
      (hnil : l = []) : l' = [] := by
    apply List.eq_nil_iff_forall_not_mem.2
    intro p hp
    have hmem : p ∈ ProxyPod.on p.node l' := List.mem_filter.2 ⟨hp, by simp⟩
    rw [← hl, hnil] at hmem
    cases hmem
  by_cases hpods : pods = []
  · rw [hpods, hempty h hpods]
  · have hpods' : pods' ≠ [] := fun hnil => hpods (hempty (fun node => (h node).symm) hnil)
    rw [ofListing_of_ne hpods, ofListing_of_ne hpods', ProxyPod.byNode_eq_of_on h]

end PodMap

namespace Report.Pods

def IsRow (p : ProxyPod) (row : String) : Prop :=
  ∃ gap : List Char, gap ≠ [] ∧ (∀ c ∈ gap, c = ' ') ∧
    row = p.node ++ String.ofList gap ++ p.name ++ "\n"

def Tabulates (format : Format) (pods : List ProxyPod) (output : String) : Prop :=
  match format with
  | .text => ∃ rows, output = line "NODE" "POD" ++ String.join rows ∧ List.Forall₂ IsRow pods rows
  | .json => Json.Conveys output (.obj [
      ("pods", .arr (pods.map fun p => .obj [("node", .str p.node), ("pod", .str p.name)]))])

theorem isRow_line (p : ProxyPod) : IsRow p (line p.node p.name) := by
  have hblank : ∀ c ∈ List.replicate (32 - p.node.length) ' ' ++ [' '], c = ' ' := by
    intro c hc
    rcases List.mem_append.1 hc with hc | hc
    · exact List.eq_of_mem_replicate hc
    · exact List.mem_singleton.1 hc
  refine ⟨_, ?_, hblank, ?_⟩
  · exact List.append_ne_nil_of_right_ne_nil _ (List.cons_ne_nil _ _)
  · rw [line, pad, String.ofList_append, ← String.append_assoc]

theorem tabulates_render (r : Pods) (format : Format) :
    Tabulates format r.pods (r.render format) := by
  unfold Tabulates
  cases format with
  | text =>
    have hrows : List.Forall₂ IsRow r.pods (r.pods.map fun p => line p.node p.name) := by
      rw [List.forall₂_map_right_iff, List.forall₂_same]
      exact fun p _ => isRow_line p
    exact ⟨_, by rw [render, text], hrows⟩
  | json => exact Json.conveys_pretty _

end Report.Pods

namespace Connector

open Program (State)

variable {k : Connector} {network : Network} {items : List Json}

def Obtains (k : Connector) (network : Network) (items : List Json) : Prop :=
  ∃ r, network.answer (.list k.layout.namespaceName k.layout.labelSelector) = .ok r ∧ r.Lists items

/-- What comes of the pods of a network, wherever they are listed: when a locator lists them, when
it is asked for them first, and when the program prints them. -/
structure Yields (k : Connector) (network : Network) (outcome : Except Failure PodMap) : Prop where
  refresh (l : State) (h : l.world.state.network = network) :
    (l.refresh k.backend).1 = (outcome.map fun _ => ()) ∧
      (l.refresh k.backend).2.pods = l.pods.after outcome
  proxyPods (l : State) (h : l.world.state.network = network) (hb : l.pods.isBuilt = false) :
    (l.proxyPods k.backend).1 = outcome.map PodMap.entries ∧
      (l.proxyPods k.backend).2.pods = l.pods.after outcome
  report {around : Program.Surroundings} {i : CommandLine.Invocation} (hc : i.command = .pods)
      (hp : Program.prepare around i = .ok ⟨k, network⟩) :
    (∀ m, outcome = .ok m → ∃ output, (Program.run around i).1 = .ok output ∧
      Report.Pods.Tabulates i.output m.entries output) ∧
    ∀ f, outcome = .error f → (Program.run around i).1 = .error (Program.causeOfFailure f)

theorem Obtains.list_eq (h : Obtains k network items) {s : Site} (hs : s.network = network) :
    (k.list s).1 = .ok (items.filterMap Pod.placement?) := by
  obtain ⟨r, hr, hlists⟩ := h
  have hanswer : (k.list s).1 = ((network.answer (.list k.layout.namespaceName
      k.layout.labelSelector)).bind Pod.proxiesOfResponse).mapError fun f =>
        f.cause.context "pod list request failed" := by
    rw [list, Tunnel.Traffic.send_eq, hs]
  rw [hanswer, hr, mapError_eq_ok_iff]
  exact hlists.proxies

theorem proxyPods_of_unbuilt {l : State} (h : l.pods.isBuilt = false) :
    l.proxyPods k.backend = ((l.refresh k.backend).1.map fun _ =>
      (l.refresh k.backend).2.pods.entries, (l.refresh k.backend).2) := by
  have hensure : l.ensure k.backend = l.refresh k.backend := by
    rw [Locator.ensure, if_neg (by simp [h])]
  rw [Locator.proxyPods, hensure]
  rcases l.refresh k.backend with ⟨f | done, refreshed⟩
  · rfl
  · rfl

theorem perform_pods {i : CommandLine.Invocation} (hc : i.command = .pods) (l : State) :
    (Program.perform k i l).1 = ((l.proxyPods k.backend).1.map fun pods =>
      Report.Pods.render ⟨pods⟩ i.output).mapError Program.causeOfFailure := by
  rw [Program.perform, hc]
  dsimp only
  rcases l.proxyPods k.backend with ⟨f | pods, asked⟩
  · rfl
  · rfl

theorem Obtains.yields (h : Obtains k network items) :
    Yields k network (PodMap.ofListing (items.filterMap Pod.placement?)) := by
  -- what the listing comes to is worked out once, in `hrefresh`; the other two ways lead through it
  generalize houtcome : PodMap.ofListing (items.filterMap Pod.placement?) = outcome
  have hrefresh (l : State) (hl : l.world.state.network = network) :
      (l.refresh k.backend).1 = (outcome.map fun _ => ()) ∧
        (l.refresh k.backend).2.pods = l.pods.after outcome := by
    have hrebuild : ((l.refresh k.backend).1, (l.refresh k.backend).2.pods) =
        l.pods.rebuild (k.list l.world.state).1 := rfl
    rw [h.list_eq hl, PodMap.rebuild_ok, houtcome] at hrebuild
    exact Prod.mk.inj hrebuild
  have hproxy (l : State) (hl : l.world.state.network = network) (hb : l.pods.isBuilt = false) :
      (l.proxyPods k.backend).1 = outcome.map PodMap.entries ∧
        (l.proxyPods k.backend).2.pods = l.pods.after outcome := by
    obtain ⟨hanswer, hpods⟩ := hrefresh l hl
    rw [proxyPods_of_unbuilt hb]
    refine ⟨?_, hpods⟩
    dsimp only
    rw [hanswer, hpods]
    cases outcome with
    | error f => rfl
    | ok m => rfl
  refine ⟨hrefresh, hproxy, ?_⟩
  intro around i hc hp
  obtain ⟨hanswer, -⟩ := hproxy (.start ⟨network, {}⟩) rfl rfl
  have hrun : Program.run around i = Program.perform k i (.start ⟨network, {}⟩) := by
    rw [Program.run, hp]
  rw [hrun, perform_pods hc, hanswer]
  constructor
  · intro m hm
    rw [hm]
    exact ⟨_, rfl, Report.Pods.tabulates_render ⟨m.entries⟩ i.output⟩
  · intro f hf
    rw [hf]
    rfl

/-- What a server lists is shown as the last pod of each node, each node once and in order, by the
map, by a locator and in both formats of the report, or as no pods at all where no item has both a
name and a node. Items that lack one of them do not count, and of the order of the others only that
of the pods of each node. -/
theorem listing_shown (h : Obtains k network items) :
    ((∀ item ∈ items, Pod.placement? item = none) → Yields k network (.error .noPods)) ∧
    ((∃ item ∈ items, (Pod.placement? item).isSome) →
      ∃ m, Yields k network (.ok m) ∧ m.Shows items) ∧
    (∀ k' network', Obtains k' network' (items.filter fun item => (Pod.placement? item).isSome) →
      ∃ outcome, Yields k network outcome ∧ Yields k' network' outcome) ∧
    ∀ k' network' items', Obtains k' network' items' →
      (∀ node, placedOn node items = placedOn node items') →
      ∃ outcome, Yields k network outcome ∧ Yields k' network' outcome := by
  have hyields := h.yields
  refine ⟨?_, ?_, ?_, ?_⟩
  · intro hnone
    rw [List.filterMap_eq_nil_iff.2 hnone] at hyields
    exact hyields
  · rintro ⟨item, hitem, hsome⟩
    obtain ⟨p, hp⟩ := Option.isSome_iff_exists.1 hsome
    have hmem : p ∈ items.filterMap Pod.placement? := List.mem_filterMap.2 ⟨item, hitem, hp⟩
    have hne : items.filterMap Pod.placement? ≠ [] := List.ne_nil_of_mem hmem
    rw [PodMap.ofListing_of_ne hne] at hyields
    exact ⟨_, hyields, PodMap.shows_byNode hne⟩
  · intro k' network' h'
    have hyields' := h'.yields
    rw [filterMap_placing] at hyields'
    exact ⟨_, hyields, hyields'⟩
  · intro k' network' items' h' hon
    rw [PodMap.ofListing_eq_of_on hon] at hyields
    exact ⟨_, hyields, h'.yields⟩

def listed (items : List Json) : Network := .serving {
  respond := fun _ => { body := (Json.obj [("items", .arr items)]).compact }
  farEnd := fun _ _ _ => .stalls
  listen := fun _ => .ok 0 }

theorem obtains_listed (h : ∀ item ∈ items, (Pod.ofJson? item).isSome) :
    Obtains {} (listed items) items := by
  have hbody := (Json.conveys_compact (.obj [("items", .arr items)])).parse_eq
  have hstatus : 200 < 400 := by decide
  exact ⟨_, rfl, hstatus, ⟨_, hbody, .inl rfl⟩, h⟩

/-- A pod that was evicted and replaced, one without a node and one without a name. -/
theorem listing_shown_rescheduled :
    let item (metadata spec : List (String × Json)) : Json :=
      .obj [("metadata", .obj metadata), ("spec", .obj spec), ("status", .null)]
    let items : List Json := [
      item [("name", .str "etcd-b-1")] [("nodeName", .str "b")],
      item [("name", .str "etcd-a")] [("nodeName", .str "a")],
      item [("name", .str "pending")] [],
      item [("name", .str "etcd-b-2")] [("nodeName", .str "b")],
      item [] [("nodeName", .str "c")]]
    Obtains {} (listed items) items ∧
      (∃ m, Yields {} (listed items) (.ok m) ∧ m.Shows items) ∧
      Yields {} (listed [item [] []]) (.error .noPods) := by
  intro item items
  have hitems : Obtains {} (listed items) items := obtains_listed (by decide)
  have hnone : Obtains {} (listed [item [] []]) [item [] []] := obtains_listed (by decide)
  have hsome : ∃ item ∈ items, (Pod.placement? item).isSome := by decide
  exact ⟨hitems, (listing_shown hitems).2.1 hsome, (listing_shown hnone).1 (by decide)⟩

end Connector

end EtcdLocator
