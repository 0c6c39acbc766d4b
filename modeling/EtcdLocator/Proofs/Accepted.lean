import EtcdLocator.Proofs.Reaching
import EtcdLocator.Proofs.Stages

namespace EtcdLocator

namespace Locator

variable {σ κ : Type} {b : Backend σ κ} {l : Locator σ κ} {nodes : List String} {f : Failure}

theorem ne_invalidArgument_of_search {complaint : String}
    {walk : PodMap → World σ κ → Except Failure κ × World σ κ} (hn : nodes ≠ [])
    (hwalk : ∀ pods w f, (walk pods w).1 = .error f →
      f.kind ≠ .invalidArgument ∧ f.kind ≠ .inventory)
    (h : (l.search b complaint nodes walk).1 = .error f) (text : String) :
    f ≠ .invalidArgument text := by
  rintro rfl
  exact hn ((search_kind_iff hwalk l).1.1 ⟨text, h⟩)

theorem kind_of_proxyPods (h : (l.proxyPods b).1 = .error f) : f.kind = .inventory := by
  unfold proxyPods at h
  rcases ready_or_unready b l with ⟨l', hr⟩ | ⟨f', hu⟩
  · rw [hr.ensure_eq] at h
    cases h
  · rw [hu.ensure_eq] at h
    cases h
    exact PodMap.kind_of_podsOf hu.fault

end Locator

namespace Program

open CommandLine

variable {around : Surroundings} {config : Option String} {words : List String} {i : Invocation}
  {setup : Setup} {f : Failure}

theorem ne_invalidArgument_of_resolve {c : Command}
    (hn : ∀ nodes, c.nodes? = some nodes → nodes ≠ []) (h : (setup.resolve c).1 = .error f)
    (text : String) : f ≠ .invalidArgument text := by
  cases c with
  | leader nodes =>
    have h : (setup.start.leader setup.backend nodes).1 = .error f := map_eq_error_iff.1 h
    rw [Locator.leader_eq_search] at h
    exact Locator.ne_invalidArgument_of_search (hn nodes rfl)
      (fun _ _ _ => Walk.kind_ne_of_leader) h text
  | firstAvailable nodes =>
    have h : (setup.start.firstAvailable setup.backend nodes).1 = .error f :=
      map_eq_error_iff.1 h
    rw [Locator.firstAvailable_eq_search] at h
    exact Locator.ne_invalidArgument_of_search (hn nodes rfl)
      (fun _ _ _ => Walk.kind_ne_of_firstAvailable) h text
  | pods =>
    rintro rfl
    cases Locator.kind_of_proxyPods (map_eq_error_iff.1 h)

/-- The candidates are what the words after the command spell, in their order. -/
theorem nodes_of_commands {name : String} {more : List String} {c : Command}
    (h : Commands name more c) {nodes : List String} (hc : c.nodes? = some nodes) :
    nodes ≠ [] ∧ nodesGrammar.Spells [] more (nodes.map ("node", ·)) none := by
  have hown {own : List (String × String)} (hs : nodesGrammar.Spells [] more own none) :
      (own.map (·.2)).map ("node", ·) = own := by
    calc (own.map (·.2)).map ("node", ·) = own.map fun o => ("node", o.2) := List.map_map
      _ = own.map id := List.map_congr_left fun o ho => Prod.ext (fst_eq_node hs ho).symm rfl
      _ = own := List.map_id own
  cases h with
  | leader hs hn | firstAvailable hs hn =>
    cases hc
    rw [hown hs]
    exact ⟨fun hnil => hn (List.map_eq_nil_iff.1 hnil), hs⟩
  | pods => cases hc

inductive Together (given : List (String × String)) : Prop
  | all {ca cert key} (hca : ("ca", ca) ∈ given) (hcert : ("cert", cert) ∈ given)
      (hkey : ("key", key) ∈ given)
  | nothing (h : ∀ v, ("ca", v) ∉ given ∧ ("cert", v) ∉ given ∧ ("key", v) ∉ given)

theorem together_of_reading {given : List (String × String)} {name : String} {more : List String}
    (hr : Reading config words i given name more) : Together given := by
  have hca := hr.options ("ca", i.ca) (by simp [Invocation.options])
  have hcert := hr.options ("cert", i.cert) (by simp [Invocation.options])
  have hkey := hr.options ("key", i.key) (by simp [Invocation.options])
  rcases hr.paths with ⟨ca, cert, key, ha, hc, hk⟩ | ⟨ha, hc, hk⟩
  · exact .all ((hca ca).1 ha) ((hcert cert).1 hc) ((hkey key).1 hk)
  · refine .nothing fun v => ⟨fun h => ?_, fun h => ?_, fun h => ?_⟩
    · cases ha.symm.trans ((hca v).2 h)
    · cases hc.symm.trans ((hcert v).2 h)
    · cases hk.symm.trans ((hkey v).2 h)

/-- What words spell if they are accepted: candidates in their order if the command takes any, and
the paths of the TLS material together, which then leave nothing of those of a file. No search is
refused for want of candidates. -/
theorem accepted_well_formed (h : parse config words = .ok i) :
    ∃ given name more, Reading config words i given name more ∧
      (∀ given' rest, grammar.Spells [] words given' rest →
        given' = given ∧ rest = some (name, more)) ∧
      (∀ nodes, i.command.nodes? = some nodes →
        nodes ≠ [] ∧ nodesGrammar.Spells [] more (nodes.map ("node", ·)) none) ∧
      Together given ∧
      (∀ file, PrevailsTls i file.tls (i.override file).tls) ∧
      ∀ around setup f, prepare around i = .ok setup → (setup.resolve i.command).1 = .error f →
        (run around i).1 = .error (told i.command f) ∧ ∀ text, f ≠ .invalidArgument text := by
  obtain ⟨given, name, more, hr⟩ := exists_reading h
  have hnodes nodes (hc : i.command.nodes? = some nodes) := nodes_of_commands hr.commands hc
  refine ⟨given, name, more, hr, fun given' rest hs => hs.unique proper_grammar hr.spells, hnodes,
    together_of_reading hr, fun file => prevailsTls_tls hr file.tls, fun around setup f hp hf => ?_⟩
  refine ⟨?_, ne_invalidArgument_of_resolve (fun nodes hc => (hnodes nodes hc).1) hf⟩
  rw [run_fst, hp]
  show (perform setup.connector i setup.start).1 = _
  rw [perform_fst, hf]
  rfl

/-- Options in several spellings, and candidates of which one is empty and one comes twice. -/
theorem accepted_well_formed_mixed :
    let words := ["--key=k", "-ojson", "--cert", "c", "--ca", "a",
      "leader", "--node", "x", "--node=", "--node", "x"]
    let i : Invocation := {
      ca := some "a", cert := some "c", key := some "k", output := .json
      command := .leader ["x", "", "x"] }
    parse none words = .ok i ∧
    (∃ given name more, Reading none words i given name more ∧ Together given ∧
      nodesGrammar.Spells [] more [("node", "x"), ("node", ""), ("node", "x")] none) ∧
    ∀ file, PrevailsTls i file.tls (i.override file).tls := by
  intro words i
  have hi : parse none words = .ok i := by decide +kernel
  obtain ⟨given, name, more, hr, -, hnodes, htogether, htls, -⟩ := accepted_well_formed hi
  exact ⟨hi, ⟨given, name, more, hr, htogether, (hnodes _ rfl).2⟩, htls⟩

end Program

end EtcdLocator
