import EtcdLocator.CommandLine.Override
import EtcdLocator.Proofs.Spelling

namespace EtcdLocator.CommandLine

variable {config : Option String} {words : List String} {i : Invocation}

namespace Draft

variable {d e : Draft}

theorem value?_eq_some_iff (hn : (d.values.map (·.1)).Nodup) {name v : String} :
    d.value? name = some v ↔ (name, v) ∈ d.values := by
  constructor
  · intro h
    obtain ⟨⟨_, _⟩, hfind, rfl⟩ := Option.map_eq_some_iff.1 h
    obtain rfl : _ = name := by simpa using List.find?_some hfind
    exact List.mem_of_find?_eq_some hfind
  · intro h
    have hdistinct : d.values.Pairwise fun o o' => o.1 ≠ o'.1 := List.pairwise_map.1 hn
    have hfind := find?_of_pairwise (p := fun o => o.1 = name) h (by simp) (hdistinct.imp ?_)
    · rw [value?, hfind]
      rfl
    · rintro o o' hne ⟨ho, ho'⟩
      simp only [decide_eq_true_iff] at ho ho'
      exact hne (ho.trans ho'.symm)

theorem has_iff {name : String} : d.has name = true ↔ ∃ v, (name, v) ∈ d.values := by
  simp only [has, value?, Option.isSome_map, List.find?_isSome, decide_eq_true_iff]
  constructor
  · rintro ⟨⟨_, v⟩, hv, rfl⟩
    exact ⟨v, hv⟩
  · rintro ⟨v, hv⟩
    exact ⟨_, hv, rfl⟩

end Draft

def Invocation.options (i : Invocation) : List (String × Option String) := [
  ("kubeconfig", i.kubeconfig), ("context", i.context), ("ca", i.ca), ("cert", i.cert),
  ("key", i.key), ("server-name", i.serverName), ("dial-timeout", i.dialTimeout),
  ("call-timeout", i.callTimeout)]

def Command.nodes? : Command → Option (List String)
  | leader nodes | firstAvailable nodes => some nodes
  | pods => none

/-- What the words after the name of a command make of it. The nodes are all that is given to those
commands that try nodes. -/
inductive Commands : String → List String → Command → Prop
  | leader {more own} (h : nodesGrammar.Spells [] more own none) (hn : own ≠ []) :
      Commands "leader" more (.leader (own.map (·.2)))
  | firstAvailable {more own} (h : nodesGrammar.Spells [] more own none) (hn : own ≠ []) :
      Commands "first-available" more (.firstAvailable (own.map (·.2)))
  | pods {more} (h : podsGrammar.Spells [] more [] none) : Commands "pods" more .pods

theorem proper_podsGrammar : podsGrammar.Proper where
  distinct := by decide
  name_ne := by decide
  not_mem_name := by decide
  letter_ne := by decide
  plain := nofun

/-- Without commands, all words are read. -/
theorem Grammar.Spells.rest_eq_none {g : Grammar} (hc : g.commands = [])
    {earlier given : List (String × String)} {rest : Option (String × List String)}
    (h : g.Spells earlier words given rest) : rest = none := by
  induction h with
  | nil | dashes => rfl
  | command hname =>
    rw [hc] at hname
    cases hname
  | joined _ _ _ _ ih | apart _ _ _ _ _ ih => exact ih

theorem readAll_eq_ok_iff {g : Grammar} (hg : g.Proper) (hc : g.commands = []) {e : Draft} :
    readAll g words = .ok e ↔ g.Spells [] words e.values none ∧ e.pending = none := by
  rw [readAll, bind_eq_ok_iff]
  constructor
  · rintro ⟨⟨d, rest⟩, hread, he⟩
    have hs := (Grammar.spells_iff hg).2 ⟨d, e, hread, he, rfl⟩
    obtain rfl := hs.rest_eq_none hc
    exact ⟨hs, Draft.pending_of_settle he⟩
  · rintro ⟨hs, hp⟩
    obtain ⟨d, e', hread, he, hvalues⟩ := (Grammar.spells_iff hg).1 hs
    obtain rfl : e' = e := by
      rw [Draft.mk.injEq]
      exact ⟨hvalues, (Draft.pending_of_settle he).trans hp.symm⟩
    exact ⟨(d, none), hread, he⟩

/-- Only nodes are given to a command that tries nodes. -/
theorem fst_eq_node {given own : List (String × String)} {rest : Option (String × List String)}
    (h : nodesGrammar.Spells given words own rest) {o : String × String} (ho : o ∈ own) :
    o.1 = "node" := by
  obtain ⟨s, hs, accepts, repeats, hu, hname, -⟩ := h.exists_switch ho
  simp only [nodesGrammar, List.mem_cons, List.not_mem_nil, or_false] at hs
  rcases hs with rfl | rfl
  · exact hname.symm
  · cases hu

theorem readNodes_eq_ok_iff {nodes : List String} :
    readNodes words = .ok nodes ↔
      ∃ own, nodesGrammar.Spells [] words own none ∧ own ≠ [] ∧ nodes = own.map (·.2) := by
  rw [readNodes, bind_eq_ok_iff]
  have hall {e : Draft} (hs : nodesGrammar.Spells [] words e.values none) :
      e.valuesOf "node" = e.values.map (·.2) := by
    rw [Draft.valuesOf, List.filter_eq_self.2]
    intro o ho
    simpa using fst_eq_node hs ho
  constructor
  · rintro ⟨e, he, hn⟩
    obtain ⟨hs, -⟩ := (readAll_eq_ok_iff proper_nodesGrammar rfl).1 he
    rw [hall hs] at hn
    split at hn
    · cases hn
    · rename_i hne
      cases hn
      exact ⟨e.values, hs, fun hnil => hne (by rw [hnil]; rfl), rfl⟩
  · rintro ⟨own, hs, hne, rfl⟩
    refine ⟨{ values := own }, (readAll_eq_ok_iff proper_nodesGrammar rfl).2 ⟨hs, rfl⟩, ?_⟩
    rw [hall hs]
    split
    · rename_i hnil
      exact absurd (List.map_eq_nil_iff.1 hnil) hne
    · rfl

theorem commands_iff {name : String} {c : Command} :
    Commands name words c ↔ readCommand name words = .ok c := by
  constructor
  · rintro (⟨hs, hn⟩ | ⟨hs, hn⟩ | hs)
    · exact map_eq_ok_iff.2 ⟨_, readNodes_eq_ok_iff.2 ⟨_, hs, hn, rfl⟩, rfl⟩
    · exact map_eq_ok_iff.2 ⟨_, readNodes_eq_ok_iff.2 ⟨_, hs, hn, rfl⟩, rfl⟩
    · exact map_eq_ok_iff.2 ⟨{}, (readAll_eq_ok_iff proper_podsGrammar rfl).2 ⟨hs, rfl⟩, rfl⟩
  · intro h
    unfold readCommand at h
    split at h
    · rename_i hname
      obtain ⟨nodes, hn, rfl⟩ := map_eq_ok_iff.1 h
      obtain ⟨own, hs, hne, rfl⟩ := readNodes_eq_ok_iff.1 hn
      exact hname ▸ .leader hs hne
    split at h
    · rename_i hname
      obtain ⟨nodes, hn, rfl⟩ := map_eq_ok_iff.1 h
      obtain ⟨own, hs, hne, rfl⟩ := readNodes_eq_ok_iff.1 hn
      exact hname ▸ .firstAvailable hs hne
    split at h
    · rename_i hname
      obtain ⟨e, he, rfl⟩ := map_eq_ok_iff.1 h
      obtain ⟨hs, -⟩ := (readAll_eq_ok_iff proper_podsGrammar rfl).1 he
      -- the one flag takes no value
      have hnil : e.values = [] := by
        rw [List.eq_nil_iff_forall_not_mem]
        intro o ho
        obtain ⟨s, hmem, _, _, hu, -⟩ := hs.exists_switch ho
        obtain rfl := List.mem_singleton.1 hmem
        cases hu
      exact hname ▸ .pods (hnil ▸ hs)
    · cases h

/-- What is entered: what was given before the command, with the path from the environment if none
was given for the configuration file. -/
inductive Entered (config : Option String) (given : List (String × String)) :
    List (String × String) → Prop
  | given (h : config = none ∨ ∃ v, ("config", v) ∈ given) : Entered config given given
  | environment {path} (h : ∀ v, ("config", v) ∉ given) (hc : config = some path) :
      Entered config given (given ++ [("config", path)])

theorem entered_of_withEnvironment {d e : Draft} (h : withEnvironment config d = .ok e) :
    Entered config d.values e.values := by
  unfold withEnvironment at h
  split at h
  · cases h
    exact .given (.inl rfl)
  · split at h
    · rename_i hhas
      cases h
      exact .given (.inr (Draft.has_iff.1 hhas))
    · rename_i hhas
      obtain ⟨-, rfl⟩ := Draft.enter_eq_ok_iff.1 h
      exact .environment (fun v hv => hhas (Draft.has_iff.2 ⟨v, hv⟩)) rfl

theorem Entered.nodup {given entered : List (String × String)} (h : Entered config given entered)
    (hn : (given.map (·.1)).Nodup) : (entered.map (·.1)).Nodup := by
  cases h with
  | given => exact hn
  | environment h =>
    rw [List.map_append, List.nodup_append]
    refine ⟨hn, by simp, ?_⟩
    rintro name hname _ hlast rfl
    obtain rfl : name = "config" := List.mem_singleton.1 hlast
    obtain ⟨⟨_, v⟩, hv, rfl⟩ := List.mem_map.1 hname
    exact h v hv

theorem Entered.mem_iff {given entered : List (String × String)} (h : Entered config given entered)
    {name v : String} (hname : name ≠ "config") : (name, v) ∈ entered ↔ (name, v) ∈ given := by
  cases h with
  | given => rfl
  | environment => simp [hname]

theorem Entered.config_mem_iff {given entered : List (String × String)}
    (h : Entered config given entered) {v : String} :
    ("config", v) ∈ entered ↔
      ("config", v) ∈ given ∨ (∀ v, ("config", v) ∉ given) ∧ config = some v := by
  cases h with
  | given h =>
    refine ⟨.inl, ?_⟩
    rintro (hv | ⟨hnew, rfl⟩)
    · exact hv
    · rcases h with ⟨⟨⟩⟩ | ⟨v', hv'⟩
      exact absurd hv' (hnew v')
  | environment hnew hc => simp [hnew, hc, eq_comm]

structure Reading (config : Option String) (words : List String) (i : Invocation)
    (given : List (String × String)) (name : String) (more : List String) : Prop where
  spells : grammar.Spells [] words given (some (name, more))
  commands : Commands name more i.command
  options : ∀ o ∈ i.options, ∀ v, o.2 = some v ↔ (o.1, v) ∈ given
  configFile : ∀ v, i.config = some v ↔
    ("config", v) ∈ given ∨ (∀ v, ("config", v) ∉ given) ∧ config = some v
  paths : (∃ ca cert key, i.ca = some ca ∧ i.cert = some cert ∧ i.key = some key) ∨
    (i.ca = none ∧ i.cert = none ∧ i.key = none)

theorem not_repeats_of_mem_grammar {s : Switch} (hs : s ∈ grammar.switches)
    {accepts : String → Bool} {repeats : Bool} (hu : s.use = .option accepts repeats) :
    repeats = false := by
  simp only [grammar, List.mem_cons, List.not_mem_nil, or_false] at hs
  rcases hs with rfl | rfl | rfl | rfl | rfl | rfl | rfl | rfl | rfl | rfl | rfl | rfl | rfl | rfl
    <;> cases hu <;> rfl

theorem paths_of_isComplete {d : Draft} (h : isComplete d = true) :
    (∃ ca cert key, d.value? "ca" = some ca ∧ d.value? "cert" = some cert ∧
      d.value? "key" = some key) ∨
    (d.value? "ca" = none ∧ d.value? "cert" = none ∧ d.value? "key" = none) := by
  simp only [isComplete, Draft.has, Bool.and_eq_true, beq_iff_eq] at h
  obtain ⟨hca, hcert⟩ := h
  cases hkey : d.value? "key" with
  | none =>
    rw [hkey, Option.isSome_none, Option.isSome_eq_false_iff, Option.isNone_iff_eq_none] at hcert
    rw [hcert, Option.isSome_none, Option.isSome_eq_false_iff, Option.isNone_iff_eq_none] at hca
    exact .inr ⟨hca, hcert, rfl⟩
  | some key =>
    rw [hkey, Option.isSome_some, Option.isSome_iff_exists] at hcert
    obtain ⟨cert, hcert⟩ := hcert
    rw [hcert, Option.isSome_some, Option.isSome_iff_exists] at hca
    obtain ⟨ca, hca⟩ := hca
    exact .inl ⟨ca, cert, key, hca, hcert, rfl⟩

theorem exists_reading (h : parse config words = .ok i) :
    ∃ given name more, Reading config words i given name more := by
  unfold parse at h
  obtain ⟨⟨d, rest⟩, hread, h⟩ := bind_eq_ok_iff.1 h
  cases rest with
  | none =>
    obtain ⟨_, ⟨⟩, h⟩ := bind_eq_ok_iff.1 h
    obtain ⟨_, -, h⟩ := bind_eq_ok_iff.1 h
    obtain ⟨_, -, h⟩ := bind_eq_ok_iff.1 h
    cases h
  | some rest =>
    obtain ⟨name, more⟩ := rest
    obtain ⟨_, hmap, h⟩ := bind_eq_ok_iff.1 h
    obtain ⟨command, hcommand, rfl⟩ := map_eq_ok_iff.1 hmap
    -- with each option at most once, looking up a name finds all that was given under it
    obtain ⟨e, he, h⟩ := bind_eq_ok_iff.1 h
    obtain ⟨e', he', h⟩ := bind_eq_ok_iff.1 h
    have hs := (Grammar.spells_iff proper_grammar).2 ⟨d, e, hread, he, rfl⟩
    have hentered := entered_of_withEnvironment he'
    have hnodup :=
      hentered.nodup (hs.nodup (fun _ hs _ _ => not_repeats_of_mem_grammar hs) .nil)
    have hvalue {name v : String} (hname : name ≠ "config") :
        e'.value? name = some v ↔ (name, v) ∈ e.values := by
      rw [Draft.value?_eq_some_iff hnodup, hentered.mem_iff hname]
    dsimp only at h
    split at h
    · rename_i hcomplete
      cases h
      refine ⟨e.values, name, more, hs, commands_iff.2 hcommand, fun o ho v => ?_, fun v => ?_,
        paths_of_isComplete hcomplete⟩
      · simp only [Invocation.options, List.mem_cons, List.not_mem_nil, or_false] at ho
        rcases ho with rfl | rfl | rfl | rfl | rfl | rfl | rfl | rfl <;> exact hvalue (by decide)
      · exact (Draft.value?_eq_some_iff hnodup).trans hentered.config_mem_iff
    · cases h

end EtcdLocator.CommandLine
