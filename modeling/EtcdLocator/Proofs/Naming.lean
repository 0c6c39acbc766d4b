import EtcdLocator.Locator.Script
import EtcdLocator.Proofs.Decision
import Mathlib.Data.List.TakeWhile
import Mathlib.Logic.ExistsUnique

namespace EtcdLocator

def Dashless (s : String) : Prop := '-' ∉ s.toList

instance (s : String) : Decidable (Dashless s) := inferInstanceAs (Decidable ('-' ∉ s.toList))

def NamedFor (name node : String) : Prop := ∃ suffix, Dashless suffix ∧ name = node ++ "-" ++ suffix

theorem Text.dropWhile_ne_append {mark : Char} {l : List Char} (h : mark ∉ l) (more : List Char) :
    (l ++ mark :: more).dropWhile (· ≠ mark) = mark :: more := by
  have hl : ∀ c ∈ l, decide (c ≠ mark) = true := by
    intro c hc
    exact decide_eq_true (ne_of_mem_of_not_mem hc h)
  rw [List.dropWhile_append_of_pos hl, List.dropWhile_cons_of_neg (by simp)]

section Names

variable {name node suffix : String}

theorem nodeOfMemberName_append (node : String) (h : Dashless suffix) :
    nodeOfMemberName (node ++ "-" ++ suffix) = node := by
  have hrev : (node ++ "-" ++ suffix).toList.reverse =
      suffix.toList.reverse ++ '-' :: node.toList.reverse := by
    simp [String.toList_append]
  have hs : '-' ∉ suffix.toList.reverse := by simpa [Dashless] using h
  rw [nodeOfMemberName, hrev, Text.dropWhile_ne_append hs]
  dsimp only
  rw [List.reverse_reverse, String.ofList_toList]

theorem nodeOfMemberName_of_dashless (h : Dashless name) : nodeOfMemberName name = name := by
  have hnil : name.toList.reverse.dropWhile (· ≠ '-') = [] := by
    rw [List.dropWhile_eq_nil_iff]
    intro c hc
    exact decide_eq_true (ne_of_mem_of_not_mem (List.mem_reverse.1 hc) h)
  rw [nodeOfMemberName, hnil]

/-- A name is cut at its last dash. -/
theorem exists_namedFor (h : ¬Dashless name) : ∃ node, NamedFor name node := by
  have hdash : '-' ∈ name.toList.reverse := by simpa [Dashless] using h
  obtain ⟨after, before, hsplit, hafter⟩ := List.eq_append_cons_of_mem hdash
  refine ⟨String.ofList before.reverse, String.ofList after.reverse, ?_, ?_⟩
  · simpa [Dashless] using hafter
  · apply String.toList_injective
    rw [← List.reverse_inj, hsplit]
    simp [String.toList_append]

theorem NamedFor.nodeOfMemberName_eq (h : NamedFor name node) : nodeOfMemberName name = node := by
  obtain ⟨suffix, hs, rfl⟩ := h
  exact nodeOfMemberName_append node hs

theorem NamedFor.not_dashless (h : NamedFor name node) : ¬Dashless name := by
  obtain ⟨suffix, -, rfl⟩ := h
  simp [Dashless, String.toList_append]

theorem namedFor_iff : NamedFor name node ↔ ¬Dashless name ∧ nodeOfMemberName name = node := by
  constructor
  · intro h
    exact ⟨h.not_dashless, h.nodeOfMemberName_eq⟩
  · rintro ⟨hd, rfl⟩
    obtain ⟨node, h⟩ := exists_namedFor hd
    rwa [h.nodeOfMemberName_eq]

/-- There is nothing in the node that is not in the name. -/
theorem not_mem_nodeOfMemberName {c : Char} (h : c ∉ name.toList) :
    c ∉ (nodeOfMemberName name).toList := by
  by_cases hd : Dashless name
  · rwa [nodeOfMemberName_of_dashless hd]
  · obtain ⟨node, suffix, hs, rfl⟩ := exists_namedFor hd
    rw [nodeOfMemberName_append node hs]
    simp only [String.toList_append, List.mem_append, not_or] at h
    exact h.1.1

theorem existsUnique_suffix (h : ¬Dashless name) :
    ∃! suffix, Dashless suffix ∧ name = nodeOfMemberName name ++ "-" ++ suffix := by
  obtain ⟨suffix, hs, hname⟩ := namedFor_iff.2 ⟨h, rfl⟩
  refine ⟨suffix, ⟨hs, hname⟩, ?_⟩
  rintro suffix' ⟨-, hname'⟩
  exact (String.append_right_inj _).1 (hname'.symm.trans hname)

end Names

theorem nodeName_eq_iff {m m' : Member} {node node' : String} (h : NamedFor m.name node)
    (h' : NamedFor m'.name node') : m.nodeName = m'.nodeName ↔ node = node' := by
  rw [Member.nodeName, Member.nodeName, h.nodeOfMemberName_eq, h'.nodeOfMemberName_eq]

namespace Locator

variable {σ κ : Type} {b : Backend σ κ} {l l' : Locator σ κ} {nodes before : List String}
  {queried node : String} {t : Walk.Testimony} {w : World σ κ} {m : Member}

/-- The node that the leader was named for is looked for among the candidates, and connected to. -/
theorem leader_of_namedFor (hr : Ready b l l')
    (hd : Walk.Deciding b l'.pods nodes l'.world before queried t w) (hl : t.leader? = some m)
    (hm : NamedFor m.name node) :
    l.leader b nodes = if node ∈ nodes then
        ((Walk.connect b l'.pods node w).1.mapError (.leaderUnreachable t.leaderId node),
          ⟨l'.pods, (Walk.connect b l'.pods node w).2⟩)
      else (.error (.leaderNodeNotCandidate t.leaderId node), ⟨l'.pods, w⟩) := by
  obtain ⟨rest, hn⟩ := hd.split
  have hne : nodes ≠ [] := hn ▸ List.append_ne_nil_of_right_ne_nil before (List.cons_ne_nil _ _)
  have hnode : m.nodeName = node := hm.nodeOfMemberName_eq
  rw [leader_eq_search, search_of_ready hne hr, hd.leader_eq, Walk.follow_eq, hl]
  dsimp only
  rw [hnode]
  split <;> rfl

end Locator

/-- Naming a member for a node and reading the node off its name are inverse to each other: a name
is a node, a dash and a suffix without dashes in one way only, and a name without dashes is a node
itself. So members are taken to be on one node exactly if they were named for it, and a search for
the leader goes by the node that the leader was named for. -/
theorem naming_inverted :
    (∀ node suffix, Dashless suffix → nodeOfMemberName (node ++ "-" ++ suffix) = node) ∧
    (∀ name, ¬Dashless name →
      ∃! suffix, Dashless suffix ∧ name = nodeOfMemberName name ++ "-" ++ suffix) ∧
    (∀ name, Dashless name → nodeOfMemberName name = name) ∧
    (∀ (m m' : Member) node node', NamedFor m.name node → NamedFor m'.name node' →
      (m.nodeName = m'.nodeName ↔ node = node')) ∧
    ∀ {σ κ : Type} (b : Backend σ κ) (l l' : Locator σ κ) nodes before queried t w m node,
      l.Ready b l' → Walk.Deciding b l'.pods nodes l'.world before queried t w →
      t.leader? = some m → NamedFor m.name node →
      l.leader b nodes = if node ∈ nodes then
          ((Walk.connect b l'.pods node w).1.mapError (.leaderUnreachable t.leaderId node),
            ⟨l'.pods, (Walk.connect b l'.pods node w).2⟩)
        else (.error (.leaderNodeNotCandidate t.leaderId node), ⟨l'.pods, w⟩) :=
  ⟨fun node _ h => nodeOfMemberName_append node h, fun _ h => existsUnique_suffix h,
    fun _ h => nodeOfMemberName_of_dashless h, fun _ _ _ _ h h' => nodeName_eq_iff h h',
    fun _ _ _ _ _ _ _ _ _ _ hr hd hl hm => Locator.leader_of_namedFor hr hd hl hm⟩

/-- Nodes with dashes of their own, and one with none. -/
theorem naming_inverted_dashed :
    let member (id : UInt64) (name : String) : Member := ⟨id, name, [], [], false⟩
    let members := [member 1 "cp-ü-0-1a2b", member 2 "cp-ü-0-", member 3 "solo"]
    let l : Locator Script Script.Connection := .start {
      listing := .ok [⟨"cp-ü-0", "etcd-0"⟩]
      behaviours := [("etcd-0", [.serves 1 (.ok members)])] }
    nodeOfMemberName "cp-ü-0-1a2b" = "cp-ü-0" ∧
    (∃! suffix, Dashless suffix ∧
      "cp-ü-0-" = nodeOfMemberName "cp-ü-0-" ++ "-" ++ suffix) ∧
    nodeOfMemberName "solo" = "solo" ∧
    ((member 1 "cp-ü-0-1a2b").nodeName = (member 2 "cp-ü-0-").nodeName ↔ "cp-ü-0" = "cp-ü-0") ∧
    (l.leader Script.backend ["cp-ü-0"]).1 = .ok ⟨"etcd-0", 1, .ok members⟩ := by
  intro member members l
  obtain ⟨happend, hunique, hplain, hsame, hleader⟩ := naming_inverted
  have hlong : NamedFor "cp-ü-0-1a2b" "cp-ü-0" := ⟨"1a2b", by decide, by decide⟩
  have hshort : NamedFor "cp-ü-0-" "cp-ü-0" := ⟨"", by decide, by decide⟩
  refine ⟨happend "cp-ü-0" "1a2b" (by decide), hunique _ (by decide), hplain _ (by decide),
    hsame _ _ _ _ hlong hshort, ?_⟩
  have h := hleader Script.backend l _ ["cp-ü-0"] [] "cp-ü-0" ⟨1, members⟩ _ _ _ (.listed rfl rfl)
    ⟨⟨[], rfl⟩, ⟨[], rfl⟩, rfl⟩ rfl hlong
  rw [h]
  rfl

end EtcdLocator
