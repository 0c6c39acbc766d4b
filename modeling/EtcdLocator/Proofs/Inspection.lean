import EtcdLocator.Locator.Inspection
import EtcdLocator.Proofs.Leadership
import EtcdLocator.Proofs.Numerals

namespace EtcdLocator

variable {σ κ : Type}

theorem World.dialled_getLast? {w : World σ κ} {pod : String} {c : κ}
    (h : w.events.getLast? = some (.opened pod c)) : w.dialled.getLast? = some pod := by
  obtain ⟨es, hes⟩ := List.getLast?_eq_some_iff.1 h
  rw [World.dialled, hes, List.filterMap_append]
  exact List.getLast?_concat

namespace Report

theorem MemberRow.isLeader_ofMember {leaderId : UInt64} {m : Member} :
    (ofMember leaderId m).isLeader = true ↔ m.id = leaderId := decide_eq_true_iff

/-- The ids as they are printed tell the members apart as well. -/
theorem MemberRow.id_ofMember_eq_iff {leaderId : UInt64} {m : Member} :
    (ofMember leaderId m).id = Text.hex leaderId.toNat ↔ m.id = leaderId := by
  constructor
  · intro h
    exact UInt64.toNat_inj.1 (Text.hex_injective h)
  · intro h
    rw [ofMember, h]

theorem find?_map_ofMember (leaderId : UInt64) (members : List Member) :
    (members.map (MemberRow.ofMember leaderId)).find? (·.isLeader) =
      (members.find? (·.id = leaderId)).map (MemberRow.ofMember leaderId) := List.find?_map

/-- With ids of their own, the members have one leader at most. -/
theorem filter_id_eq_singleton {leaderId : UInt64} {members : List Member} {m : Member}
    (hn : (members.map (·.id)).Nodup) (hm : members.find? (·.id = leaderId) = some m) :
    members.filter (·.id = leaderId) = [m] := by
  have hhead : (members.filter (·.id = leaderId)).head? = some m := by
    rw [List.head?_filter, hm]
  obtain ⟨rest, hrest⟩ := List.head?_eq_some_iff.1 hhead
  have hids : ((m :: rest).map (·.id)).Nodup := by
    rw [← hrest]
    exact hn.sublist (List.filter_sublist.map _)
  have hall : ∀ x ∈ m :: rest, x.id = leaderId := by
    intro x hx
    rw [← hrest] at hx
    simpa using (List.mem_filter.1 hx).2
  cases rest with
  | nil => exact hrest
  | cons x rest =>
    have hx : x.id = m.id :=
      (hall x (by simp)).trans (hall m List.mem_cons_self).symm
    simp [hx] at hids

/-- The row is of the leader, whose node is one of `nodes` and has the pod of the report. -/
structure Connection.Names (pods : PodMap) (nodes : List String) (r : Connection)
    (row : MemberRow) : Prop where
  id_eq : row.id = r.leaderId
  candidate : row.node ∈ nodes
  resolve_eq : pods.resolve row.node = .ok r.pod

/-- The report is on the members in `t`, in their order, and its leader is behind its pod. -/
structure Connection.PointsAt (pods : PodMap) (nodes : List String) (t : Walk.Testimony)
    (r : Connection) : Prop where
  rows : r.members = t.members.map (MemberRow.ofMember t.leaderId)
  marked {row : MemberRow} (h : row ∈ r.members) : row.isLeader = true ↔ row.id = r.leaderId
  first : ∃ row, r.members.find? (·.isLeader) = some row ∧ r.Names pods nodes row
  only (h : (t.members.map (·.id)).Nodup) :
    ∃ row, r.members.filter (·.isLeader) = [row] ∧ r.Names pods nodes row

theorem Connection.pointsAt_ofMembers {pods : PodMap} {nodes : List String} {t : Walk.Testimony}
    {m : Member} {pod : String} (hl : t.leader? = some m) (hm : m.nodeName ∈ nodes)
    (hp : pods.resolve m.nodeName = .ok pod) :
    (ofMembers pod t.leaderId t.members).PointsAt pods nodes t := by
  have hid : m.id = t.leaderId := by simpa using List.find?_some hl
  have hnames : (ofMembers pod t.leaderId t.members).Names pods nodes
      (MemberRow.ofMember t.leaderId m) := ⟨MemberRow.id_ofMember_eq_iff.2 hid, hm, hp⟩
  refine ⟨rfl, ?_, ⟨_, ?_, hnames⟩, fun hn => ⟨_, ?_, hnames⟩⟩
  · intro row hrow
    obtain ⟨m', -, rfl⟩ := List.mem_map.1 hrow
    exact MemberRow.isLeader_ofMember.trans MemberRow.id_ofMember_eq_iff.symm
  · show (t.members.map _).find? _ = _
    rw [find?_map_ofMember]
    exact congrArg _ hl
  · show (t.members.map _).filter _ = _
    rw [List.filter_map]
    exact congrArg (List.map _) (filter_id_eq_singleton hn hl)

end Report

namespace Locator

variable {b : Backend σ κ} {l l' l₁ : Locator σ κ} {nodes : List String} {c : κ}
  {t : Walk.Testimony}

theorem inspect_of_members {members : List Member} (h : (l.world.members b c).1 = .ok members) :
    (l.inspect b c).1 = .ok (.ofMembers (b.endpoint c) (b.leaderId c) members) := by
  unfold inspect
  dsimp only
  rw [h]
  rfl

/-- A report on a connection to the leader. If it shows what was said when the search was decided,
then its row for the leader is of the candidate whose pod was dialled last. -/
theorem leader_reported (hb : b.Faithful) (h : l.leader b nodes = (.ok c, l'))
    (ht : l.Decisive b nodes t) (hid : b.leaderId c = t.leaderId)
    (hms : (l₁.world.members b c).1 = .ok t.members) :
    ∃ r, (l₁.inspect b c).1 = .ok r ∧ r.PointsAt l'.pods nodes t ∧
      l'.world.dialled.getLast? = some r.pod := by
  obtain ⟨t', m, pod, hled⟩ := exists_led h
  obtain rfl := hled.decisive.eq ht
  refine ⟨_, inspect_of_members hms, ?_, ?_⟩
  · rw [hid, hled.endpoint_eq hb]
    exact Report.Connection.pointsAt_ofMembers hled.leader hled.candidate hled.resolve_eq
  · rw [Report.Connection.ofMembers, hled.endpoint_eq hb]
    exact World.dialled_getLast? hled.last

/-- The member that is asked names another. -/
theorem leader_reported_settled :
    let l : Locator Script Script.Connection := start (Script.shifting 1)
    let r := l.leader Script.backend ["b", "a"]
    ∃ c t report, r.1 = .ok c ∧ l.Decisive Script.backend ["b", "a"] t ∧
      (r.2.inspect Script.backend c).1 = .ok report ∧
      report.PointsAt r.2.pods ["b", "a"] t ∧ r.2.world.dialled.getLast? = some report.pod := by
  intro l r
  let c : Script.Connection := ⟨"etcd-a", 1, .ok Script.twoMembers⟩
  have h : l.leader Script.backend ["b", "a"] = (.ok c, r.2) := rfl
  have ht : l.Decisive Script.backend ["b", "a"] ⟨1, Script.twoMembers⟩ :=
    ⟨_, [], "b", _, .listed rfl rfl, ⟨["a"], rfl⟩, ⟨[], rfl⟩, rfl⟩
  have hms : (r.2.world.members Script.backend c).1 = .ok Script.twoMembers := rfl
  obtain ⟨report, hreport⟩ := leader_reported Script.faithful_backend h ht rfl hms
  exact ⟨_, _, report, rfl, ht, hreport⟩

end Locator

end EtcdLocator
