import EtcdLocator.PodMap

namespace EtcdLocator

namespace Text

theorem bytes_injective {s t : String} (h : bytes s = bytes t) : s = t := by
  apply String.toByteArray_inj.1
  apply ByteArray.ext
  exact Array.toList_inj.1 h

theorem ne_of_bytesLt {s t : String} (h : BytesLt s t) : s ≠ t := by
  rintro rfl
  exact List.lt_irrefl _ h

theorem bytesLt_trans {s t u : String} (hs : BytesLt s t) (ht : BytesLt t u) : BytesLt s u :=
  List.lt_trans hs ht

theorem bytesLt_of_ne {s t : String} (hne : s ≠ t) (h : ¬BytesLt s t) : BytesLt t s := by
  rcases List.le_iff_lt_or_eq.1 (List.not_lt.1 h) with hlt | heq
  · exact hlt
  · exact absurd (bytes_injective heq).symm hne

end Text

namespace ProxyPod

def Sorted (l : List ProxyPod) : Prop := l.Pairwise fun p q => Text.BytesLt p.node q.node

theorem eq_or_mem_of_mem_insert {p q : ProxyPod} {l : List ProxyPod} (h : q ∈ p.insert l) :
    q = p ∨ q ∈ l := by
  induction l with
  | nil => exact .inl (List.mem_singleton.1 h)
  | cons r l ih =>
    rw [insert] at h
    split at h
    · exact (List.mem_cons.1 h).imp id (List.mem_cons_of_mem r)
    split at h
    · exact List.mem_cons.1 h
    · rcases List.mem_cons.1 h with rfl | h
      · exact .inr List.mem_cons_self
      · exact (ih h).imp id (List.mem_cons_of_mem r)

theorem Sorted.insert {l : List ProxyPod} (h : Sorted l) (p : ProxyPod) : Sorted (p.insert l) := by
  induction l with
  | nil => exact List.pairwise_singleton _ p
  | cons q l ih =>
    obtain ⟨hq, hl⟩ := List.pairwise_cons.1 h
    rw [ProxyPod.insert]
    split
    · rename_i heq
      exact List.pairwise_cons.2 ⟨fun r hr => heq ▸ hq r hr, hl⟩
    split
    · rename_i hlt
      refine List.pairwise_cons.2 ⟨?_, h⟩
      intro r hr
      rcases List.mem_cons.1 hr with rfl | hr
      · exact hlt
      · exact Text.bytesLt_trans hlt (hq r hr)
    · rename_i hne hlt
      refine List.pairwise_cons.2 ⟨?_, ih hl⟩
      intro r hr
      rcases eq_or_mem_of_mem_insert hr with rfl | hr
      · exact Text.bytesLt_of_ne hne hlt
      · exact hq r hr

theorem sorted_byNode (l : List ProxyPod) : Sorted (byNode l) := by
  -- the fold starts from any sorted list
  suffices h : ∀ sorted, Sorted sorted → Sorted (l.foldl (fun sorted p => p.insert sorted) sorted)
    from h [] List.Pairwise.nil
  induction l with
  | nil => exact fun _ h => h
  | cons p l ih => exact fun sorted h => ih _ (h.insert p)

theorem Sorted.mem_iff {l : List ProxyPod} (h : Sorted l) (p : ProxyPod) :
    p ∈ l ↔ l.find? (·.node = p.node) = some p := by
  refine ⟨?_, List.mem_of_find?_eq_some⟩
  intro hp
  induction l with
  | nil => cases hp
  | cons q l ih =>
    obtain ⟨hq, hl⟩ := List.pairwise_cons.1 h
    rcases List.mem_cons.1 hp with rfl | hp
    · exact List.find?_cons_of_pos (by simp)
    · rw [List.find?_cons_of_neg (by simpa using Text.ne_of_bytesLt (hq p hp))]
      exact ih hl hp

end ProxyPod

namespace PodMap

/-- The map of a listing: for each of its nodes the last of its pods, in order, and for all other
nodes none. -/
structure BuiltFrom (m : PodMap) (listing : List ProxyPod) : Prop where
  isBuilt : m.isBuilt = true
  mem_entries (p : ProxyPod) : p ∈ m.entries ↔ listing.reverse.find? (·.node = p.node) = some p
  sorted : ProxyPod.Sorted m.entries
  nonempty : m.entries ≠ []
  resolve_eq (node : String) :
    m.resolve node = match listing.reverse.find? (·.node = node) with
      | some p => .ok p.name
      | none => .error (.noProxyPod node)

theorem builtFrom_byNode {listing : List ProxyPod} (h : listing ≠ []) :
    BuiltFrom ⟨some (ProxyPod.byNode listing)⟩ listing where
  isBuilt := rfl
  mem_entries p := by
    rw [← ProxyPod.find?_byNode]
    exact (ProxyPod.sorted_byNode listing).mem_iff p
  sorted := ProxyPod.sorted_byNode listing
  nonempty := by
    intro hnil
    -- the pod that is listed last is in the map
    obtain ⟨p, hp⟩ := List.exists_mem_of_ne_nil _ h
    have hfind := ProxyPod.find?_byNode listing p.node
    change ProxyPod.byNode listing = [] at hnil
    rw [hnil, List.find?_nil, eq_comm, List.find?_eq_none] at hfind
    exact hfind p (List.mem_reverse.2 hp) (by simp)
  resolve_eq node := by
    rw [← ProxyPod.find?_byNode]
    rfl

example : ProxyPod.byNode [⟨"b", "old"⟩, ⟨"a", "etcd-a"⟩, ⟨"b", "etcd-b"⟩] =
    [⟨"a", "etcd-a"⟩, ⟨"b", "etcd-b"⟩] := by
  decide

end PodMap

end EtcdLocator
