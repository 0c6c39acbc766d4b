import EtcdLocator.Proofs.Ownership
import EtcdLocator.Proofs.Words

namespace EtcdLocator

variable {σ κ : Type}

open Event

namespace Session

variable (b : Backend σ κ)

/-- Each name is used once, and the calls so far leave open the connections that are held and those
in hand. -/
structure Accounted (inHand : List κ) (s : Session σ κ) : Prop where
  nodup : (s.held.map (·.1)).Nodup
  net_eq (p : κ → Bool) :
    net p s.events = s.held.countP (fun h => p h.2) + inHand.countP p

variable {b} {s : Session σ κ} {inHand : List κ}

def LeftOpen (cs : List κ) (w : World σ κ) : Prop := ∀ p, net p w.events = cs.countP p

theorem LeftOpen.of_append {cs cs' : List κ} {w w' : World σ κ} {es : List (Event κ)}
    (h : LeftOpen cs w) (he : w'.events = w.events ++ es)
    (hnet : ∀ p, net p es + cs.countP p = cs'.countP p) : LeftOpen cs' w' := by
  intro p
  have hp := hnet p
  rw [he, net_append, h p]
  omega

theorem upholds_leftOpen (b : Backend σ κ) : b.Upholds LeftOpen where
  perm h hp p := (h p).trans (congrArg _ (hp.countP_eq p))
  list h := h.of_append (World.events_list b _) fun p => by simp [delta]
  refused {cs w w' pod cause} h hd := by
    have he := w.events_dial b pod
    rw [hd] at he
    exact h.of_append he fun p => by simp [delta]
  opened {cs w w' pod c} h hd := by
    have he := w.events_dial b pod
    rw [hd] at he
    refine h.of_append he fun p => ?_
    simp only [net_cons, net_nil, delta, List.countP_cons]
    split <;> omega
  members h _ := h.of_append (World.events_members b _ _) fun p => by simp [delta]
  close h := h.of_append (World.events_close b _ _) fun p => by
    simp only [net_cons, net_nil, delta, List.countP_cons]
    split <;> omega
  drop h := h.of_append (World.events_drop b _ _) fun p => by
    simp only [net_cons, net_nil, delta, List.countP_cons]
    split <;> omega

theorem accounted_iff : Accounted inHand s ↔ Satisfies LeftOpen inHand s := by
  have hcount (p : κ → Bool) : (((inHand ++ s.held.map (·.2)).countP p : Nat) : Int) =
      s.held.countP (fun h => p h.2) + inHand.countP p := by
    rw [List.countP_append, List.countP_map, Function.comp_def]
    omega
  constructor
  · exact fun h => ⟨h.nodup, fun p => (h.net_eq p).trans (hcount p).symm⟩
  · exact fun h => ⟨h.nodup, fun p => (h.holds p).trans (hcount p)⟩

theorem Accounted.step (h : Accounted [] s) (o : Operation σ) : Accounted [] (s.step b o).2 := by
  have hs := accounted_iff.1 h
  exact accounted_iff.2 (hs.step (upholds_leftOpen b) fun _ _ => hs.holds)

end Session

end EtcdLocator
