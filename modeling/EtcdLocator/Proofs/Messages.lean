import EtcdLocator.Failure
import Mathlib.Data.List.Infix

namespace EtcdLocator

namespace Text

def Occurs (part s : String) : Prop := part.toList <:+: s.toList

def Ends (part s : String) : Prop := part.toList <:+ s.toList

instance (part s : String) : Decidable (Occurs part s) :=
  inferInstanceAs (Decidable (part.toList <:+: s.toList))

variable {part s t : String}

theorem ends_append (s t : String) : Ends t (s ++ t) := by
  rw [Ends, String.toList_append]
  exact List.suffix_append _ _

theorem Ends.occurs (h : Ends part s) : Occurs part s := h.isInfix

theorem Occurs.refl (s : String) : Occurs s s := List.infix_refl _

theorem Occurs.trans (h : Occurs part s) (h' : Occurs s t) : Occurs part t :=
  List.IsInfix.trans h h'

theorem Occurs.append_left (h : Occurs part s) (t : String) : Occurs part (s ++ t) := by
  rw [Occurs, String.toList_append]
  exact List.IsInfix.trans h (List.prefix_append _ _).isInfix

theorem Occurs.append_right (h : Occurs part t) (s : String) : Occurs part (s ++ t) :=
  h.trans (ends_append s t).occurs

/-- Each part stands in a text in which marks stand before them all. -/
theorem occurs_join_map {α : Type} {a : α} {l : List α} (h : a ∈ l) (mark : String)
    (f : α → String) : Occurs (f a) (String.join (l.map (mark ++ f ·))) := by
  have hjoin : Occurs (mark ++ f a) (String.join (l.map (mark ++ f ·))) := by
    rw [Occurs, String.toList_join, List.flatMap_def]
    exact List.infix_of_mem_flatten (List.mem_map_of_mem (List.mem_map_of_mem h))
  exact ((Occurs.refl _).append_right mark).trans hjoin

/-- A mark stands before each part but the first. -/
theorem intercalate_cons (mark first : String) (parts : List String) :
    mark.intercalate (first :: parts) = first ++ String.join (parts.map (mark ++ ·)) := by
  induction parts generalizing first with
  | nil => simp
  | cons part parts ih =>
    rw [String.intercalate_cons_cons, ih, List.map_cons, String.join_cons, String.append_assoc,
      String.append_assoc]

end Text

open Text (Occurs Ends)

namespace Failure

inductive Summed : List Failure → String → Prop
  | none : Summed [] "no errors recorded"
  | one (f : Failure) : Summed [f] f.message
  | several (f g : Failure) (fs : List Failure) :
      Summed (f :: g :: fs)
        ("[" ++ f.message ++ String.join ((g :: fs).map (", " ++ ·.message)) ++ "]")

theorem message_several (f g : Failure) (fs : List Failure) :
    (Attempts.ofList (f :: g :: fs)).message =
      "[" ++ f.message ++ String.join ((g :: fs).map (", " ++ ·.message)) ++ "]" := by
  show "[" ++ ", ".intercalate (f.message :: messages (g :: fs)) ++ "]" = _
  rw [Text.intercalate_cons, messages_eq_map, List.map_map, ← String.append_assoc]
  rfl

theorem summed_iff {fs : List Failure} {text : String} :
    Summed fs text ↔ (Attempts.ofList fs).message = text := by
  constructor
  · intro h
    cases h with
    | none => rfl
    | one f => rfl
    | several f g fs => exact message_several f g fs
  · rintro rfl
    match fs with
    | [] => exact .none
    | [f] => exact .one f
    | f :: g :: fs => exact message_several f g fs ▸ .several f g fs

variable {root f g : Failure} {fs : List Failure}

theorem Summed.occurs {text : String} (h : Summed fs text) (hg : g ∈ fs) :
    Occurs g.message text := by
  cases h with
  | none => cases hg
  | one f =>
    rw [List.mem_singleton.1 hg]
    exact .refl _
  | several f g' fs =>
    rcases List.mem_cons.1 hg with rfl | hg
    · exact (((Occurs.refl _).append_right "[").append_left _).append_left "]"
    · have hjoin := Text.occurs_join_map hg ", " message
      exact (hjoin.append_right _).append_left "]"

theorem ends_of_causes (h : f.causes = some fs) : Ends (Attempts.ofList fs).message f.message := by
  cases f <;> cases h <;> exact Text.ends_append _ _

theorem ends_leaderUnreachable (leaderId : UInt64) (node : String) (f : Failure) :
    Ends f.message (leaderUnreachable leaderId node f).message := Text.ends_append _ _

/-- What is come to from a failure by the failures of its attempts, and by the reasons why a leader
could not be reached. -/
inductive Reaches (root : Failure) : Failure → Prop
  | self : Reaches root root
  | cause {f g : Failure} {fs : List Failure} (h : Reaches root f) (hc : f.causes = some fs)
      (hg : g ∈ fs) : Reaches root g
  | source {g : Failure} {leaderId node} (h : Reaches root (.leaderUnreachable leaderId node g)) :
      Reaches root g

theorem Reaches.occurs (h : Reaches root f) : Occurs f.message root.message := by
  induction h with
  | self => exact .refl _
  | cause _ hc hg ih =>
    have hsum := (summed_iff.2 rfl).occurs hg
    exact (hsum.trans (ends_of_causes hc).occurs).trans ih
  | source _ ih => exact (ends_leaderUnreachable _ _ _).occurs.trans ih

/-- A failure within layers of leaders that could not be reached, the outermost first. -/
def wrapped (f : Failure) : List (UInt64 × String) → Failure
  | [] => f
  | (leaderId, node) :: layers => leaderUnreachable leaderId node (f.wrapped layers)

/-- Each layer but the outermost has its message in the chain, and what is beneath comes after. -/
theorem sources_wrapped (f : Failure) (layers : List (UInt64 × String)) :
    (f.wrapped layers).sources =
      layers.tails.tail.map (fun rest => (f.wrapped rest).message) ++ f.sources := by
  induction layers with
  | nil => simp [wrapped]
  | cons layer layers ih =>
    have htails : layers.tails = layers :: layers.tails.tail := by cases layers <;> rfl
    have hsources : (f.wrapped (layer :: layers)).sources =
        (f.wrapped layers).message :: (f.wrapped layers).sources := rfl
    rw [hsources, ih, List.tails_cons, List.tail_cons, htails, List.map_cons, List.cons_append]
    rfl

theorem sources_of_causes (h : f.causes = some fs) : f.sources = [] := by
  cases f <;> cases h <;> rfl

/-- A failure ends with the message of the failure that it is due to, or with what its attempts come
to together: all of their messages, in their order. So nothing that was said at any depth is missing
from its message. Its chain goes down to where several attempts meet. And it makes no difference
whether failures are recorded one by one or all at once. -/
theorem messages_nested :
    (∀ leaderId node f, Ends f.message (leaderUnreachable leaderId node f).message) ∧
    (∀ (f : Failure) fs, f.causes = some fs → Ends (Attempts.ofList fs).message f.message) ∧
    (∀ fs text, Summed fs text ↔ (Attempts.ofList fs).message = text) ∧
    (∀ root f, Reaches root f → Occurs f.message root.message) ∧
    (∀ leaderId node f, (leaderUnreachable leaderId node f).sources = f.message :: f.sources) ∧
    (∀ f layers, (wrapped f layers).sources =
      layers.tails.tail.map (fun rest => (f.wrapped rest).message) ++ f.sources) ∧
    (∀ (f : Failure) fs, f.causes = some fs → f.sources = []) ∧
    ∀ l : List Failure,
      let recorded := l.foldl Attempts.record {}
      recorded.size = (Attempts.ofList l).size ∧ recorded.failures = (Attempts.ofList l).failures ∧
        recorded.message = (Attempts.ofList l).message := by
  refine ⟨ends_leaderUnreachable, fun _ _ => ends_of_causes, fun _ _ => summed_iff,
    fun _ _ => Reaches.occurs, fun _ _ _ => rfl, sources_wrapped, fun _ _ => sources_of_causes, ?_⟩
  intro l recorded
  have hl : recorded.failures = l := Attempts.failures_foldl_record l {}
  exact ⟨congrArg List.length hl, hl, congrArg (fun fs => summary (messages fs)) hl⟩

/-- Attempts within a leader out of reach within attempts. -/
theorem messages_nested_deep :
    let refused : Failure := .connection "c" "etcd-c" ⟨"dial", ["refused"]⟩
    let inner : Failure := .noAvailableNode [.noProxyPod "b", refused]
    let root : Failure := .noReachableLeader [.leaderUnreachable 0x1f "a" inner, .noPods]
    root.Reaches refused ∧ Occurs refused.message root.message ∧
      Ends (Attempts.ofList [.noProxyPod "b", refused]).message inner.message ∧
      (wrapped inner [(1, "a"), (2, "b")]).sources =
        [(wrapped inner [(2, "b")]).message, inner.message] ∧
      inner.sources = [] := by
  intro refused inner root
  obtain ⟨-, hends, -, hoccurs, -, hwrapped, hnone, -⟩ := messages_nested
  have houter : root.Reaches (.leaderUnreachable 0x1f "a" inner) :=
    .cause .self rfl List.mem_cons_self
  have hreach : root.Reaches refused := .cause houter.source rfl (by simp)
  exact ⟨hreach, hoccurs root refused hreach, hends inner _ rfl, hwrapped inner _,
    hnone inner _ rfl⟩

end Failure

end EtcdLocator
