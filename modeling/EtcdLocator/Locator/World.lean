import EtcdLocator.Member
import EtcdLocator.PodMap

namespace EtcdLocator

/-- A cluster with states `σ` and connections `κ`. Any call may change its state, and so the
answers to later calls. -/
structure Backend (σ κ : Type) where
  list : σ → PodMap.Listing × σ
  /-- Connects to the member behind a pod. -/
  dial : String → σ → Except Cause κ × σ
  members : κ → σ → Except Cause (List Member) × σ
  /-- Gives up a connection. -/
  release : κ → σ → σ
  /-- The pod that a connection goes through. -/
  endpoint : κ → String
  /-- The leader that the member named when it was dialled. -/
  leaderId : κ → UInt64

inductive Event (κ : Type) where
  | listed (answer : PodMap.Listing)
  /-- A dial that failed. -/
  | refused (pod : String) (cause : Cause)
  | opened (pod : String) (connection : κ)
  | asked (connection : κ) (answer : Except Cause (List Member))
  | closed (connection : κ)
  /-- Given up without being closed. -/
  | dropped (connection : κ)
deriving Repr

namespace Event

variable {κ : Type}

def isListed : Event κ → Bool
  | listed _ => true
  | _ => false

def isOpened : Event κ → Bool
  | opened .. => true
  | _ => false

def isClosed : Event κ → Bool
  | closed _ => true
  | _ => false

def isDropped : Event κ → Bool
  | dropped _ => true
  | _ => false

def dialled? : Event κ → Option String
  | refused pod _ | opened pod _ => some pod
  | _ => none

end Event

/-- A cluster and all calls to it so far, the first one first. -/
structure World (σ κ : Type) where
  state : σ
  events : List (Event κ) := []

namespace World

variable {σ κ : Type} (b : Backend σ κ)

def list (w : World σ κ) : PodMap.Listing × World σ κ :=
  let (listing, state) := b.list w.state
  (listing, ⟨state, w.events ++ [.listed listing]⟩)

def dial (pod : String) (w : World σ κ) : Except Cause κ × World σ κ :=
  match b.dial pod w.state with
  | (.ok c, state) => (.ok c, ⟨state, w.events ++ [.opened pod c]⟩)
  | (.error cause, state) => (.error cause, ⟨state, w.events ++ [.refused pod cause]⟩)

def members (c : κ) (w : World σ κ) : Except Cause (List Member) × World σ κ :=
  let (answer, state) := b.members c w.state
  (answer, ⟨state, w.events ++ [.asked c answer]⟩)

def close (c : κ) (w : World σ κ) : World σ κ := ⟨b.release c w.state, w.events ++ [.closed c]⟩

def drop (c : κ) (w : World σ κ) : World σ κ := ⟨b.release c w.state, w.events ++ [.dropped c]⟩

theorem dial_fst (pod : String) (w : World σ κ) : (w.dial b pod).1 = (b.dial pod w.state).1 := by
  unfold dial
  split <;> rename_i h <;> rw [h]

theorem state_dial (pod : String) (w : World σ κ) :
    (w.dial b pod).2.state = (b.dial pod w.state).2 := by
  unfold dial
  split <;> rename_i h <;> rw [h]

@[simp] theorem events_list (w : World σ κ) :
    (w.list b).2.events = w.events ++ [.listed (w.list b).1] := rfl

theorem events_dial (pod : String) (w : World σ κ) :
    (w.dial b pod).2.events = w.events ++ [match (w.dial b pod).1 with
      | .ok c => .opened pod c
      | .error cause => .refused pod cause] := by
  unfold dial
  split <;> rfl

@[simp] theorem events_members (c : κ) (w : World σ κ) :
    (w.members b c).2.events = w.events ++ [.asked c (w.members b c).1] := rfl

@[simp] theorem events_close (c : κ) (w : World σ κ) :
    (w.close b c).events = w.events ++ [.closed c] := rfl

@[simp] theorem events_drop (c : κ) (w : World σ κ) :
    (w.drop b c).events = w.events ++ [.dropped c] := rfl

end World

end EtcdLocator
