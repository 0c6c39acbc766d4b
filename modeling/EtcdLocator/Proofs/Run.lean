import EtcdLocator.Locator.Session

namespace EtcdLocator.Session

variable {σ κ : Type} (b : Backend σ κ)

structure Step (σ κ : Type) where
  before : Session σ κ
  operation : Operation σ
  after : Session σ κ

def request (s : Session σ κ) (o : Operation σ) : Step σ κ := ⟨s, o, (s.step b o).2⟩

def steps (s : Session σ κ) : List (Operation σ) → List (Step σ κ)
  | [] => []
  | o :: os => s.request b o :: steps (s.step b o).2 os

def final (s : Session σ κ) (os : List (Operation σ)) : Session σ κ :=
  os.foldl (fun s o => (s.step b o).2) s

/-- What each of the requests keeps holds after each of them. -/
theorem of_mem_run_of_mem {P : Session σ κ → Prop} {s : Session σ κ} (h : P s)
    {os : List (Operation σ)} (hstep : ∀ s, ∀ o ∈ os, P s → P (s.step b o).2)
    {r : Answer κ × Session σ κ} (hr : r ∈ s.run b os) : P r.2 := by
  induction os generalizing s with
  | nil => cases hr
  | cons o os ih =>
    have hs := hstep s o List.mem_cons_self h
    rcases List.mem_cons.1 hr with rfl | hr
    · exact hs
    · exact ih hs (fun s o ho => hstep s o (List.mem_cons_of_mem _ ho)) hr

theorem step_members (s : Session σ κ) (name : String) :
    (s.step b (.members name)).2 = match s.held? name with
      | none => s
      | some c => (s.ask b c).2 := by
  rw [step]
  cases s.held? name with
  | none => rfl
  | some c =>
    dsimp only
    rcases s.ask b c with ⟨_ | _, _⟩ <;> rfl

theorem step_report (s : Session σ κ) (name : String) (format : Report.Format) :
    (s.step b (.report name format)).2 = match s.held? name with
      | none => s
      | some c => { s.forget name with locator := (s.locator.inspect b c).2 } := by
  rw [step]
  cases s.held? name with
  | none => rfl
  | some c =>
    dsimp only
    rcases s.locator.inspect b c with ⟨_ | _, _⟩ <;> rfl

theorem step_close (s : Session σ κ) (name : String) :
    (s.step b (.close name)).2 = match s.held? name with
      | none => s
      | some c => (s.forget name).onWorld (·.close b c) := by
  rw [step]
  cases s.held? name <;> rfl

theorem step_drop (s : Session σ κ) (name : String) :
    (s.step b (.drop name)).2 = s.dropHeld b name := by
  rw [step, dropHeld]
  cases s.held? name <;> rfl

theorem step_ensure (s : Session σ κ) :
    s.step b .ensure = (match (s.locator.ensure b).1 with
      | .ok () => .done
      | .error f => .failed f, { s with locator := (s.locator.ensure b).2 }) := by
  rw [step]
  rcases s.locator.ensure b with ⟨_ | _, _⟩ <;> rfl

theorem step_proxyPods (s : Session σ κ) :
    s.step b .proxyPods = (match (s.locator.ensure b).1 with
      | .ok () => .pods (s.locator.ensure b).2.pods.entries
      | .error f => .failed f, { s with locator := (s.locator.ensure b).2 }) := by
  rw [step, Locator.proxyPods]
  rcases s.locator.ensure b with ⟨_ | _, _⟩ <;> rfl

theorem step_refresh (s : Session σ κ) :
    s.step b .refresh = (match (s.locator.refresh b).1 with
      | .ok () => .done
      | .error f => .failed f, { s with locator := (s.locator.refresh b).2 }) := by
  rw [step]
  rcases s.locator.refresh b with ⟨_ | _, _⟩ <;> rfl

theorem step_resolve (s : Session σ κ) (node : String) :
    (s.step b (.resolve node)).2 = s := by
  rw [step]
  cases s.locator.resolve node <;> rfl

theorem failed_cases {s : Session σ κ} {o : Operation σ} {f : Failure}
    (h : (s.step b o).1 = .failed f) :
    (∃ nodes, (s.locator.leader b nodes).1 = .error f) ∨
    (∃ nodes, (s.locator.firstAvailable b nodes).1 = .error f) ∨
    (s.locator.ensure b).1 = .error f ∨ (s.locator.refresh b).1 = .error f ∨
    ∃ node, s.locator.resolve node = .error f := by
  have of_settle {name : String} {r : Except Failure κ × Locator σ κ}
      (h : (s.settle b name r).1 = .failed f) : r.1 = .error f := by
    obtain ⟨_ | c, l⟩ := r <;> cases h
    rfl
  -- six kinds of request pass a failure on, and the answer of any other is never one
  cases o with
  | leader nodes name => exact .inl ⟨nodes, of_settle h⟩
  | firstAvailable nodes name => exact .inr (.inl ⟨nodes, of_settle h⟩)
  | ensure =>
    rw [step_ensure] at h
    cases he : (s.locator.ensure b).1 <;> rw [he] at h <;> cases h
    exact .inr (.inr (.inl rfl))
  | proxyPods =>
    rw [step_proxyPods] at h
    cases he : (s.locator.ensure b).1 <;> rw [he] at h <;> cases h
    exact .inr (.inr (.inl rfl))
  | refresh =>
    rw [step_refresh] at h
    cases he : (s.locator.refresh b).1 <;> rw [he] at h <;> cases h
    exact .inr (.inr (.inr (.inl rfl)))
  | resolve node =>
    rw [step] at h
    cases he : s.locator.resolve node <;> rw [he] at h <;> cases h
    exact .inr (.inr (.inr (.inr ⟨node, he⟩)))
  | members name | report name format =>
    rw [step] at h
    cases hc : s.held? name with
    | none =>
      rw [hc] at h
      cases h
    | some c =>
      rw [hc] at h
      dsimp only at h
      split at h <;> cases h
  | close name | drop name =>
    rw [step] at h
    cases hc : s.held? name <;> rw [hc] at h <;> cases h
  | invalidate | alter => cases h

end EtcdLocator.Session
