import Mathlib.Control.Monad.Basic

namespace EtcdLocator

section Bind

variable {ε α β : Type} {x : Except ε α}

theorem bind_eq_ok_iff {f : α → Except ε β} {b : β} :
    x >>= f = .ok b ↔ ∃ a, x = .ok a ∧ f a = .ok b := by
  constructor
  · intro h
    cases x with
    | error e => cases h
    | ok a => exact ⟨a, rfl, h⟩
  · rintro ⟨a, rfl, h⟩
    exact h

theorem bind_eq_error_iff {f : α → Except ε β} {e : ε} :
    x >>= f = .error e ↔ x = .error e ∨ ∃ a, x = .ok a ∧ f a = .error e := by
  constructor
  · intro h
    cases x with
    | error _ =>
      cases h
      exact .inl rfl
    | ok a => exact .inr ⟨a, rfl, h⟩
  · rintro (rfl | ⟨a, rfl, h⟩)
    · rfl
    · exact h

theorem map_eq_ok_iff {f : α → β} {b : β} : x.map f = .ok b ↔ ∃ a, x = .ok a ∧ f a = b := by
  cases x <;> simp [Except.map]

theorem map_eq_error_iff {f : α → β} {e : ε} : x.map f = .error e ↔ x = .error e := by
  cases x <;> simp [Except.map]

theorem mapError_eq_ok_iff {δ : Type} {f : ε → δ} {a : α} : x.mapError f = .ok a ↔ x = .ok a := by
  cases x <;> simp [Except.mapError]

theorem mapError_eq_error_iff {δ : Type} {f : ε → δ} {d : δ} :
    x.mapError f = .error d ↔ ∃ e, x = .error e ∧ f e = d := by
  cases x <;> simp [Except.mapError]

end Bind

/-- How the first of the stages to fail does so. -/
inductive First {σ ε : Type} (fails : σ → ε → Prop) : List σ → ε → Prop
  | here {stage stages e} (h : fails stage e) : First fails (stage :: stages) e
  | there {stage stages e} (hs : ∀ e, ¬fails stage e) (h : First fails stages e) :
      First fails (stage :: stages) e

variable {σ ε α β : Type} {fails : σ → ε → Prop} {stage : σ} {stages later : List σ} {e : ε}

theorem exists_first (hs : stage ∈ stages) (h : fails stage e) : ∃ e, First fails stages e := by
  induction stages with
  | nil => cases hs
  | cons s stages ih =>
    by_cases hf : ∃ e, fails s e
    · obtain ⟨e, he⟩ := hf
      exact ⟨e, .here he⟩
    · rcases List.mem_cons.1 hs with rfl | hs
      · exact absurd ⟨e, h⟩ hf
      · obtain ⟨e, he⟩ := ih hs
        exact ⟨e, .there (fun e he => hf ⟨e, he⟩) he⟩

theorem First.exists_mem (h : First fails stages e) : ∃ stage ∈ stages, fails stage e := by
  induction h with
  | here h => exact ⟨_, List.mem_cons_self, h⟩
  | there _ _ ih =>
    obtain ⟨stage, hs, h⟩ := ih
    exact ⟨stage, List.mem_cons_of_mem _ hs, h⟩

theorem first_append_iff :
    First fails (stages ++ later) e ↔
      First fails stages e ∨ (∀ stage ∈ stages, ∀ e, ¬fails stage e) ∧ First fails later e := by
  induction stages with
  | nil =>
    simp only [List.nil_append, List.not_mem_nil, false_implies, implies_true, true_and]
    exact ⟨.inr, fun h => h.resolve_left nofun⟩
  | cons s stages ih =>
    rw [List.cons_append]
    constructor
    · rintro (h | ⟨hs, h⟩)
      · exact .inl (.here h)
      · rcases ih.1 h with h | ⟨hall, h⟩
        · exact .inl (.there hs h)
        · exact .inr ⟨List.forall_mem_cons.2 ⟨hs, hall⟩, h⟩
    · rintro ((h | ⟨hs, h⟩) | ⟨hall, h⟩)
      · exact .here h
      · exact .there hs (ih.2 (.inl h))
      · obtain ⟨hs, hall⟩ := List.forall_mem_cons.1 hall
        exact .there hs (ih.2 (.inr ⟨hall, h⟩))

theorem first_map_iff {δ : Type} {fails' : σ → δ → Prop} {g : ε → δ}
    (h : ∀ stage ∈ stages, ∀ d, fails' stage d ↔ ∃ e, fails stage e ∧ g e = d) {d : δ} :
    First fails' stages d ↔ ∃ e, First fails stages e ∧ g e = d := by
  induction stages with
  | nil => exact ⟨nofun, nofun⟩
  | cons s stages ih =>
    obtain ⟨hs, hrest⟩ := List.forall_mem_cons.1 h
    constructor
    · rintro (hf | ⟨hno, hf⟩)
      · obtain ⟨e, he, rfl⟩ := (hs d).1 hf
        exact ⟨e, .here he, rfl⟩
      · obtain ⟨e, he, rfl⟩ := (ih hrest).1 hf
        exact ⟨e, .there (fun e he => hno _ ((hs _).2 ⟨e, he, rfl⟩)) he, rfl⟩
    · rintro ⟨e, hf | ⟨hno, hf⟩, rfl⟩
      · exact .here ((hs _).2 ⟨e, hf, rfl⟩)
      · refine .there (fun d hd => ?_) ((ih hrest).2 ⟨e, hf, rfl⟩)
        obtain ⟨e, he, -⟩ := (hs d).1 hd
        exact hno e he

/-- Going through the stages comes to this: an error is that of the first stage to fail. -/
def Goes (fails : σ → ε → Prop) (stages : List σ) (x : Except ε α) : Prop :=
  ∀ e, x = .error e ↔ First fails stages e

namespace Goes

variable {x : Except ε α} {f : α → Except ε β}

theorem single (h : ∀ e, x = .error e ↔ fails stage e) : Goes fails [stage] x := by
  intro e
  rw [h e]
  constructor
  · exact .here
  · rintro (h | ⟨-, ⟨⟩⟩)
    exact h

theorem not_fails {a : α} (h : Goes fails stages x) (hx : x = .ok a) :
    ∀ stage ∈ stages, ∀ e, ¬fails stage e := by
  intro stage hs e hf
  obtain ⟨e, hf⟩ := exists_first hs hf
  cases hx.symm.trans ((h e).2 hf)

/-- The later stages are only gone through with what the earlier ones came to. -/
theorem bind (hx : Goes fails stages x) (hf : ∀ a, x = .ok a → Goes fails later (f a)) :
    Goes fails (stages ++ later) (x >>= f) := by
  intro e
  rw [bind_eq_error_iff, first_append_iff, hx e]
  refine or_congr_right ⟨?_, ?_⟩
  · rintro ⟨a, ha, h⟩
    exact ⟨hx.not_fails ha, (hf a ha e).1 h⟩
  · rintro ⟨hall, h⟩
    -- where no earlier stage fails, there is a result to go on with
    cases x with
    | error e' =>
      obtain ⟨stage, hs, hfails⟩ := ((hx e').1 rfl).exists_mem
      exact absurd hfails (hall stage hs e')
    | ok a => exact ⟨a, rfl, (hf a rfl e).2 h⟩

/-- Giving a result is no stage. -/
theorem map (hx : Goes fails stages x) (g : α → β) :
    Goes fails stages (x >>= fun a => .ok (g a)) := by
  intro e
  rw [← hx e, bind_eq_error_iff]
  exact or_iff_left nofun

theorem mapError {δ : Type} {fails' : σ → δ → Prop} {g : ε → δ} (hx : Goes fails stages x)
    (h : ∀ stage ∈ stages, ∀ d, fails' stage d ↔ ∃ e, fails stage e ∧ g e = d) :
    Goes fails' stages (x.mapError g) := by
  intro d
  rw [mapError_eq_error_iff, first_map_iff h]
  exact exists_congr fun e => and_congr_left' (hx e)

end Goes

end EtcdLocator
