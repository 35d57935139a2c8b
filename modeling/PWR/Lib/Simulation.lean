import PWR.Lib.Machine

/-!
# Simulations between machines

An event of one machine may stand for several events of another one, or for none. `translate` says
which events of the second machine a history of the first amounts to.

* `Machine.simulation`: a relation that holds initially, and that each event of the first machine
  keeps with the events it stands for, holds after every history. The two runs are at hand in the
  step, so that invariants of either machine can be used there.
* `Machine.map_run`: the special case of a function that commutes with the steps. It needs no
  enabled events.
-/

namespace Machine

variable {σ τ ε δ : Type} (M : Machine σ ε)

/-- The events that the events `h` stand for, from the state `s`. -/
def translateFrom (f : σ → ε → List δ) : σ → List ε → List δ
  | _, [] => []
  | s, e :: h => f s e ++ translateFrom f (M.step s e) h

/-- The events that the history `h` stands for, if the event `e` in the state `s` stands for
`f s e`. -/
def translate (f : σ → ε → List δ) (h : List ε) : List δ := M.translateFrom f M.init h

variable {M} {N : Machine τ δ} {f : σ → ε → List δ}

theorem translateFrom_append (s : σ) (h h' : List ε) :
    M.translateFrom f s (h ++ h') = M.translateFrom f s h ++ M.translateFrom f (M.exec s h) h' := by
  induction h generalizing s with
  | nil => rfl
  | cons e h ih =>
    simp only [List.cons_append, translateFrom, ih, List.append_assoc]
    rfl

@[simp] theorem translate_nil : M.translate f [] = [] := rfl

@[simp] theorem translate_snoc (h : List ε) (e : ε) :
    M.translate f (h ++ [e]) = M.translate f h ++ f (M.run h) e := by
  unfold translate
  rw [translateFrom_append]
  simp [translateFrom, run]

/-- Events that stand for the same in every state are translated one by one. -/
theorem translate_const (f : ε → List δ) (h : List ε) :
    M.translate (fun _ => f) h = h.flatMap f := by
  induction h using List.reverseRecOn with
  | nil => rfl
  | append_singleton h e ih => simp [ih]

theorem run_append (h h' : List δ) : N.run (h ++ h') = N.exec (N.run h) h' := by
  simp [run, exec]

/-- **Simulation.** -/
theorem simulation {R : σ → τ → Prop} (hinit : R M.init N.init)
    (hstep : ∀ h h' e, M.Admits h → N.Admits h' → R (M.run h) (N.run h') → M.enabled (M.run h) e →
      N.AdmitsFrom (N.run h') (f (M.run h) e) ∧
        R (M.step (M.run h) e) (N.exec (N.run h') (f (M.run h) e))) :
    ∀ h, M.Admits h → N.Admits (M.translate f h) ∧ R (M.run h) (N.run (M.translate f h)) := by
  refine history_induction (I := fun h s => N.Admits (M.translate f h) ∧
    R s (N.run (M.translate f h))) ⟨admits_nil, hinit⟩ ?_
  rintro h e ha ⟨ha', hr⟩ he
  obtain ⟨hf, hr'⟩ := hstep h _ e ha ha' hr he
  rw [translate_snoc, run_append, admits_append]
  exact ⟨⟨ha', hf⟩, hr'⟩

/-- **A function that commutes with the steps.** -/
theorem map_run {N : Machine τ ε} {f : σ → τ} (hinit : f M.init = N.init)
    (hstep : ∀ s e, f (M.step s e) = N.step (f s) e) (h : List ε) : f (M.run h) = N.run h := by
  induction h using List.reverseRecOn with
  | nil => exact hinit
  | append_singleton h e ih => rw [run_snoc, run_snoc, hstep, ih]

end Machine
