import Mathlib.Data.List.Induction

/-!
# Event machines and their runs

A `Machine` has an initial state, a total step function and a predicate that says which events
the environment can deliver in a state. A history is a list of events in the order in which they
happen; `run` is the state after it, and `Admits` says that each of its events could be delivered
where it was.

* `Machine.history_induction`: what holds initially and is kept by each enabled event holds after
  every history. The statement may speak of the history itself, so it also relates the state to a
  specification that reads the events.
* `Machine.invariant`: the same for a property of the state alone.
* `Machine.always_iff_along`: the exact condition of a safety property. When each event that meets
  a condition keeps an invariant, and each other event breaks the property at once, the property
  always holds exactly along the histories whose events all meet the condition.
* `Machine.CanReach`: some events lead to a state with a property. It is shown one event at a time
  (`CanReach.next`), and refuted by a property that every event keeps (`not_canReach`).
-/

/-- A deterministic machine driven by events. -/
structure Machine (σ ε : Type) where
  init : σ
  step : σ → ε → σ
  enabled : σ → ε → Prop

namespace Machine

variable {σ ε : Type} (M : Machine σ ε)

/-- The state after the events `h`, from the state `s`. -/
def exec (s : σ) (h : List ε) : σ := h.foldl M.step s

/-- The state after the history `h`. -/
def run (h : List ε) : σ := M.exec M.init h

/-- Each of the events `h` is enabled where it happens, from the state `s`. -/
def AdmitsFrom : σ → List ε → Prop
  | _, [] => True
  | s, e :: h => M.enabled s e ∧ AdmitsFrom (M.step s e) h

/-- Each event of the history `h` is enabled where it happens. -/
def Admits (h : List ε) : Prop := M.AdmitsFrom M.init h

/-- `P` holds after every initial part of the history `h`. -/
def Always (P : σ → Prop) (h : List ε) : Prop := ∀ h', h' <+: h → P (M.run h')

/-- `C` holds of each event of the history `h` and the events before it. -/
def Along (C : List ε → ε → Prop) (h : List ε) : Prop := ∀ h' e, h' ++ [e] <+: h → C h' e

variable {M}

@[simp] theorem run_nil : M.run [] = M.init := rfl

@[simp] theorem run_snoc (h : List ε) (e : ε) : M.run (h ++ [e]) = M.step (M.run h) e := by
  simp [run, exec]

theorem admitsFrom_append (s : σ) (h h' : List ε) :
    M.AdmitsFrom s (h ++ h') ↔ M.AdmitsFrom s h ∧ M.AdmitsFrom (M.exec s h) h' := by
  induction h generalizing s with
  | nil => simp [AdmitsFrom, exec]
  | cons e h ih => simp [AdmitsFrom, ih, exec, and_assoc]

instance decidableAdmitsFrom [∀ s e, Decidable (M.enabled s e)] :
    ∀ (s : σ) (h : List ε), Decidable (M.AdmitsFrom s h)
  | _, [] => isTrue trivial
  | s, e :: h =>
    have := decidableAdmitsFrom (M.step s e) h
    inferInstanceAs (Decidable (M.enabled s e ∧ M.AdmitsFrom (M.step s e) h))

instance [∀ s e, Decidable (M.enabled s e)] (h : List ε) : Decidable (M.Admits h) :=
  decidableAdmitsFrom M.init h

@[simp] theorem admits_nil : M.Admits [] := trivial

@[simp] theorem admits_snoc (h : List ε) (e : ε) :
    M.Admits (h ++ [e]) ↔ M.Admits h ∧ M.enabled (M.run h) e := by
  simp [Admits, admitsFrom_append, AdmitsFrom, run]

theorem admits_append (h h' : List ε) :
    M.Admits (h ++ h') ↔ M.Admits h ∧ M.AdmitsFrom (M.run h) h' :=
  admitsFrom_append M.init h h'

/-- A machine that can always be given every event admits every history. -/
theorem admits_of_total (he : ∀ s e, M.enabled s e) (h : List ε) : M.Admits h := by
  induction h using List.reverseRecOn with
  | nil => exact admits_nil
  | append_singleton h e ih => exact (admits_snoc h e).mpr ⟨ih, he _ _⟩

/-- **Induction over histories.** -/
theorem history_induction {I : List ε → σ → Prop} (hinit : I [] M.init)
    (hstep : ∀ h e, M.Admits h → I h (M.run h) → M.enabled (M.run h) e →
      I (h ++ [e]) (M.step (M.run h) e)) :
    ∀ h, M.Admits h → I h (M.run h) := by
  intro h
  induction h using List.reverseRecOn with
  | nil => intro _; exact hinit
  | append_singleton h e ih =>
    intro ha
    obtain ⟨hh, he⟩ := (admits_snoc h e).mp ha
    rw [run_snoc]
    exact hstep h e hh (ih hh) he

/-- A property that holds initially and that every enabled event keeps holds after every
history. -/
theorem invariant {I : σ → Prop} (hinit : I M.init)
    (hstep : ∀ s e, I s → M.enabled s e → I (M.step s e)) :
    ∀ h, M.Admits h → I (M.run h) :=
  history_induction (I := fun _ s => I s) hinit fun h e _ hi he => hstep (M.run h) e hi he

theorem always_nil {P : σ → Prop} : M.Always P [] ↔ P M.init := by
  simp [Always]

theorem always_snoc {P : σ → Prop} {h : List ε} {e : ε} :
    M.Always P (h ++ [e]) ↔ M.Always P h ∧ P (M.step (M.run h) e) := by
  constructor
  · intro ha
    refine ⟨fun h' hp => ha h' (hp.trans (List.prefix_append _ _)), ?_⟩
    rw [← run_snoc]
    exact ha _ List.prefix_rfl
  · rintro ⟨ha, he⟩ h' hp
    rcases List.prefix_concat_iff.mp hp with rfl | hp
    · rw [run_snoc]; exact he
    · exact ha h' hp

theorem along_nil {C : List ε → ε → Prop} : Along C [] := by
  intro h' e hp
  simp at hp

theorem along_snoc {C : List ε → ε → Prop} {h : List ε} {e : ε} :
    Along C (h ++ [e]) ↔ Along C h ∧ C h e := by
  constructor
  · intro hc
    exact ⟨fun h' e' hp => hc h' e' (hp.trans (List.prefix_append _ _)), hc h e List.prefix_rfl⟩
  · rintro ⟨hc, he⟩ h' e' hp
    rcases List.prefix_concat_iff.mp hp with heq | hp
    · obtain ⟨rfl, hs⟩ := List.append_inj' heq rfl
      obtain rfl := List.singleton_inj.mp hs
      exact he
    · exact hc h' e' hp

/-- **The exact condition of a safety property.** -/
theorem always_iff_along {I : List ε → σ → Prop} {P : σ → Prop} {C : List ε → ε → Prop}
    (hinit : I [] M.init) (hsafe : ∀ h s, I h s → P s)
    (hgood : ∀ h e, I h (M.run h) → M.enabled (M.run h) e → C h e →
      I (h ++ [e]) (M.step (M.run h) e))
    (hbad : ∀ h e, I h (M.run h) → M.enabled (M.run h) e → ¬ C h e → ¬ P (M.step (M.run h) e)) :
    ∀ h, M.Admits h → (M.Always P h ↔ Along C h) := by
  -- the invariant holds as long as the condition does
  have hkeep : ∀ h, M.Admits h → Along C h → I h (M.run h) := by
    intro h ha
    induction h using List.reverseRecOn with
    | nil => intro _; exact hinit
    | append_singleton h e ih =>
      intro hc
      obtain ⟨ha, he⟩ := (admits_snoc h e).mp ha
      obtain ⟨hc, hce⟩ := along_snoc.mp hc
      rw [run_snoc]
      exact hgood h e (ih ha hc) he hce
  intro h ha
  induction h using List.reverseRecOn with
  | nil => exact ⟨fun _ => along_nil, fun _ => always_nil.mpr (hsafe _ _ hinit)⟩
  | append_singleton h e ih =>
    obtain ⟨ha', he⟩ := (admits_snoc h e).mp ha
    constructor
    · intro hp
      obtain ⟨hp, hpe⟩ := always_snoc.mp hp
      have hc := (ih ha').mp hp
      refine along_snoc.mpr ⟨hc, ?_⟩
      by_contra hce
      exact hbad h e (hkeep h ha' hc) he hce hpe
    · intro hc
      refine always_snoc.mpr ⟨(ih ha').mpr (along_snoc.mp hc).1, ?_⟩
      rw [← run_snoc]
      exact hsafe _ _ (hkeep _ ha hc)

/-! ## What can be reached -/

variable (M) in
/-- Some events that are enabled where they happen lead from the state `s` to one with `P`. -/
def CanReach (P : σ → Prop) (s : σ) : Prop := ∃ h, M.AdmitsFrom s h ∧ P (M.exec s h)

theorem CanReach.here {P : σ → Prop} {s : σ} (hp : P s) : M.CanReach P s := ⟨[], trivial, hp⟩

theorem CanReach.next {P : σ → Prop} {s : σ} (e : ε) (he : M.enabled s e)
    (h : M.CanReach P (M.step s e)) : M.CanReach P s := by
  obtain ⟨h, ha, hp⟩ := h
  exact ⟨e :: h, ⟨he, ha⟩, hp⟩

/-- What every event keeps, and excludes `P`, keeps `P` out of reach. -/
theorem not_canReach {P Q : σ → Prop} (hkeep : ∀ s e, Q s → M.enabled s e → Q (M.step s e))
    (hnot : ∀ s, Q s → ¬ P s) {s : σ} (hs : Q s) : ¬ M.CanReach P s := by
  rintro ⟨h, ha, hp⟩
  induction h generalizing s with
  | nil => exact hnot s hs hp
  | cons e h ih => exact ih (hkeep s e hs ha.1) ha.2 hp

end Machine
