import Mathlib.Logic.Basic

/-! Guarded machines and their runs: reachable states, facts about every step of a run, and
simulation of one machine by another. -/

namespace Transition
variable {S A T B : Type}

/-- A machine takes any action its guard allows; a step is a function of state and action. -/
structure Machine (S A : Type) where
  Init : S → Prop
  Enabled : S → A → Prop
  step : S → A → S

namespace Machine

def run (M : Machine S A) : S → List A → S
  | s, [] => s
  | s, a :: as => M.run (M.step s a) as

/-- `P` holds of the state and the action at every step of the run. -/
def EveryStep (M : Machine S A) (P : S → A → Prop) : S → List A → Prop
  | _, [] => True
  | s, a :: as => P s a ∧ M.EveryStep P (M.step s a) as

instance decidableEveryStep (M : Machine S A) (P : S → A → Prop) [∀ s a, Decidable (P s a)] :
    ∀ s as, Decidable (M.EveryStep P s as)
  | _, [] => isTrue trivial
  | s, a :: as =>
    have := decidableEveryStep M P (M.step s a) as
    inferInstanceAs (Decidable (P s a ∧ M.EveryStep P (M.step s a) as))

def IsRun (M : Machine S A) : S → List A → Prop := M.EveryStep M.Enabled

instance (M : Machine S A) [∀ s a, Decidable (M.Enabled s a)] (s : S) (as : List A) :
    Decidable (M.IsRun s as) := decidableEveryStep M M.Enabled s as

inductive Reachable (M : Machine S A) : S → Prop where
  | init {s : S} : M.Init s → M.Reachable s
  | step {s : S} {a : A} : M.Reachable s → M.Enabled s a → M.Reachable (M.step s a)

/-- The machine with requests besides its actions that leave the state as it is. -/
def withQueries (M : Machine S A) (Q : Type) : Machine S (A ⊕ Q) where
  Init := M.Init
  Enabled s := Sum.elim (M.Enabled s) fun _ => True
  step s := Sum.elim (M.step s) fun _ => s

variable {M : Machine S A}

theorem run_append (s : S) (as bs : List A) : M.run s (as ++ bs) = M.run (M.run s as) bs := by
  induction as generalizing s with
  | nil => rfl
  | cons a as ih => exact ih (M.step s a)

theorem everyStep_append {P : S → A → Prop} (s : S) (as bs : List A) :
    M.EveryStep P s (as ++ bs) ↔ M.EveryStep P s as ∧ M.EveryStep P (M.run s as) bs := by
  induction as generalizing s with
  | nil => simp [EveryStep, run]
  | cons a as ih => simp only [List.cons_append, EveryStep, ih (M.step s a), run, and_assoc]

theorem EveryStep.imp_of_good {Good : S → Prop} {P Q : S → A → Prop}
    (h : ∀ s a, Good s → Q s a → P s a ∧ Good (M.step s a)) {s : S} (hg : Good s) {as : List A}
    (hq : M.EveryStep Q s as) : M.EveryStep P s as := by
  induction as generalizing s with
  | nil => trivial
  | cons a as ih =>
    obtain ⟨hp, hg'⟩ := h s a hg hq.1
    exact ⟨hp, ih hg' hq.2⟩

theorem everyStep_const_iff {Q : A → Prop} {s : S} {as : List A} :
    M.EveryStep (fun _ a => Q a) s as ↔ ∀ a ∈ as, Q a := by
  induction as generalizing s with
  | nil => simp [EveryStep]
  | cons a as ih => simp only [EveryStep, ih, List.forall_mem_cons]

theorem Reachable.run {s : S} (hs : M.Reachable s) {as : List A} (h : M.IsRun s as) :
    M.Reachable (M.run s as) := by
  induction as generalizing s with
  | nil => exact hs
  | cons a as ih => exact ih (hs.step h.1) h.2

/-! ## Invariants -/

def Preserves (M : Machine S A) (I : S → Prop) : Prop :=
  ∀ s a, I s → M.Enabled s a → I (M.step s a)

theorem Reachable.invariant {I : S → Prop} (h₀ : ∀ s, M.Init s → I s) (hI : M.Preserves I)
    {s : S} (h : M.Reachable s) : I s := by
  induction h with
  | init h => exact h₀ _ h
  | step _ he ih => exact hI _ _ ih he

theorem Preserves.run {I : S → Prop} (hI : M.Preserves I) {s : S} (hs : I s) {as : List A}
    (h : M.IsRun s as) : I (M.run s as) := by
  induction as generalizing s with
  | nil => exact hs
  | cons a as ih => exact ih (hI _ _ hs h.1) h.2

theorem Preserves.everyStep_congr {I : S → Prop} {P Q : S → A → Prop} (hI : M.Preserves I)
    (hPQ : ∀ s a, I s → M.Enabled s a → (P s a ↔ Q s a)) {s : S} (hs : I s) {as : List A}
    (h : M.IsRun s as) : M.EveryStep P s as ↔ M.EveryStep Q s as := by
  induction as generalizing s with
  | nil => exact Iff.rfl
  | cons a as ih => exact and_congr (hPQ _ _ hs h.1) (ih (hI _ _ hs h.1) h.2)

/-- Two step properties that agree in good states hold throughout the same runs, when each of
them leads from good states to good states. -/
theorem Preserves.everyStep_congr_of_good {I Good : S → Prop} {P Q : S → A → Prop}
    (hI : M.Preserves I) (hPQ : ∀ s a, I s → Good s → M.Enabled s a → (P s a ↔ Q s a))
    (hgood : ∀ s a, I s → Good s → M.Enabled s a → P s a → Good (M.step s a)) {s : S} (hs : I s)
    (hg : Good s) {as : List A} (h : M.IsRun s as) : M.EveryStep P s as ↔ M.EveryStep Q s as := by
  induction as generalizing s with
  | nil => exact Iff.rfl
  | cons a as ih =>
    have hrest : P s a → (M.EveryStep P (M.step s a) as ↔ M.EveryStep Q (M.step s a) as) :=
      fun hp => ih (hI _ _ hs h.1) (hgood _ _ hs hg h.1 hp) h.2
    exact (and_congr_right hrest).trans (and_congr_left' (hPQ _ _ hs hg h.1))

/-! ## Simulation -/

/-- Related states stay related when both machines take corresponding actions. -/
def Simulates (M : Machine S A) (N : Machine T B) (act : A → B) (R : S → T → Prop) : Prop :=
  ∀ s t a, R s t → M.Enabled s a → R (M.step s a) (N.step t (act a))

theorem Simulates.run {N : Machine T B} {act : A → B} {R : S → T → Prop}
    (hR : M.Simulates N act R) {s : S} {t : T} (h : R s t) {as : List A} (hr : M.IsRun s as) :
    R (M.run s as) (N.run t (as.map act)) := by
  induction as generalizing s t with
  | nil => exact h
  | cons a as ih => exact ih (hR _ _ _ h hr.1) hr.2

end Machine
end Transition
