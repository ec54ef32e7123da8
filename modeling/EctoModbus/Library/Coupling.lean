import EctoModbus.Library.PyM

/-! Two Python calls run side by side. They are coupled if from related states they both return,
related values, or both raise the same exception, and leave related states. -/

namespace Python.PyM
variable {S T S' T' W W' α β γ δ : Type}

inductive Related (R : S → T → Prop) (V : α → β → Prop) :
    EStateM.Result PyException S α → EStateM.Result PyException T β → Prop
  | ok {a : α} {b : β} {s : S} {t : T} : V a b → R s t → Related R V (.ok a s) (.ok b t)
  | error {e : PyException} {s : S} {t : T} : R s t → Related R V (.error e s) (.error e t)

def Coupled (R : S → T → Prop) (V : α → β → Prop) (m : PyM S α) (n : PyM T β) : Prop :=
  ∀ s t, R s t → Related R V (m s) (n t)

variable {R : S → T → Prop} {R' : S' → T' → Prop} {V : α → β → Prop} {U : γ → δ → Prop}
  {m : PyM S α} {n : PyM T β}

theorem Coupled.after (h : Coupled R V m n) {s : S} {t : T} (hr : R s t) :
    R (m.after s) (n.after t) := by
  have hst := h s t hr
  unfold PyM.after
  generalize m s = x at hst ⊢
  generalize n t = y at hst ⊢
  rcases hst with ⟨_, hr'⟩ | hr'
  · exact hr'
  · exact hr'

theorem Coupled.outcome {n : PyM T α} (h : Coupled R Eq m n) {s : S} {t : T} (hr : R s t) :
    m.outcome s = n.outcome t := by
  have hst := h s t hr
  unfold PyM.outcome
  generalize m s = x at hst ⊢
  generalize n t = y at hst ⊢
  rcases hst with ⟨hv, _⟩ | _
  · rw [hv]
  · rfl

theorem Coupled.imp {V' : α → β → Prop} (h : Coupled R V m n) (hv : ∀ a b, V a b → V' a b) :
    Coupled R V' m n := by
  intro s t hr
  have hst := h s t hr
  generalize m s = x at hst ⊢
  generalize n t = y at hst ⊢
  rcases hst with ⟨hab, hr'⟩ | hr'
  · exact .ok (hv _ _ hab) hr'
  · exact .error hr'

/-! ## Rules -/

theorem coupled_pure {a : α} {b : β} (h : V a b) :
    Coupled R V (pure a : PyM S α) (pure b : PyM T β) := fun _ _ hr => .ok h hr

theorem coupled_modify {f : S → S} {g : T → T} (h : ∀ s t, R s t → R (f s) (g t)) :
    Coupled R Eq (modify f : PyM S PUnit) (modify g : PyM T PUnit) :=
  fun s t hr => .ok rfl (h s t hr)

theorem Coupled.bind (h : Coupled R V m n) {f : α → PyM S γ} {g : β → PyM T δ}
    (hf : ∀ a b, V a b → Coupled R U (f a) (g b)) : Coupled R U (m >>= f) (n >>= g) := by
  intro s t hr
  have hst := h s t hr
  cases hm : m s with
  | ok a s' =>
    cases hn : n t with
    | ok b t' =>
      rw [hm, hn] at hst
      rcases hst with ⟨hab, hr'⟩
      rw [bind_ok hm, bind_ok hn]
      exact hf a b hab s' t' hr'
    | error e t' =>
      rw [hm, hn] at hst
      rcases hst
  | error e s' =>
    cases hn : n t with
    | ok b t' =>
      rw [hm, hn] at hst
      rcases hst
    | error e' t' =>
      rw [hm, hn] at hst
      rcases hst with _ | hr'
      rw [bind_error hm, bind_error hn]
      exact .error hr'

theorem coupled_get_bind {f : S → PyM S γ} {g : T → PyM T δ}
    (h : ∀ s t, R s t → Related R U (f s s) (g t t)) :
    Coupled R U (get >>= f) (get >>= g) := fun s t hr => h s t hr

theorem coupled_foldlM {ι : Type} {f : α → ι → PyM S α} {g : β → ι → PyM T β}
    (h : ∀ a b i, V a b → Coupled R V (f a i) (g b i)) (l : List ι) {a : α} {b : β} (hab : V a b) :
    Coupled R V (l.foldlM f a) (l.foldlM g b) := by
  induction l generalizing a b with
  | nil => exact coupled_pure hab
  | cons i l ih =>
    rw [List.foldlM_cons, List.foldlM_cons]
    exact (h a b i hab).bind fun a' b' hab' => ih hab'

theorem Coupled.zoom {m : PyM S' α} {n : PyM T' β} (h : Coupled R' V m n) {part : S → S'}
    {put : S' → S → S} {part' : T → T'} {put' : T' → T → T}
    (hpart : ∀ s t, R s t → R' (part s) (part' t))
    (hput : ∀ s t x y, R s t → R' x y → R (put x s) (put' y t)) :
    Coupled R V (PyM.zoom part put m) (PyM.zoom part' put' n) := by
  intro s t hr
  have hst := h _ _ (hpart s t hr)
  unfold PyM.zoom
  generalize m (part s) = x at hst ⊢
  generalize n (part' t) = y at hst ⊢
  rcases hst with ⟨hab, hr'⟩ | hr'
  · exact .ok hab (hput _ _ _ _ hr hr')
  · exact .error (hput _ _ _ _ hr hr')

/-! ## Pairs of states -/

def Both (R : S → T → Prop) (R' : S' → T' → Prop) (p : S × S') (q : T × T') : Prop :=
  R p.1 q.1 ∧ R' p.2 q.2

theorem Coupled.first (h : Coupled R V m n) :
    Coupled (Both R R') V (PyM.first m) (PyM.first n) :=
  h.zoom (fun _ _ hr => hr.1) fun _ _ _ _ hr hx => ⟨hx, hr.2⟩

theorem Coupled.second {m : PyM S' α} {n : PyM T' β} (h : Coupled R' V m n) :
    Coupled (Both R R') V (PyM.second m) (PyM.second n) :=
  h.zoom (fun _ _ hr => hr.2) fun _ _ _ _ hr hx => ⟨hr.1, hx⟩

theorem coupled_refl (m : PyM S α) : Coupled Eq Eq m m := by
  rintro s _ rfl
  cases m s with
  | ok a t => exact .ok rfl rfl
  | error e t => exact .error rfl

end Python.PyM
