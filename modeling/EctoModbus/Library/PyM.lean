import EctoModbus.Library.Python

/-! Running Python calls: what a call leaves behind whether it returns or raises, calls on a
part of an object, and a loop over a list of mutable objects. -/

namespace Python.PyM
variable {S T W α β : Type}

/-- The state a call leaves, whether it returned or raised. -/
def after (m : PyM S α) (s : S) : S :=
  match m s with
  | .ok _ t => t
  | .error _ t => t

def result (m : PyM S α) (s : S) : Option α :=
  match m s with
  | .ok a _ => some a
  | .error _ _ => none

def outcome (m : PyM S α) (s : S) : Except PyException α :=
  match m s with
  | .ok a _ => .ok a
  | .error e _ => .error e

theorem outcome_ok {m : PyM S α} {s t : S} {a : α} (h : m s = .ok a t) : m.outcome s = .ok a := by
  simp only [outcome, h]

theorem outcome_error {m : PyM S α} {s t : S} {e : PyException} (h : m s = .error e t) :
    m.outcome s = .error e := by
  simp only [outcome, h]

theorem after_ok {m : PyM S α} {s t : S} {a : α} (h : m s = .ok a t) : m.after s = t := by
  simp only [after, h]

theorem after_error {m : PyM S α} {s t : S} {e : PyException} (h : m s = .error e t) :
    m.after s = t := by
  simp only [after, h]

theorem result_error {m : PyM S α} {s t : S} {e : PyException} (h : m s = .error e t) :
    m.result s = none := by
  simp only [result, h]

@[simp] theorem pure_run (a : α) (s : S) : (pure a : PyM S α) s = .ok a s := rfl
@[simp] theorem set_run (s t : S) : (set t : PyM S PUnit) s = .ok ⟨⟩ t := rfl
@[simp] theorem modify_run (f : S → S) (s : S) : (modify f : PyM S PUnit) s = .ok ⟨⟩ (f s) := rfl

theorem bind_ok {x : PyM S α} {f : α → PyM S β} {s t : S} {a : α} (h : x s = .ok a t) :
    (x >>= f) s = f a t := by
  simp only [bind, EStateM.bind, h]

theorem bind_error {x : PyM S α} {f : α → PyM S β} {s t : S} {e : PyException}
    (h : x s = .error e t) : (x >>= f) s = .error e t := by
  simp only [bind, EStateM.bind, h]

@[simp] theorem get_bind (f : S → PyM S β) (s : S) : (get >>= f) s = f s s := rfl

@[simp] theorem set_bind (t : S) (f : PUnit → PyM S β) (s : S) :
    ((set t : PyM S PUnit) >>= f) s = f ⟨⟩ t := rfl

@[simp] theorem modify_bind (g : S → S) (f : PUnit → PyM S β) (s : S) :
    ((modify g : PyM S PUnit) >>= f) s = f ⟨⟩ (g s) := rfl

@[simp] theorem after_pure (a : α) (s : S) : (pure a : PyM S α).after s = s := rfl

@[simp] theorem after_get_bind (f : S → PyM S β) (s : S) :
    (get >>= f).after s = (f s).after s := rfl

@[simp] theorem after_modify_bind (g : S → S) (f : PUnit → PyM S β) (s : S) :
    ((modify g : PyM S PUnit) >>= f).after s = (f ⟨⟩).after (g s) := rfl

@[simp] theorem after_set_bind (t : S) (f : PUnit → PyM S β) (s : S) :
    ((set t : PyM S PUnit) >>= f).after s = (f ⟨⟩).after t := rfl

theorem after_bind_ok {x : PyM S α} {f : α → PyM S β} {s t : S} {a : α} (h : x s = .ok a t) :
    (x >>= f).after s = (f a).after t := by
  simp only [after, bind_ok h]

theorem tryCatch_ok {x : PyM S α} {handle : PyException → PyM S α} {s t : S} {a : α}
    (h : x s = .ok a t) : tryCatch x handle s = .ok a t := by
  simp only [tryCatch, tryCatchThe, MonadExceptOf.tryCatch, EStateM.tryCatch, h]

theorem tryCatch_error {x : PyM S α} {handle : PyException → PyM S α} {s t : S} {e : PyException}
    (h : x s = .error e t) : tryCatch x handle s = handle e t := by
  simp only [tryCatch, tryCatchThe, MonadExceptOf.tryCatch, EStateM.tryCatch, h]
  rfl

theorem after_tryCatch {x : PyM S α} {handle : PyException → PyM S α}
    (h : ∀ e s, (handle e).after s = s) (s : S) : (tryCatch x handle).after s = x.after s := by
  cases hx : x s with
  | ok a t => rw [after_ok (tryCatch_ok hx), after_ok hx]
  | error e t =>
    rw [after_error hx, ← h e t, after, tryCatch_error hx]
    rfl

theorem after_bind_pure (x : PyM S α) (f : α → β) (s : S) :
    (x >>= fun a => pure (f a)).after s = x.after s := by
  cases h : x s with
  | ok a t => rw [after_bind_ok h, after_pure, after_ok h]
  | error e t => rw [after_error (bind_error h), after_error h]

theorem outcome_bind_pure (x : PyM S α) (f : α → β) (s : S) :
    (x >>= fun a => pure (f a)).outcome s = (x.outcome s).map f := by
  cases h : x s with
  | ok a t =>
    have hf : (x >>= fun a => pure (f a)) s = .ok (f a) t := bind_ok h
    rw [outcome_ok hf, outcome_ok h]
    rfl
  | error e t =>
    rw [outcome_error (bind_error h), outcome_error h]
    rfl

/-! ## Relations between the states before and after a call -/

/-- Every state the call leaves, also by raising, is related to the one it started from. -/
def Moves (R : S → S → Prop) (m : PyM S α) : Prop := ∀ s, R s (m.after s)

theorem Moves.pure {R : S → S → Prop} (hr : ∀ s, R s s) (a : α) :
    Moves R (Pure.pure a : PyM S α) := fun s => hr s

theorem moves_get {R : S → S → Prop} (hr : ∀ s, R s s) : Moves R (get : PyM S S) := fun s => hr s

theorem Moves.bind {R : S → S → Prop} (ht : ∀ a b c, R a b → R b c → R a c)
    {x : PyM S α} {f : α → PyM S β} (hx : Moves R x) (hf : ∀ a, Moves R (f a)) :
    Moves R (x >>= f) := by
  intro s
  have h := hx s
  cases he : x s with
  | ok a t =>
    rw [after_ok he] at h
    have hs : (x >>= f).after s = (f a).after t := by simp only [after, bind_ok he]
    exact hs ▸ ht _ _ _ h (hf a t)
  | error e t =>
    rw [after_error he] at h
    exact (after_error (bind_error (f := f) he)).symm ▸ h

theorem Moves.foldlM {R : S → S → Prop} (hr : ∀ s, R s s) (ht : ∀ a b c, R a b → R b c → R a c)
    {body : β → α → PyM S β} (h : ∀ b a, Moves R (body b a)) (l : List α) (b : β) :
    Moves R (l.foldlM body b) := by
  induction l generalizing b with
  | nil => exact Moves.pure hr b
  | cons a l ih =>
    rw [List.foldlM_cons]
    exact Moves.bind ht (h b a) ih

/-! ## Calls that return -/

/-- From states in `K` the call returns, and leaves a state in `K`. -/
def Total (K : S → Prop) (m : PyM S α) : Prop := ∀ s, K s → ∃ a t, m s = .ok a t ∧ K t

variable {K : S → Prop}

theorem total_pure (a : α) : Total K (pure a : PyM S α) := fun s hs => ⟨a, s, rfl, hs⟩

theorem Total.bind {x : PyM S α} {f : α → PyM S β} (hx : Total K x) (hf : ∀ a, Total K (f a)) :
    Total K (x >>= f) := by
  intro s hs
  obtain ⟨a, t, hok, ht⟩ := hx s hs
  rw [bind_ok hok]
  exact hf a t ht

theorem total_get_bind {f : S → PyM S β} (h : ∀ s, K s → ∃ b t, f s s = .ok b t ∧ K t) :
    Total K (get >>= f) := h

/-! ## Calls on a part of the state -/

/-- Runs a call on one part of a larger state. -/
def zoom (part : S → T) (put : T → S → S) (m : PyM T α) : PyM S α := fun s =>
  match m (part s) with
  | .ok a t => .ok a (put t s)
  | .error e t => .error e (put t s)

theorem zoom_ok {part : S → T} {put : T → S → S} {m : PyM T α} {s : S} {t : T} {a : α}
    (h : m (part s) = .ok a t) : zoom part put m s = .ok a (put t s) := by
  simp only [zoom, h]

theorem zoom_error {part : S → T} {put : T → S → S} {m : PyM T α} {s : S} {t : T}
    {e : PyException} (h : m (part s) = .error e t) :
    zoom part put m s = .error e (put t s) := by
  simp only [zoom, h]

theorem exists_of_zoom_ok {part : S → T} {put : T → S → S} {m : PyM T α} {s s' : S} {a : α}
    (h : zoom part put m s = .ok a s') : ∃ t, m (part s) = .ok a t ∧ s' = put t s := by
  cases hm : m (part s) with
  | ok b t =>
    rw [zoom_ok hm] at h
    cases h
    exact ⟨t, rfl, rfl⟩
  | error e t =>
    rw [zoom_error hm] at h
    cases h

theorem after_zoom (part : S → T) (put : T → S → S) (m : PyM T α) (s : S) :
    (zoom part put m).after s = put (m.after (part s)) s := by
  cases h : m (part s) <;> simp only [after, zoom, h]

def first (m : PyM S α) : PyM (S × W) α := zoom Prod.fst (fun s p => (s, p.2)) m

def second (m : PyM W α) : PyM (S × W) α := zoom Prod.snd (fun w p => (p.1, w)) m

@[simp] theorem after_first (m : PyM S α) (p : S × W) :
    (first m).after p = (m.after p.1, p.2) := after_zoom _ _ _ _

@[simp] theorem after_second (m : PyM W α) (p : S × W) :
    (second m).after p = (p.1, m.after p.2) := after_zoom _ _ _ _

theorem Moves.first {R : S → S → Prop} {m : PyM S α} (h : Moves R m) :
    Moves (fun p q : S × W => R p.1 q.1) (PyM.first m) := by
  intro p
  rw [after_first]
  exact h p.1

theorem moves_second {R : S → S → Prop} (hr : ∀ s, R s s) (m : PyM W α) :
    Moves (fun p q : S × W => R p.1 q.1) (PyM.second m) := by
  intro p
  rw [after_second]
  exact hr p.1

theorem Moves.second {R : W → W → Prop} {m : PyM W α} (h : Moves R m) :
    Moves (fun p q : S × W => R p.2 q.2) (PyM.second m) := by
  intro p
  rw [after_second]
  exact h p.2

theorem first_ok {m : PyM S α} {s t : S} {w : W} {a : α} (h : m s = .ok a t) :
    first m (s, w) = .ok a (t, w) := by
  simp only [first, zoom, h]

theorem first_error {m : PyM S α} {s t : S} {w : W} {e : PyException} (h : m s = .error e t) :
    first m (s, w) = .error e (t, w) := by
  simp only [first, zoom, h]

theorem after_first_modify {x : PyM S α} {s t : S} {w : W} {a : α} (g : W → W)
    (h : x s = .ok a t) : (first x >>= fun _ => second (modify g)).after (s, w) = (t, g w) := by
  rw [after_bind_ok (first_ok h), after_second]
  rfl

theorem second_ok {m : PyM W α} {s : S} {w v : W} {a : α} (h : m w = .ok a v) :
    second m (s, w) = .ok a (s, v) := by
  simp only [second, zoom, h]

theorem second_error {m : PyM W α} {s : S} {w v : W} {e : PyException} (h : m w = .error e v) :
    second m (s, w) = .error e (s, v) := by
  simp only [second, zoom, h]

/-- Runs a call on an object that only the caller has, and returns the object with the result. -/
def onValue (x : T) (m : PyM T α) : PyM S (α × T) := fun s =>
  match m x with
  | .ok a t => .ok (a, t) s
  | .error e _ => .error e s

theorem onValue_ok {x t : T} {m : PyM T α} {a : α} (h : m x = .ok a t) (s : S) :
    onValue x m s = .ok (a, t) s := by
  simp only [onValue, h]

def ofExcept : Except PyException α → PyM S α
  | .ok a => pure a
  | .error e => throw e

@[simp] theorem ofExcept_ok (a : α) : (ofExcept (.ok a) : PyM S α) = pure a := rfl

def ofOption (e : PyException) : Option α → PyM S α
  | some a => pure a
  | none => throw e

@[simp] theorem ofOption_some (e : PyException) (a : α) :
    (ofOption e (some a) : PyM S α) = pure a := rfl

@[simp] theorem after_ofOption (e : PyException) (a : Option α) (s : S) :
    (ofOption e a : PyM S α).after s = s := by
  cases a <;> rfl

/-! ## A loop over mutable objects -/

/-- `for x in xs: body(x)`, where the body changes the object and a shared world. An exception
leaves the objects after it untouched. -/
def forEach (body : PyM (S × W) α) : List S → W → EStateM.Result PyException (List S × W) Unit
  | [], w => .ok () ([], w)
  | x :: xs, w =>
    match body (x, w) with
    | .ok _ (y, v) =>
      match forEach body xs v with
      | .ok u (ys, v') => .ok u (y :: ys, v')
      | .error e (ys, v') => .error e (y :: ys, v')
    | .error e (y, v) => .error e (y :: xs, v)

def each (body : PyM (S × W) α) : PyM (List S × W) Unit := fun p => forEach body p.1 p.2

theorem exists_left_of_mem {R : α → β → Prop} {l : List α} {u : List β}
    (h : List.Forall₂ R l u) {b : β} (hb : b ∈ u) : ∃ a ∈ l, R a b := by
  induction h with
  | nil => cases hb
  | cons hr _ ih =>
    rcases List.mem_cons.1 hb with rfl | hb
    · exact ⟨_, List.mem_cons_self, hr⟩
    · obtain ⟨a, ha, hab⟩ := ih hb
      exact ⟨a, List.mem_cons_of_mem _ ha, hab⟩

theorem forall₂_comp {γ : Type} {P : α → β → Prop} {R : β → γ → Prop} {Q : α → γ → Prop}
    (h : ∀ a b c, P a b → R b c → Q a c) {l : List α} {u : List β} {v : List γ}
    (hp : List.Forall₂ P l u) (hr : List.Forall₂ R u v) : List.Forall₂ Q l v := by
  induction hp generalizing v with
  | nil =>
    cases hr
    exact .nil
  | cons hab _ ih =>
    cases hr with
    | cons hbc hr => exact .cons (h _ _ _ hab hbc) (ih hr)

theorem forall₂_and {P Q : α → β → Prop} {l : List α} {u : List β} (hp : List.Forall₂ P l u)
    (hq : List.Forall₂ Q l u) :
    List.Forall₂ (fun a b => a ∈ l ∧ b ∈ u ∧ P a b ∧ Q a b) l u := by
  obtain ⟨hlen, hp⟩ := List.forall₂_iff_zip.1 hp
  obtain ⟨_, hq⟩ := List.forall₂_iff_zip.1 hq
  apply List.forall₂_iff_zip.2
  exact ⟨hlen, fun hm => ⟨(List.of_mem_zip hm).1, (List.of_mem_zip hm).2, hp hm, hq hm⟩⟩

/-- A task of its own: an exception in it reaches nothing else. -/
def asTask (m : PyM S α) : PyM S Unit := fun s => .ok () (m.after s)

@[simp] theorem after_asTask (m : PyM S α) (s : S) : (asTask m).after s = m.after s := rfl

/-- A loop whose rounds all return has changed every object. -/
theorem each_ok {body : PyM (S × W) α} {I : S → Prop} {f : S → S}
    (h : ∀ x w, I x → ∃ a v, body (x, w) = .ok a (f x, v)) {xs : List S} (hi : ∀ x ∈ xs, I x)
    (w : W) : ∃ v, each body (xs, w) = .ok () (xs.map f, v) := by
  induction xs generalizing w with
  | nil => exact ⟨w, rfl⟩
  | cons x xs ih =>
    obtain ⟨a, v, hx⟩ := h x w (hi x List.mem_cons_self)
    obtain ⟨v', hxs⟩ := ih (fun y hy => hi y (List.mem_cons_of_mem x hy)) v
    have hxs' : forEach body xs v = .ok () (xs.map f, v') := hxs
    refine ⟨v', ?_⟩
    simp only [each, forEach, hx, hxs', List.map_cons]

theorem after_each_ok {body : PyM (S × W) α} {x y : S} {w v : W} {a : α}
    (h : body (x, w) = .ok a (y, v)) (xs : List S) : (each body).after (x :: xs, w) =
      (y :: ((each body).after (xs, v)).1, ((each body).after (xs, v)).2) := by
  simp only [after, each, forEach, h]
  cases forEach body xs v <;> rfl

theorem after_each_error {body : PyM (S × W) α} {x y : S} {w v : W} {e : PyException}
    (h : body (x, w) = .error e (y, v)) (xs : List S) :
    (each body).after (x :: xs, w) = (y :: xs, v) := by
  simp only [after, each, forEach, h]

theorem forall₂_after_each {body : PyM (S × W) α} {R : S → S → Prop} (hr : ∀ x, R x x)
    (h : ∀ x w, R x (body.after (x, w)).1) (xs : List S) (w : W) :
    List.Forall₂ R xs ((each body).after (xs, w)).1 := by
  induction xs generalizing w with
  | nil => exact .nil
  | cons x xs ih =>
    have hx := h x w
    cases hb : body (x, w) with
    | ok a q =>
      rw [after_ok hb] at hx
      rw [after_each_ok hb]
      exact .cons hx (ih q.2)
    | error e q =>
      rw [after_error hb] at hx
      rw [after_each_error hb]
      exact .cons hx (List.forall₂_same.2 fun y _ => hr y)

/-- A loop goes on after a part of its objects, from the world that the part has left. -/
theorem each_append_ok {body : PyM (S × W) α} {xs ys : List S} {w v : W}
    (h : each body (xs, w) = .ok () (ys, v)) (zs : List S) : each body (xs ++ zs, w) =
      match each body (zs, v) with
      | .ok u (zs', v') => .ok u (ys ++ zs', v')
      | .error e (zs', v') => .error e (ys ++ zs', v') := by
  induction xs generalizing w ys with
  | nil =>
    cases h
    rw [List.nil_append]
    cases each body (zs, w) <;> rfl
  | cons x xs ih =>
    simp only [each, forEach, List.cons_append] at h ih ⊢
    cases hb : body (x, w) with
    | error e q =>
      rw [hb] at h
      cases h
    | ok a q =>
      rw [hb] at h
      cases hr : forEach body xs q.2 with
      | error e r =>
        simp only [hr] at h
        cases h
      | ok u r =>
        simp only [hr] at h
        cases h
        have hrest := ih hr
        simp only [hrest]
        cases forEach body zs r.2 <;> rfl

theorem each_snoc_ok {body : PyM (S × W) α} {xs ys : List S} {x y : S} {w v v' : W} {a : α}
    (h : each body (xs, w) = .ok () (ys, v)) (hx : body (x, v) = .ok a (y, v')) :
    each body (xs ++ [x], w) = .ok () (ys ++ [y], v') := by
  rw [each_append_ok h]
  simp only [each, forEach, hx]

theorem each_stops {body : PyM (S × W) α} {xs ys : List S} {x y : S} {w v v' : W} {e : PyException}
    (h : each body (xs, w) = .ok () (ys, v)) (hx : body (x, v) = .error e (y, v')) (zs : List S) :
    each body (xs ++ x :: zs, w) = .error e (ys ++ y :: zs, v') := by
  rw [each_append_ok h]
  simp only [each, forEach, hx]

/-- A loop that returns has gone through every object; one that raises stopped at one of them. -/
theorem each_cases {body : PyM (S × W) α} {I : S → Prop} {R Q : S → S → Prop}
    (hok : ∀ x w a y v, I x → body (x, w) = .ok a (y, v) → R x y)
    (herror : ∀ x w e y v, I x → body (x, w) = .error e (y, v) → Q x y) {xs : List S}
    (hi : ∀ x ∈ xs, I x) (w : W) :
    (∃ ys v, each body (xs, w) = .ok () (ys, v) ∧ List.Forall₂ R xs ys) ∨
      ∃ e xs₁ x xs₂ ys₁ y v, xs = xs₁ ++ x :: xs₂ ∧
        each body (xs, w) = .error e (ys₁ ++ y :: xs₂, v) ∧ List.Forall₂ R xs₁ ys₁ ∧ Q x y := by
  induction xs generalizing w with
  | nil => exact Or.inl ⟨[], w, rfl, .nil⟩
  | cons x xs ih =>
    have hx := hi x List.mem_cons_self
    cases hb : body (x, w) with
    | error e q =>
      refine Or.inr ⟨e, [], x, xs, [], q.1, q.2, rfl, ?_, .nil, herror _ _ _ _ _ hx hb⟩
      simp only [each, forEach, hb, List.nil_append]
    | ok a q =>
      have hr := hok _ _ _ _ _ hx hb
      rcases ih (fun y hy => hi y (List.mem_cons_of_mem x hy)) q.2 with
        ⟨ys, v, hys, hall⟩ | ⟨e, xs₁, z, xs₂, ys₁, y, v, rfl, hys, hall, hq⟩
      · have hys' : forEach body xs q.2 = .ok () (ys, v) := hys
        refine Or.inl ⟨q.1 :: ys, v, ?_, .cons hr hall⟩
        simp only [each, forEach, hb, hys']
      · have hys' : forEach body (xs₁ ++ z :: xs₂) q.2 = .error e (ys₁ ++ y :: xs₂, v) := hys
        refine Or.inr ⟨e, x :: xs₁, z, xs₂, q.1 :: ys₁, y, v, rfl, ?_, .cons hr hall, hq⟩
        simp only [each, forEach, hb, hys', List.cons_append]

theorem world_after_each {body : PyM (S × W) α} {Q : W → Prop} {xs : List S}
    (h : ∀ x ∈ xs, ∀ w, Q w → Q (body.after (x, w)).2) {w : W} (hw : Q w) :
    Q ((each body).after (xs, w)).2 := by
  induction xs generalizing w with
  | nil => exact hw
  | cons x xs ih =>
    have hx := h x List.mem_cons_self w hw
    cases hb : body (x, w) with
    | ok a q =>
      rw [after_ok hb] at hx
      rw [after_each_ok hb]
      exact ih (fun y hy => h y (List.mem_cons_of_mem x hy)) hx
    | error e q =>
      rw [after_error hb] at hx
      rwa [after_each_error hb]

/-- Objects with different keys do not disturb what the others have with the world. -/
theorem each_frame {κ : Type} {body : PyM (S × W) α} {key : S → κ} {P : S → W → Prop}
    (hkey : ∀ x w, key (body.after (x, w)).1 = key x)
    (hp : ∀ x w, P x w → P (body.after (x, w)).1 (body.after (x, w)).2)
    (hframe : ∀ x z w, P x w → key z ≠ key x → P z w → P z (body.after (x, w)).2) {xs : List S}
    (hxs : (xs.map key).Nodup) {w : W} (h : ∀ x ∈ xs, P x w) :
    (∀ y ∈ ((each body).after (xs, w)).1, P y ((each body).after (xs, w)).2) ∧
      ∀ z, key z ∉ xs.map key → P z w → P z ((each body).after (xs, w)).2 := by
  induction xs generalizing w with
  | nil => exact ⟨fun y hy => absurd hy List.not_mem_nil, fun z _ hz => hz⟩
  | cons x xs ih =>
    obtain ⟨hx, hxs⟩ := List.nodup_cons.1 hxs
    have hpx := h x List.mem_cons_self
    have hkeyx := hkey x w
    have hy := hp x w hpx
    have hother : ∀ z, key z ≠ key x → P z w → P z (body.after (x, w)).2 :=
      fun z hz => hframe x z w hpx hz
    have hrest : ∀ z ∈ xs, P z (body.after (x, w)).2 := by
      intro z hz
      refine hother z (fun hk => hx ?_) (h z (List.mem_cons_of_mem x hz))
      rw [← hk]
      exact List.mem_map_of_mem hz
    cases hb : body (x, w) with
    | ok a q =>
      obtain ⟨y, v⟩ := q
      rw [after_ok hb] at hkeyx hy hother hrest
      obtain ⟨hys, hzs⟩ := ih hxs hrest
      rw [after_each_ok hb]
      -- what the other rounds do is framed, since `y` has the key of `x`
      have hynew : key y ∉ xs.map key := by
        rw [show key y = key x from hkeyx]
        exact hx
      refine ⟨List.forall_mem_cons.2 ⟨hzs y hynew hy, hys⟩, fun z hz hpz => ?_⟩
      rw [List.map_cons, List.mem_cons, not_or] at hz
      exact hzs z hz.2 (hother z hz.1 hpz)
    | error e q =>
      obtain ⟨y, v⟩ := q
      rw [after_error hb] at hy hother hrest
      rw [after_each_error hb]
      -- the round that raised was the last
      refine ⟨List.forall_mem_cons.2 ⟨hy, hrest⟩, fun z hz hpz => ?_⟩
      rw [List.map_cons, List.mem_cons, not_or] at hz
      exact hother z hz.1 hpz

theorem map_after_each {body : PyM (S × W) α} {I : S → Prop} {f : S → T}
    (h : ∀ x w, I x → f (body.after (x, w)).1 = f x) {xs : List S} (hi : ∀ x ∈ xs, I x) (w : W) :
    ((each body).after (xs, w)).1.map f = xs.map f := by
  induction xs generalizing w with
  | nil => rfl
  | cons x xs ih =>
    have hx := h x w (hi x List.mem_cons_self)
    have hxs := fun v => ih (fun y hy => hi y (List.mem_cons_of_mem x hy)) v
    simp only [after, each] at hx hxs ⊢
    rw [forEach]
    cases hb : body (x, w) with
    | error e q =>
      rw [hb] at hx
      exact congrArg (· :: xs.map f) hx
    | ok a q =>
      obtain ⟨y, v⟩ := q
      rw [hb] at hx
      have hv := hxs v
      simp only
      cases hr : forEach body xs v with
      | ok u r =>
        rw [hr] at hv
        exact congrArg₂ List.cons hx hv
      | error e r =>
        rw [hr] at hv
        exact congrArg₂ List.cons hx hv

end Python.PyM
