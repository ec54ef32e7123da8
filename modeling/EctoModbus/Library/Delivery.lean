import EctoModbus.Library.PyM
import Mathlib.Logic.Function.Iterate

/-! Delivering pending events by a call that may be cut short by an exception and is then made
again. If every call takes what it delivers off the pending list before delivering it, repeating
the call delivers each event once. -/

namespace Delivery
open Python
variable {S E W α β : Type}

/-- Records each event before it is handled, whether handling it succeeds or not. -/
def traced (handle : E → PyM W Unit) (e : E) : PyM (List E × W) Unit := do
  modify fun p => (p.1 ++ [e], p.2)
  PyM.second (handle e)

theorem traced_ok {handle : E → PyM W Unit} {e : E} {t : List E} {w v : W}
    (h : handle e w = .ok () v) : traced handle e (t, w) = .ok () (t ++ [e], v) := by
  unfold traced
  rw [PyM.modify_bind]
  exact PyM.second_ok h

theorem traced_error {handle : E → PyM W Unit} {e : E} {x : PyException} {t : List E} {w v : W}
    (h : handle e w = .error x v) : traced handle e (t, w) = .error x (t ++ [e], v) := by
  unfold traced
  rw [PyM.modify_bind]
  exact PyM.second_error h

theorem traced_returns {handle : E → PyM W Unit} (h : ∀ e w, ∃ v, handle e w = .ok () v) (e : E)
    (p : List E × W) : ∃ q, traced handle e p = .ok () q := by
  obtain ⟨v, hv⟩ := h e p.2
  exact ⟨_, traced_ok hv⟩

theorem traced_ok_trace {handle : E → PyM W Unit} {e : E} {t t' : List E} {w v : W} {u : Unit}
    (h : traced handle e (t, w) = .ok u (t', v)) : t' = t ++ [e] := by
  cases hw : handle e w with
  | ok u v' =>
    rw [traced_ok hw] at h
    cases h
    rfl
  | error x v' =>
    rw [traced_error hw] at h
    cases h

theorem traced_error_trace {handle : E → PyM W Unit} {e : E} {t t' : List E} {w v : W}
    {x : PyException} (h : traced handle e (t, w) = .error x (t', v)) : t' = t ++ [e] := by
  cases hw : handle e w with
  | ok u v' =>
    rw [traced_ok hw] at h
    cases h
  | error x' v' =>
    rw [traced_error hw] at h
    cases h
    rfl

/-- A call that delivers the pending events of its object in order. Raising, it has delivered at
least one event and leaves the others pending; returning, it has delivered them all. -/
structure Delivers (Inv : S → Prop) (pending : S → List E) (Done : S → Prop)
    (m : PyM (S × List E × W) α) : Prop where
  ok : ∀ {s t w a s' t' w'}, Inv s → m (s, t, w) = .ok a (s', t', w') →
    Inv s' ∧ Done s' ∧ t' = t ++ pending s
  error : ∀ {s t w e s' t' w'}, Inv s → m (s, t, w) = .error e (s', t', w') →
    Inv s' ∧ ∃ sent, sent ≠ [] ∧ t' = t ++ sent ∧ pending s = sent ++ pending s'
  idle : ∀ {s} t w, Inv s → Done s → ∃ a, m (s, t, w) = .ok a (s, t, w)

variable {Inv : S → Prop} {pending : S → List E} {Done : S → Prop} {m : PyM (S × List E × W) α}

/-! ## Over a list of objects -/

theorem forEach_ok (h : Delivers Inv pending Done m) (xs : List S) (t : List E) (w : W)
    {u : Unit} {ys : List S} {t' : List E} {w' : W} (hi : ∀ x ∈ xs, Inv x)
    (he : PyM.forEach m xs (t, w) = .ok u (ys, t', w')) :
    (∀ y ∈ ys, Inv y) ∧ (∀ y ∈ ys, Done y) ∧ t' = t ++ xs.flatMap pending := by
  induction xs generalizing t w ys with
  | nil =>
    cases he
    simp
  | cons x xs ih =>
    simp only [PyM.forEach] at he
    split at he
    · rename_i a y v hx
      split at he
      · rename_i u' zs v' hxs
        cases he
        obtain ⟨hy, hd, hv⟩ := h.ok (hi x List.mem_cons_self) hx
        obtain ⟨hz, hdz, ht⟩ := ih _ _ (fun z hz => hi z (List.mem_cons_of_mem _ hz)) hxs
        refine ⟨List.forall_mem_cons.2 ⟨hy, hz⟩, List.forall_mem_cons.2 ⟨hd, hdz⟩, ?_⟩
        rw [ht, hv, List.flatMap_cons, List.append_assoc]
      · cases he
    · cases he

theorem forEach_error (h : Delivers Inv pending Done m) (hn : ∀ x, Inv x → Done x → pending x = [])
    (xs : List S) (t : List E) (w : W) {e : PyException} {ys : List S} {t' : List E} {w' : W}
    (hi : ∀ x ∈ xs, Inv x) (he : PyM.forEach m xs (t, w) = .error e (ys, t', w')) :
    (∀ y ∈ ys, Inv y) ∧ ∃ sent, sent ≠ [] ∧ t' = t ++ sent ∧
      xs.flatMap pending = sent ++ ys.flatMap pending := by
  induction xs generalizing t w ys with
  | nil => cases he
  | cons x xs ih =>
    have hxs := fun z hz => hi z (List.mem_cons_of_mem x hz)
    simp only [PyM.forEach] at he
    split at he
    · rename_i a y v hx
      obtain ⟨hy, hd, hv⟩ := h.ok (hi x List.mem_cons_self) hx
      split at he
      · cases he
      · rename_i e' zs v' hr
        cases he
        -- the exception comes later, and `y` has nothing pending any more
        obtain ⟨hz, sent, hs, ht, hp⟩ := ih _ _ hxs hr
        refine ⟨List.forall_mem_cons.2 ⟨hy, hz⟩, pending x ++ sent, by simp [hs], ?_, ?_⟩
        · rw [ht, hv, List.append_assoc]
        · rw [List.flatMap_cons, List.flatMap_cons, hp, hn y hy hd, List.nil_append,
            List.append_assoc]
    · rename_i e' y v hx
      cases he
      obtain ⟨hy, sent, hs, ht, hp⟩ := h.error (hi x List.mem_cons_self) hx
      refine ⟨List.forall_mem_cons.2 ⟨hy, hxs⟩, sent, hs, ht, ?_⟩
      rw [List.flatMap_cons, List.flatMap_cons, hp, List.append_assoc]

theorem forEach_idle (h : Delivers Inv pending Done m) (xs : List S) (t : List E) (w : W)
    (hi : ∀ x ∈ xs, Inv x) (hd : ∀ x ∈ xs, Done x) :
    PyM.forEach m xs (t, w) = .ok () (xs, t, w) := by
  induction xs with
  | nil => rfl
  | cons x xs ih =>
    obtain ⟨a, ha⟩ := h.idle t w (hi x List.mem_cons_self) (hd x List.mem_cons_self)
    have hr := ih (fun z hz => hi z (List.mem_cons_of_mem _ hz))
      (fun z hz => hd z (List.mem_cons_of_mem _ hz))
    simp only [PyM.forEach, ha, hr]

theorem Delivers.pending_eq_nil (h : Delivers Inv pending Done m) (w : W) {s : S} (hi : Inv s)
    (hd : Done s) : pending s = [] := by
  obtain ⟨a, ha⟩ := h.idle [] w hi hd
  obtain ⟨_, _, ht⟩ := h.ok hi ha
  simpa using ht.symm

theorem Delivers.each (h : Delivers Inv pending Done m) :
    Delivers (fun xs => ∀ x ∈ xs, Inv x) (fun xs => xs.flatMap pending) (fun xs => ∀ x ∈ xs, Done x)
      (PyM.each m) where
  ok := fun hi he => forEach_ok h _ _ _ hi he
  error := by
    intro xs t w e ys t' w' hi he
    exact forEach_error h (fun _ => h.pending_eq_nil w) xs t w hi he
  idle := fun t w hi hd => ⟨(), forEach_idle h _ t w hi hd⟩

theorem Delivers.discard (h : Delivers Inv pending Done m) (b : β) :
    Delivers Inv pending Done (m >>= fun _ => Pure.pure b) where
  ok := by
    intro s t w a s' t' w' hi he
    cases hm : m (s, t, w) with
    | ok a q =>
      rw [PyM.bind_ok hm] at he
      cases he
      exact h.ok hi hm
    | error e q =>
      rw [PyM.bind_error hm] at he
      cases he
  error := by
    intro s t w e s' t' w' hi he
    cases hm : m (s, t, w) with
    | ok a q =>
      rw [PyM.bind_ok hm] at he
      cases he
    | error e q =>
      rw [PyM.bind_error hm] at he
      cases he
      exact h.error hi hm
  idle := by
    intro s t w hi hd
    obtain ⟨a, ha⟩ := h.idle t w hi hd
    exact ⟨b, PyM.bind_ok ha⟩

theorem Delivers.frame {T : Type} (h : Delivers Inv pending Done m) {f : S → T}
    (hf : ∀ s p, Inv s → f (m.after (s, p)).1 = f s) (y : T) :
    Delivers (fun s => Inv s ∧ f s = y) pending Done m where
  ok := by
    intro s t w a s' t' w' hi he
    have hs := hf s (t, w) hi.1
    rw [PyM.after_ok he] at hs
    obtain ⟨hi', hd⟩ := h.ok hi.1 he
    exact ⟨⟨hi', hs.trans hi.2⟩, hd⟩
  error := by
    intro s t w e s' t' w' hi he
    have hs := hf s (t, w) hi.1
    rw [PyM.after_error he] at hs
    obtain ⟨hi', hd⟩ := h.error hi.1 he
    exact ⟨⟨hi', hs.trans hi.2⟩, hd⟩
  idle := fun t w hi hd => h.idle t w hi.1 hd

/-! ## Repeated calls -/

/-- Repeating the call, at most one failure for each pending event precedes the call that returns;
by then the pending events have been delivered in order, each once and nothing else. -/
theorem Delivers.within (h : Delivers Inv pending Done m) {s : S} (hi : Inv s) (t : List E)
    (w : W) :
    ∃ k, k ≤ (pending s).length ∧
      (∀ j, j < k → m.result (m.after^[j] (s, t, w)) = none) ∧
      ∃ a s' w', m (m.after^[k] (s, t, w)) = .ok a (s', t ++ pending s, w') ∧ Inv s' ∧ Done s' := by
  induction hn : (pending s).length using Nat.strong_induction_on generalizing s t w with
  | _ n ih =>
    cases he : m (s, t, w) with
    | ok a p =>
      obtain ⟨s', t', w'⟩ := p
      obtain ⟨hi', hd, rfl⟩ := h.ok hi he
      exact ⟨0, Nat.zero_le _, fun j hj => absurd hj (Nat.not_lt_zero j), a, s', w', he, hi', hd⟩
    | error e p =>
      obtain ⟨s', t', w'⟩ := p
      obtain ⟨hi', sent, hs, rfl, hp⟩ := h.error hi he
      have hlen : (pending s').length + sent.length = n := by
        rw [← hn, hp, List.length_append, Nat.add_comm]
      have hpos := List.length_pos_of_ne_nil hs
      -- the call that raised has sent something, so less is pending
      obtain ⟨k, hk, hfail, a, s'', w'', hok, hi'', hd⟩ :=
        ih _ (by omega) hi' (t ++ sent) w' rfl
      refine ⟨k + 1, by omega, ?_, a, s'', w'', ?_, hi'', hd⟩
      · intro j hj
        cases j with
        | zero => exact PyM.result_error he
        | succ j =>
          rw [Function.iterate_succ_apply, PyM.after_error he]
          exact hfail j (by omega)
      · rw [Function.iterate_succ_apply, PyM.after_error he, hok, hp, List.append_assoc]

end Delivery
