import EctoModbus.Library.Transition
import Mathlib.Data.List.Basic
import Mathlib.Logic.Function.Basic
import Mathlib.Data.Fintype.Basic
import Mathlib.Data.List.Perm.Basic

/-! Sequences of writes to keyed cells: the last write to a cell decides it, so only the
subsequence of each cell matters, when replaying a snapshot through shared cells gives the cells
back, and when the cells of a machine hold what was last written to them. -/

namespace Replay
variable {ι κ β : Type}

/-- A list of values written to consecutive cells, the first to `key 0`. -/
def writesFrom (key : ℕ → ι) (vs : List β) : List (ι × β) := vs.mapIdx fun k v => (key k, v)

theorem mem_writesFrom {key : ℕ → ι} {vs : List β} {w : ι × β} :
    w ∈ writesFrom key vs ↔ ∃ k, ∃ h : k < vs.length, (key k, vs[k]) = w := List.mem_mapIdx

/-- The writes as they reach the cells, when key `i` is stored in cell `slot i`. -/
def through (slot : ι → κ) (ws : List (ι × β)) : List (κ × β) :=
  ws.map fun w => (slot w.1, w.2)

@[simp] theorem through_nil (slot : ι → κ) : through slot ([] : List (ι × β)) = [] := rfl

@[simp] theorem through_cons (slot : ι → κ) (w : ι × β) (ws : List (ι × β)) :
    through slot (w :: ws) = (slot w.1, w.2) :: through slot ws := rfl

theorem through_append (slot : ι → κ) (ws vs : List (ι × β)) :
    through slot (ws ++ vs) = through slot ws ++ through slot vs := List.map_append

def snapshot (saved : ι → β) (order : List ι) : List (ι × β) := order.map fun i => (i, saved i)

theorem mem_through_snapshot {slot : ι → κ} {saved : ι → β} {order : List ι} {w : κ × β} :
    w ∈ through slot (snapshot saved order) ↔ ∃ i ∈ order, (slot i, saved i) = w := by
  simp [through, snapshot]

variable [DecidableEq ι] [DecidableEq κ]

def replay (f : ι → β) (ws : List (ι × β)) : ι → β :=
  ws.foldl (fun g w => Function.update g w.1 w.2) f

def writesTo (i : ι) (ws : List (ι × β)) : List β :=
  (ws.filter (fun w => w.1 = i)).map Prod.snd

/-- The last value written to cell `i`, or the one it had. -/
def last (f : ι → β) (ws : List (ι × β)) (i : ι) : β := (writesTo i ws).getLastD (f i)

@[simp] theorem replay_nil (f : ι → β) : replay f [] = f := rfl

@[simp] theorem replay_cons (f : ι → β) (w : ι × β) (ws : List (ι × β)) :
    replay f (w :: ws) = replay (Function.update f w.1 w.2) ws := rfl

theorem replay_append (f : ι → β) (ws vs : List (ι × β)) :
    replay f (ws ++ vs) = replay (replay f ws) vs := List.foldl_append

theorem replay_append_singleton (f : ι → β) (ws : List (ι × β)) (w : ι × β) :
    replay f (ws ++ [w]) = Function.update (replay f ws) w.1 w.2 := replay_append f ws [w]

theorem writesTo_append (i : ι) (ws vs : List (ι × β)) :
    writesTo i (ws ++ vs) = writesTo i ws ++ writesTo i vs := by
  simp only [writesTo, List.filter_append, List.map_append]

theorem last_append_singleton (f : ι → β) (ws : List (ι × β)) (w : ι × β) :
    last f (ws ++ [w]) = Function.update (last f ws) w.1 w.2 := by
  funext i
  unfold last
  rw [writesTo_append]
  by_cases h : w.1 = i
  · subst h
    simp [writesTo]
  · rw [Function.update_of_ne (Ne.symm h)]
    simp [writesTo, h]

theorem replay_eq_last (f : ι → β) (ws : List (ι × β)) : replay f ws = last f ws := by
  induction ws using List.reverseRecOn with
  | nil => rfl
  | append_singleton ws w ih => rw [replay_append_singleton, last_append_singleton, ih]

theorem replay_congr (f : ι → β) {ws vs : List (ι × β)}
    (h : ∀ i, writesTo i ws = writesTo i vs) : replay f ws = replay f vs := by
  funext i
  rw [replay_eq_last, replay_eq_last, last, last, h i]

theorem replay_of_notMem (f : ι → β) {ws : List (ι × β)} {i : ι}
    (h : ∀ w ∈ ws, w.1 ≠ i) : replay f ws i = f i := by
  have hn : writesTo i ws = [] := by
    simpa [writesTo, List.filter_eq_nil_iff] using h
  rw [replay_eq_last, last, hn]
  rfl

theorem replay_of_forall (f : ι → β) {ws : List (ι × β)} {i : ι} {b : β}
    (hm : ∃ w ∈ ws, w.1 = i) (hb : ∀ w ∈ ws, w.1 = i → w.2 = b) : replay f ws i = b := by
  induction ws using List.reverseRecOn with
  | nil => obtain ⟨w, hw, _⟩ := hm; cases hw
  | append_singleton ws w ih =>
    rw [replay_append_singleton]
    by_cases h : w.1 = i
    · subst h
      rw [Function.update_self]
      exact hb w (by simp) rfl
    · rw [Function.update_of_ne (Ne.symm h)]
      obtain ⟨v, hv, hi⟩ := hm
      have hv' : v ∈ ws := by
        rcases List.mem_append.1 hv with hv | hv
        · exact hv
        · rw [List.mem_singleton.1 hv] at hi
          exact absurd hi h
      exact ih ⟨v, hv', hi⟩ fun u hu => hb u (List.mem_append_left _ hu)

/-! ## Consecutive cells -/

theorem replay_writesFrom {key : ℕ → ι} {vs : List β}
    (hinj : ∀ j < vs.length, ∀ k < vs.length, key j = key k → j = k) (f : ι → β) {k : ℕ}
    (hk : k < vs.length) : replay f (writesFrom key vs) (key k) = vs[k] := by
  refine replay_of_forall f ⟨_, mem_writesFrom.2 ⟨k, hk, rfl⟩, rfl⟩ ?_
  intro w hw he
  obtain ⟨j, hj, rfl⟩ := mem_writesFrom.1 hw
  have hjk : j = k := hinj j hj k hk he
  subst hjk
  rfl

theorem replay_writesFrom_of_ne {key : ℕ → ι} {vs : List β} {i : ι}
    (h : ∀ k < vs.length, key k ≠ i) (f : ι → β) : replay f (writesFrom key vs) i = f i := by
  apply replay_of_notMem f
  intro w hw
  obtain ⟨k, hk, rfl⟩ := mem_writesFrom.1 hw
  exact h k hk

/-! ## Shared cells -/

omit [DecidableEq ι] in
theorem replay_through_append_singleton (slot : ι → κ) (f : κ → β) (ws : List (ι × β))
    (w : ι × β) : replay f (through slot (ws ++ [w])) =
      Function.update (replay f (through slot ws)) (slot w.1) w.2 := by
  rw [through_append]
  exact replay_append_singleton _ _ (slot w.1, w.2)

theorem exists_replay_through (slot : ι → κ) (f : κ → β) (ws : List (ι × β)) (i : ι) :
    ∃ j, slot j = slot i ∧
      replay f (through slot ws) (slot i) = replay (fun j => f (slot j)) ws j := by
  induction ws using List.reverseRecOn with
  | nil => exact ⟨i, rfl, rfl⟩
  | append_singleton ws w ih =>
    rw [replay_through_append_singleton, replay_append_singleton]
    by_cases hw : slot w.1 = slot i
    · exact ⟨w.1, hw, by rw [← hw, Function.update_self, Function.update_self]⟩
    · obtain ⟨j, hj, he⟩ := ih
      refine ⟨j, hj, ?_⟩
      rw [Function.update_of_ne (Ne.symm hw), he,
        Function.update_of_ne fun hjw => hw (by rw [← hjw, hj])]

/-- Replaying a snapshot gives every cell its value back, in whatever order the keys come, exactly
if each key's saved value is the value of its cell. -/
theorem replay_snapshot_iff [Fintype ι] (slot : ι → κ) (f g : κ → β) (saved : ι → β)
    (hs : ∀ k, (∀ i, slot i ≠ k) → f k = g k) :
    (∀ order : List ι, order.Nodup → (∀ i, i ∈ order) →
        replay f (through slot (snapshot saved order)) = g) ↔
      ∀ i, saved i = g (slot i) := by
  constructor
  · intro h i
    -- the order that stores `i` last
    let order := (Finset.univ.erase i).toList ++ [i]
    have hn : order.Nodup := by
      apply List.Nodup.append (Finset.nodup_toList _) (List.nodup_singleton i)
      simp [List.disjoint_singleton]
    have hm : ∀ j, j ∈ order := by
      intro j
      by_cases hj : j = i <;> simp [order, hj]
    have hg := congrFun (h order hn hm) (slot i)
    have hsnap : snapshot saved order =
        snapshot saved (Finset.univ.erase i).toList ++ [(i, saved i)] := by
      simp [order, snapshot]
    rw [hsnap, replay_through_append_singleton, Function.update_self] at hg
    exact hg
  · intro h order _ hm
    funext k
    by_cases hk : ∃ i, slot i = k
    · obtain ⟨i, rfl⟩ := hk
      refine replay_of_forall f ⟨_, mem_through_snapshot.2 ⟨i, hm i, rfl⟩, rfl⟩ ?_
      intro w hw he
      obtain ⟨j, _, rfl⟩ := mem_through_snapshot.1 hw
      rw [← he]
      exact h j
    · have hk' : ∀ i, slot i ≠ k := fun i hi => hk ⟨i, hi⟩
      rw [replay_of_notMem f, hs k hk']
      intro w hw
      obtain ⟨i, _, rfl⟩ := mem_through_snapshot.1 hw
      exact hk' i

/-! ## Cells of a machine -/

/-- The cells hold what was last written to them throughout a run exactly if each step changes
only what it writes. -/
theorem everyPrefix_replay_iff {S A : Type} {M : Transition.Machine S A} (cells : S → ι → β)
    (writes : A → List (ι × β)) {s : S} {as : List A} :
    (∀ bs, bs <+: as → cells (M.run s bs) = replay (cells s) (bs.flatMap writes)) ↔
      M.EveryStep (fun q a => cells (M.step q a) = replay (cells q) (writes a)) s as := by
  induction as generalizing s with
  | nil =>
    refine iff_of_true (fun bs hb => ?_) trivial
    rw [List.prefix_nil.1 hb]
    rfl
  | cons a as ih =>
    constructor
    · intro h
      have hfirst := h [a] (by simp)
      simp only [Transition.Machine.run, List.flatMap_cons, List.flatMap_nil,
        List.append_nil] at hfirst
      refine ⟨hfirst, ih.1 fun bs hb => ?_⟩
      have hrest := h (a :: bs) (by simpa using hb)
      simp only [Transition.Machine.run, List.flatMap_cons, replay_append] at hrest
      rw [hrest, hfirst]
    · rintro ⟨hfirst, hrest⟩ bs hb
      cases bs with
      | nil => rfl
      | cons b bs =>
        obtain ⟨rfl, hb'⟩ := List.cons_prefix_cons.1 hb
        simp only [Transition.Machine.run, List.flatMap_cons, replay_append]
        rw [ih.2 hrest bs hb', hfirst]

end Replay
