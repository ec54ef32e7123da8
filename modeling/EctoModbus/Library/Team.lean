import EctoModbus.Library.Transition
import Mathlib.Data.List.Basic

/-! Machines side by side. An action of the team is routed to the members that take part in it,
and each of them does its own part; what a member goes through is then a run of its own. -/

namespace Transition.Machine
variable {S A B : Type}

def team (M : Machine S A) (route : S → B → Option A) : Machine (List S) B where
  Init ss := ∀ s ∈ ss, M.Init s
  Enabled ss b := ∀ s ∈ ss, ∀ a ∈ route s b, M.Enabled s a
  step ss b := ss.map fun s => (route s b).elim s (M.step s)

/-- What a member takes of the team's actions does not change when it acts. -/
def Steady (M : Machine S A) (route : S → B → Option A) : Prop :=
  ∀ s a b, route (M.step s a) b = route s b

variable {M : Machine S A} {route : S → B → Option A}

theorem Steady.elim (h : M.Steady route) (s : S) (b : B) :
    route ((route s b).elim s (M.step s)) = route s := by
  funext c
  cases route s b with
  | none => rfl
  | some a => exact h s a c

theorem run_filterMap_cons (h : M.Steady route) (s : S) (b : B) (bs : List B) :
    M.run s ((b :: bs).filterMap (route s)) =
      M.run ((route s b).elim s (M.step s))
        (bs.filterMap (route ((route s b).elim s (M.step s)))) := by
  rw [h.elim s b, List.filterMap_cons]
  cases route s b <;> rfl

/-- Every member of a team runs alone, on the actions it takes part in. -/
theorem run_team (h : M.Steady route) (ss : List S) (bs : List B) :
    (M.team route).run ss bs = ss.map fun s => M.run s (bs.filterMap (route s)) := by
  induction bs generalizing ss with
  | nil => exact (List.map_id' ss).symm
  | cons b bs ih =>
    show (M.team route).run (ss.map fun s => (route s b).elim s (M.step s)) bs = _
    rw [ih, List.map_map]
    apply List.map_congr_left
    intro s _
    exact (run_filterMap_cons h s b bs).symm

theorem isRun_of_team (h : M.Steady route) {ss : List S} {bs : List B}
    (hr : (M.team route).IsRun ss bs) {s : S} (hs : s ∈ ss) :
    M.IsRun s (bs.filterMap (route s)) := by
  induction bs generalizing ss s with
  | nil => trivial
  | cons b bs ih =>
    have hmem : (route s b).elim s (M.step s) ∈ (M.team route).step ss b :=
      List.mem_map_of_mem hs
    have hrest := ih hr.2 hmem
    have hb := hr.1 s hs
    rw [h.elim s b] at hrest
    rw [List.filterMap_cons]
    cases hroute : route s b with
    | none =>
      rw [hroute] at hrest
      exact hrest
    | some a =>
      rw [hroute] at hrest hb
      exact ⟨hb a rfl, hrest⟩

end Transition.Machine
