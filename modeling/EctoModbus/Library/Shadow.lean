import Mathlib.Logic.Function.Basic
import Mathlib.Tactic.SplitIfs

/-! A family of cells that another party also writes, kept together with a local copy. A local
command on one cell writes the whole copy back, and only when the copy says the cell would
change. What a command then does to the cells is decided by where the copy is stale. -/

namespace Shadow
variable {ι β : Type}

@[ext] structure Shadowed (ι β : Type) where
  master : ι → β
  copy : ι → β

namespace Shadowed

def overwrite (m : ι → β) (s : Shadowed ι β) : Shadowed ι β := { s with master := m }

/-- Some of the copy is read back from the cells. -/
def refreshOn (p : ι → Bool) (s : Shadowed ι β) : Shadowed ι β :=
  { s with copy := fun i => if p i then s.master i else s.copy i }

def InSync (s : Shadowed ι β) : Prop := s.master = s.copy

def Holds (i : ι) (b : β) (s : Shadowed ι β) : Prop := s.master i = b ∧ s.copy i = b

theorem Holds.refreshOn {i : ι} {b : β} {s : Shadowed ι β} (h : Holds i b s) (p : ι → Bool) :
    Holds i b (s.refreshOn p) := by
  refine ⟨h.1, ?_⟩
  show (if p i then s.master i else s.copy i) = b
  split_ifs
  · exact h.1
  · exact h.2

variable [DecidableEq ι]

/-- A local store: write the copy back in any case. -/
def store (i : ι) (b : β) (s : Shadowed ι β) : Shadowed ι β :=
  ⟨Function.update s.copy i b, Function.update s.copy i b⟩

/-- A store changes the one cell alone exactly if the copy of each other cell is fresh. -/
theorem master_store_iff (i : ι) (b : β) (s : Shadowed ι β) :
    (s.store i b).master = Function.update s.master i b ↔ ∀ j, j ≠ i → s.copy j = s.master j := by
  show Function.update s.copy i b = Function.update s.master i b ↔ _
  constructor
  · intro h j hj
    have hc := congrFun h j
    rwa [Function.update_of_ne hj, Function.update_of_ne hj] at hc
  · intro h
    funext j
    by_cases hj : j = i
    · rw [hj, Function.update_self, Function.update_self]
    · rw [Function.update_of_ne hj, Function.update_of_ne hj, h j hj]

theorem copy_refreshOn_update (s : Shadowed ι β) (p : ι → Bool) (i : ι) :
    Function.update (s.refreshOn p).copy i (s.master i) =
      (s.refreshOn (Function.update p i true)).copy := by
  funext j
  by_cases h : j = i
  · subst h
    simp [refreshOn]
  · simp [refreshOn, h]

variable [DecidableEq β]

/-- A local command: write the copy back if the commanded cell differs from it. -/
def command (i : ι) (b : β) (s : Shadowed ι β) : Shadowed ι β :=
  if b = s.copy i then s
  else ⟨Function.update s.copy i b, Function.update s.copy i b⟩

theorem command_of_eq {i : ι} {b : β} {s : Shadowed ι β} (h : b = s.copy i) :
    s.command i b = s := if_pos h

theorem command_of_ne {i : ι} {b : β} {s : Shadowed ι β} (h : b ≠ s.copy i) :
    s.command i b = ⟨Function.update s.copy i b, Function.update s.copy i b⟩ := if_neg h

theorem copy_command (i : ι) (b : β) (s : Shadowed ι β) :
    (s.command i b).copy = Function.update s.copy i b := by
  by_cases h : b = s.copy i
  · rw [command_of_eq h, h, Function.update_eq_self]
  · rw [command_of_ne h]

theorem master_command_self_iff (i : ι) (b : β) (s : Shadowed ι β) :
    (s.command i b).master i = b ↔ b ≠ s.copy i ∨ s.master i = b := by
  by_cases h : b = s.copy i
  · rw [command_of_eq h]
    simp [h]
  · rw [command_of_ne h]
    simp [h]

/-- A command leaves the other cells alone exactly if it is skipped or the copy of each of them
is fresh. -/
theorem master_command_others_iff (i : ι) (b : β) (s : Shadowed ι β) :
    (∀ j, j ≠ i → (s.command i b).master j = s.master j) ↔
      b = s.copy i ∨ ∀ j, j ≠ i → s.copy j = s.master j := by
  by_cases h : b = s.copy i
  · rw [command_of_eq h]
    simp [h]
  · rw [command_of_ne h]
    simp only [h, false_or]
    refine forall_congr' fun j => imp_congr_right fun hj => ?_
    rw [Function.update_of_ne hj]

theorem InSync.command {s : Shadowed ι β} (h : s.InSync) (i : ι) (b : β) :
    (s.command i b).InSync := by
  by_cases hb : b = s.copy i
  · rwa [command_of_eq hb]
  · rw [command_of_ne hb]
    rfl

theorem holds_command {i : ι} {b : β} {s : Shadowed ι β}
    (h : b ≠ s.copy i ∨ s.master i = b) : Holds i b (s.command i b) :=
  ⟨(master_command_self_iff i b s).2 h, by rw [copy_command, Function.update_self]⟩

theorem Holds.command {i j : ι} {b c : β} {s : Shadowed ι β} (h : Holds i b s) (hj : j ≠ i) :
    Holds i b (s.command j c) := by
  have hc : (s.command j c).copy i = b := by
    rw [copy_command, Function.update_of_ne (Ne.symm hj), h.2]
  refine ⟨?_, hc⟩
  by_cases he : c = s.copy j
  · rw [command_of_eq he, h.1]
  · rw [command_of_ne he]
    simpa [Function.update_of_ne (Ne.symm hj)] using h.2

end Shadowed
end Shadow
