import Mathlib.Data.Rat.Floor
import Mathlib.Logic.Function.Basic

/-! Python calls on mutable objects: exceptions that keep the state they were raised in,
list indices that count from the end, truthiness, and `int()` on exact numbers. -/

namespace Python

inductive PyException where
  | indexError
  | keyError
  | valueError
  | overflowError
  | typeError
  | attributeError
  | other (name : String)
  deriving Repr, DecidableEq

/-- A call on an object of type `S`. A raised exception does not undo what was done before it. -/
abbrev PyM (S α : Type) := EStateM PyException S α

theorem bind_eq_ok {ε α β : Type} {x : Except ε α} {f : α → Except ε β} {b : β}
    (h : x >>= f = .ok b) : ∃ a, x = .ok a ∧ f a = .ok b := by
  cases x with
  | ok a => exact ⟨a, rfl, h⟩
  | error e => cases h

theorem map_eq_ok {ε α β : Type} {x : Except ε α} {f : α → β} {b : β} (h : x.map f = .ok b) :
    ∃ a, x = .ok a ∧ f a = b := by
  cases x with
  | ok a => exact ⟨a, rfl, Except.ok.inj h⟩
  | error e => cases h

theorem exists_ok_iff {ε α : Type} {x : Except ε α} {a : α} {P : α → Prop} (h : x = .ok a) :
    (∃ b, x = .ok b ∧ P b) ↔ P a := by
  constructor
  · rintro ⟨b, hb, hp⟩
    rw [h, Except.ok.injEq] at hb
    rwa [hb]
  · exact fun hp => ⟨a, h, hp⟩

theorem isSome_of_ok {ε α : Type} {x : Except ε α} {a : α} (h : x = .ok a) :
    x.toOption.isSome := by
  rw [h]
  rfl

theorem eq_ok_get {ε α : Type} {x : Except ε α} (h : x.toOption.isSome) :
    x = .ok (x.toOption.get h) := by
  cases x with
  | ok a => rfl
  | error e => cases h

/-! ## Indices and numbers -/

/-- The position `xs[i]` names in a list of length `n`; `none` where Python raises `IndexError`. -/
def index (n : ℕ) (i : ℤ) : Option (Fin n) :=
  if h : 0 ≤ i ∧ i < n then some ⟨i.toNat, by omega⟩
  else if h : -(n : ℤ) ≤ i ∧ i < 0 then some ⟨(n + i).toNat, by omega⟩
  else none

theorem index_natCast {n k : ℕ} (hk : k < n) : index n (k : ℤ) = some ⟨k, hk⟩ := by
  have h : (0 : ℤ) ≤ k ∧ (k : ℤ) < n := by omega
  simp only [index, dif_pos h, Int.toNat_natCast]

@[simp] theorem index_fin {n : ℕ} (i : Fin n) : index n (i : ℤ) = some i := index_natCast i.isLt

/-- `bool(x)` of an integer. -/
def truthy (x : ℤ) : Bool := decide (x ≠ 0)

def oneIf (x : ℤ) : ℤ := if truthy x then 1 else 0

theorem truthy_iff_of_bit {x : ℤ} (h : x = 0 ∨ x = 1) : truthy x = true ↔ x = 1 := by
  rcases h with rfl | rfl <;> decide

theorem oneIf_bit (x : ℤ) : oneIf x = 0 ∨ oneIf x = 1 := by
  by_cases h : x = 0 <;> simp [oneIf, truthy, h]

theorem oneIf_of_bit {x : ℤ} (h : x = 0 ∨ x = 1) : oneIf x = x := by
  rcases h with rfl | rfl <;> rfl

theorem toInt_bit (b : Bool) : b.toInt = 0 ∨ b.toInt = 1 := by
  cases b <;> simp

theorem toInt_inj {a b : Bool} : a.toInt = b.toInt ↔ a = b := by
  cases a <;> cases b <;> simp

theorem bits_update {ι : Type} [DecidableEq ι] {f : ι → ℤ} (h : ∀ i, f i = 0 ∨ f i = 1) (i : ι)
    {b : ℤ} (hb : b = 0 ∨ b = 1) (j : ι) :
    Function.update f i b j = 0 ∨ Function.update f i b j = 1 := by
  by_cases hj : j = i
  · rwa [hj, Function.update_self]
  · rw [Function.update_of_ne hj]
    exact h j

/-- What `float()` can return; finite values are taken as exact rationals. -/
inductive PyFloat where
  | finite (q : ℚ)
  | nan
  | posInf
  | negInf
  deriving Repr, DecidableEq

/-- `int()` of a finite number truncates toward zero. -/
def trunc (q : ℚ) : ℤ := if 0 ≤ q then ⌊q⌋ else ⌈q⌉

theorem trunc_nonneg_iff {q : ℚ} : 0 ≤ trunc q ↔ -1 < q := by
  unfold trunc
  split_ifs with h
  · exact ⟨fun _ => by linarith, fun _ => Int.floor_nonneg.2 h⟩
  · rw [show (0 : ℤ) = -1 + 1 by norm_num, Int.add_one_le_iff, Int.lt_ceil]
    norm_num

theorem trunc_le_iff {q : ℚ} {n : ℤ} (hn : 0 ≤ n) : trunc q ≤ n ↔ q < n + 1 := by
  unfold trunc
  split_ifs with h
  · rw [← Int.lt_add_one_iff, Int.floor_lt]
    push_cast
    rfl
  · have hq : q < 0 := not_le.1 h
    have hn' : (0 : ℚ) ≤ n := by exact_mod_cast hn
    exact ⟨fun _ => by linarith, fun _ => Int.ceil_le.2 (by linarith)⟩

def PyFloat.toInt : PyFloat → Except PyException ℤ
  | .finite q => .ok (trunc q)
  | .nan => .error .valueError
  | .posInf => .error .overflowError
  | .negInf => .error .overflowError

def PyFloat.scale (k : ℚ) : PyFloat → PyFloat
  | .finite q => .finite (q * k)
  | .nan => .nan
  | .posInf => .posInf
  | .negInf => .negInf

end Python
