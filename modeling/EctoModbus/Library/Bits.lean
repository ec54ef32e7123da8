import Mathlib.Data.Int.Bitwise
import Mathlib.Data.Nat.Bitwise
import Mathlib.Algebra.BigOperators.Fin
import Mathlib.Tactic.Ring

/-! Reading single bits of an integer, and the two usual ways of assembling a word from flags:
setting bits one by one, and shifting while adding. -/

namespace Bits
open Finset

/-! ## Reading -/

/-- Bit `k` as the number `(v >> k) & 1`. -/
def bitOf (v : ℤ) (k : ℕ) : ℤ := if v.testBit k then 1 else 0

theorem bitOf_bit (v : ℤ) (k : ℕ) : bitOf v k = 0 ∨ bitOf v k = 1 := by
  unfold bitOf
  split_ifs <;> simp

theorem bitOf_eq_zero_iff {v : ℤ} {k : ℕ} : bitOf v k = 0 ↔ v.testBit k = false := by
  unfold bitOf
  split_ifs with h <;> simp [h]

theorem bitOf_zero (k : ℕ) : bitOf 0 k = 0 := bitOf_eq_zero_iff.2 (Nat.zero_testBit k)

theorem testBit_shiftRight (v : ℤ) (n k : ℕ) : (v >>> n).testBit k = v.testBit (n + k) := by
  cases v with
  | ofNat m => exact Nat.testBit_shiftRight m
  | negSucc m => exact congrArg not (Nat.testBit_shiftRight m)

theorem testBit_natCast (m k : ℕ) : (m : ℤ).testBit k = m.testBit k := rfl

theorem land_one (v : ℤ) : Int.land v 1 = bitOf v 0 := by
  cases v with
  | ofNat m =>
    show ((Nat.land m 1 : ℕ) : ℤ) = if m.testBit 0 then 1 else 0
    have h : Nat.land m 1 = m % 2 := Nat.and_one_is_mod m
    rw [h]
    rcases Nat.mod_two_eq_zero_or_one m with hm | hm <;> simp [hm, Nat.testBit_zero]
  | negSucc m =>
    show ((Nat.ldiff 1 m : ℕ) : ℤ) = if !(m.testBit 0) then 1 else 0
    have h : Nat.ldiff 1 m = if m.testBit 0 then 0 else 1 := by
      apply Nat.eq_of_testBit_eq
      intro k
      rw [Nat.testBit_ldiff]
      cases k with
      | zero => cases hb : m.testBit 0 <;> simp
      | succ k =>
        have h1 : Nat.testBit 1 (k + 1) = false := by simp [Nat.testBit_add_one]
        rw [h1]
        cases hb : m.testBit 0 <;> simp [h1]
    rw [h]
    cases hb : m.testBit 0 <;> simp

theorem land_mask_eq_emod (v : ℤ) (k : ℕ) : Int.land v ((2 ^ k - 1 : ℕ) : ℤ) = v % 2 ^ k := by
  cases v with
  | ofNat m =>
    show ((m &&& (2 ^ k - 1) : ℕ) : ℤ) = (m : ℤ) % 2 ^ k
    rw [Nat.and_two_pow_sub_one_eq_mod]
    push_cast
    rfl
  | negSucc m =>
    show ((Nat.ldiff (2 ^ k - 1) m : ℕ) : ℤ) = Int.negSucc m % 2 ^ k
    have hlt : m % 2 ^ k < 2 ^ k := Nat.mod_lt m (Nat.two_pow_pos k)
    have h : Nat.ldiff (2 ^ k - 1) m = 2 ^ k - (m % 2 ^ k + 1) := by
      apply Nat.eq_of_testBit_eq
      intro i
      rw [Nat.testBit_ldiff, Nat.testBit_two_pow_sub_one, Nat.testBit_two_pow_sub_succ hlt,
        Nat.testBit_mod_two_pow]
      by_cases hi : i < k <;> simp [hi]
    have hpos : (0 : ℤ) < 2 ^ k := by exact_mod_cast Nat.two_pow_pos k
    rw [h, Int.negSucc_emod m hpos, Nat.cast_sub hlt]
    push_cast
    ring

theorem shiftRight_land_one (v : ℤ) (k : ℕ) : Int.land (v >>> k) 1 = bitOf v k := by
  rw [land_one, bitOf, testBit_shiftRight, Nat.add_zero]
  rfl

theorem testBit_byte (v : ℤ) (s : ℕ) {k : ℕ} (hk : k < 8) :
    (Int.land (v >>> s) 0xFF).testBit k = v.testBit (s + k) := by
  have h : (0xFF : ℤ).testBit k = true := by
    show Nat.testBit (2 ^ 8 - 1) k = true
    rw [Nat.testBit_two_pow_sub_one]
    exact decide_eq_true hk
  rw [Int.testBit_land, h, Bool.and_true, testBit_shiftRight]

theorem bitOf_byte (v : ℤ) (s : ℕ) {k : ℕ} (hk : k < 8) :
    bitOf (Int.land (v >>> s) 0xFF) k = bitOf v (s + k) := by
  unfold bitOf
  rw [testBit_byte v s hk]

/-! ## Setting bits one by one -/

/-- `w = 0; for i in range(n): if p[i]: w |= 1 << i`. -/
def orBits {n : ℕ} (p : Fin n → Bool) : ℕ :=
  (List.finRange n).foldl (fun w i => if p i then w ||| (1 <<< i.val) else w) 0

theorem orBits_succ {n : ℕ} (p : Fin (n + 1) → Bool) :
    orBits p = if p (Fin.last n) then orBits (fun i => p i.castSucc) ||| (1 <<< n)
      else orBits (fun i => p i.castSucc) := by
  simp only [orBits, List.finRange_succ_last, List.foldl_append, List.foldl_map, List.foldl_cons,
    List.foldl_nil, Fin.val_castSucc, Fin.val_last]

theorem orBits_lt {n : ℕ} (p : Fin n → Bool) : orBits p < 2 ^ n := by
  induction n with
  | zero => simp [orBits]
  | succ n ih =>
    have h := ih (fun i => p i.castSucc)
    have hlt : orBits (fun i => p i.castSucc) < 2 ^ (n + 1) :=
      h.trans (Nat.pow_lt_pow_right (by decide) (Nat.lt_succ_self n))
    rw [orBits_succ]
    split_ifs
    · apply Nat.or_lt_two_pow hlt
      rw [Nat.one_shiftLeft]
      exact Nat.pow_lt_pow_right (by decide) (Nat.lt_succ_self n)
    · exact hlt

theorem orBits_eq_sum {n : ℕ} (p : Fin n → Bool) :
    orBits p = ∑ i, if p i then 2 ^ i.val else 0 := by
  induction n with
  | zero => rfl
  | succ n ih =>
    have h := orBits_lt (fun i => p i.castSucc)
    rw [orBits_succ, Fin.sum_univ_castSucc]
    simp only [Fin.val_castSucc, ← ih (fun i => p i.castSucc)]
    split_ifs
    · have hor := Nat.two_pow_add_eq_or_of_lt h 1
      rw [Nat.mul_one] at hor
      rw [Nat.one_shiftLeft, Nat.or_comm, ← hor, Fin.val_last, Nat.add_comm]
    · rw [Nat.add_zero]

theorem testBit_orBits {n : ℕ} (p : Fin n → Bool) (k : ℕ) :
    (orBits p).testBit k = if h : k < n then p ⟨k, h⟩ else false := by
  induction n with
  | zero => simp [orBits]
  | succ n ih =>
    rw [orBits_succ]
    rcases Nat.lt_trichotomy k n with hk | rfl | hk
    · rw [dif_pos (hk.trans (Nat.lt_succ_self n))]
      split_ifs <;> simp [ih, hk, Nat.one_shiftLeft, hk.ne']
    · rw [dif_pos (Nat.lt_succ_self k)]
      have hl : p ⟨k, Nat.lt_succ_self k⟩ = p (Fin.last k) := rfl
      split_ifs with h <;> simp [ih, h, hl, Nat.one_shiftLeft]
    · have h1 : ¬ k < n := hk.not_gt
      rw [dif_neg (by omega)]
      split_ifs <;> simp [ih, h1, Nat.one_shiftLeft, hk.ne]

/-! ## Shifting while adding -/

/-- `w = 0; for a in xs: w = (w << 1) + a`. -/
def shiftAdd (xs : List ℤ) : ℤ := xs.foldl (fun w a => (w <<< (1 : ℕ)) + a) 0

theorem shiftAdd_append_singleton (xs : List ℤ) (a : ℤ) :
    shiftAdd (xs ++ [a]) = 2 * shiftAdd xs + a := by
  simp only [shiftAdd, List.foldl_append, List.foldl_cons, List.foldl_nil, Int.shiftLeft_eq]
  ring

theorem shiftAdd_ofFn {n : ℕ} (s : Fin n → ℤ) :
    shiftAdd (List.ofFn s) = ∑ i : Fin n, s i.rev * 2 ^ i.val := by
  induction n with
  | zero => rfl
  | succ n ih =>
    rw [List.ofFn_succ_last, shiftAdd_append_singleton, ih, Fin.sum_univ_succ, Finset.mul_sum]
    simp only [Fin.rev_zero, Fin.val_zero, pow_zero, mul_one, Fin.rev_succ, Fin.val_succ, pow_succ]
    rw [add_comm]
    refine congrArg (s (Fin.last n) + ·) (Finset.sum_congr rfl fun i _ => ?_)
    ring

end Bits
