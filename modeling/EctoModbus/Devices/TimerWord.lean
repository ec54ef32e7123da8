import EctoModbus.Devices.RelayDefs
import Mathlib.Tactic.Linarith

/-! The timer word of the relay: bit 15 is the initial state, and the bits below it keep the delay
in units of 500 ms modulo 2^15. -/

namespace Ecto
open Python

namespace EctoRelay10CH

/-- The word as a number: the initial state above a delay of 15 bits. -/
theorem timerValue_eq (initialState : Bool) (t : ℚ) :
    ∃ n : ℕ, n < 2 ^ 15 ∧ (n : ℤ) = trunc (t * 2) % 2 ^ 15 ∧
      timerValue initialState t = ((initialState.toNat * 2 ^ 15 + n : ℕ) : ℤ) := by
  have hmask : Int.land (trunc (t * 2)) 0x7FFF = trunc (t * 2) % 2 ^ 15 :=
    Bits.land_mask_eq_emod _ 15
  have hnonneg : 0 ≤ trunc (t * 2) % 2 ^ 15 := Int.emod_nonneg _ (by decide)
  obtain ⟨n, hn⟩ := Int.eq_ofNat_of_zero_le hnonneg
  have hlt : n < 2 ^ 15 := by omega
  refine ⟨n, hlt, hn.symm, ?_⟩
  rw [timerValue, hmask, hn]
  cases initialState with
  | false =>
    have hor : 0 ||| n = 0 + n := by rw [Nat.zero_or, Nat.zero_add]
    exact congrArg Nat.cast hor
  | true =>
    have hor : 2 ^ 15 * 1 ||| n = 2 ^ 15 * 1 + n := (Nat.two_pow_add_eq_or_of_lt hlt 1).symm
    exact congrArg Nat.cast hor

/-! ## The delay asked for -/

/-- A delay in units of 500 ms, cut to what 15 bits hold; a negative one is no delay. -/
def delayUnits (t : ℚ) : ℤ := if 0 ≤ t then min ⌊t * 2⌋ 32767 else 0

structure Encodes (w : ℤ) (initialState : Bool) (t : ℚ) : Prop where
  initial : w.testBit 15 = initialState
  delay : Int.land w 0x7FFF = delayUnits t

/-- The low 15 bits of the delay are the delay itself, or happen to be what it is cut to. -/
def DelayFits (t : ℚ) : Prop :=
  (-(1 / 2) < t ∧ t < 16384) ∨ (16384 ≤ t ∧ ⌊t * 2⌋ % 32768 = 32767) ∨
    (t ≤ -(1 / 2) ∧ ⌈t * 2⌉ % 32768 = 0)

theorem delay_timerValue (initialState : Bool) (t : ℚ) :
    Int.land (timerValue initialState t) 0x7FFF = trunc (t * 2) % 2 ^ 15 := by
  obtain ⟨n, hlt, hn, hw⟩ := timerValue_eq initialState t
  have hmask : Int.land (timerValue initialState t) 0x7FFF = timerValue initialState t % 2 ^ 15 :=
    Bits.land_mask_eq_emod _ 15
  rw [hmask, hw, ← hn]
  omega

theorem initial_timerValue (initialState : Bool) (t : ℚ) :
    (timerValue initialState t).testBit 15 = initialState := by
  obtain ⟨n, hlt, _, hw⟩ := timerValue_eq initialState t
  have hn : n.testBit 15 = false := Nat.testBit_lt_two_pow hlt
  rw [hw, Bits.testBit_natCast]
  cases initialState with
  | false => simpa using hn
  | true =>
    have hadd := Nat.testBit_two_pow_add_eq n 15
    rw [hn] at hadd
    simpa using hadd

theorem timerValue_ne (initialState : Bool) (t t' : ℚ) :
    timerValue initialState t ≠ timerValue (!initialState) t' := by
  intro h
  have hb := congrArg (fun w => Int.testBit w 15) h
  simp [initial_timerValue] at hb

theorem trunc_emod_eq_delayUnits_iff (t : ℚ) :
    trunc (t * 2) % 2 ^ 15 = delayUnits t ↔ DelayFits t := by
  unfold trunc delayUnits DelayFits
  by_cases h0 : 0 ≤ t
  · have h2 : 0 ≤ t * 2 := by linarith
    have hm : 0 ≤ ⌊t * 2⌋ := Int.floor_nonneg.2 h2
    have hlt : t < 16384 ↔ ⌊t * 2⌋ < 32768 := by
      rw [Int.floor_lt]
      push_cast
      constructor <;> intro h <;> linarith
    have hneg : -(1 / 2) < t := by linarith
    rw [if_pos h2, if_pos h0]
    by_cases hb : t < 16384
    · have hf := hlt.1 hb
      refine iff_of_true ?_ (Or.inl ⟨hneg, hb⟩)
      omega
    · have hf : ¬ ⌊t * 2⌋ < 32768 := fun h => hb (hlt.2 h)
      simp only [hb, hneg.not_ge, and_false, false_and, false_or, or_false, not_lt.1 hb, true_and]
      omega
  · have h2 : ¬ 0 ≤ t * 2 := by linarith
    have hc : ⌈t * 2⌉ ≤ 0 := Int.ceil_le.2 (by push_cast; linarith)
    have hgt : -(1 / 2) < t ↔ -1 < ⌈t * 2⌉ := by
      rw [Int.lt_ceil]
      push_cast
      constructor <;> intro h <;> linarith
    have hb : t < 16384 := by linarith
    rw [if_neg h2, if_neg h0]
    by_cases hn : -(1 / 2) < t
    · have hz : ⌈t * 2⌉ = 0 := by
        have h1 := hgt.1 hn
        omega
      rw [hz]
      exact iff_of_true rfl (Or.inl ⟨hn, hb⟩)
    · simp only [hn, hb.not_ge, false_and, false_or, not_lt.1 hn, true_and]
      rfl

theorem encodes_timerValue_iff (initialState : Bool) (t : ℚ) :
    Encodes (timerValue initialState t) initialState t ↔ DelayFits t := by
  rw [← trunc_emod_eq_delayUnits_iff, ← delay_timerValue initialState t]
  exact ⟨fun h => h.delay, fun h => ⟨initial_timerValue initialState t, h⟩⟩

end EctoRelay10CH
end Ecto
