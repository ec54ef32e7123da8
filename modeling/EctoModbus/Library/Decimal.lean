import Mathlib.Data.List.Basic
import Mathlib.Data.Int.Notation

/-! Numbers written out in decimal, alone and between other texts. -/

namespace Decimal

theorem toList_toString (n : ℕ) : (toString n).toList = Nat.toDigits 10 n := by
  rw [Nat.toString_eq_repr, Nat.toList_repr]

theorem toString_inj {a b : ℕ} : toString a = toString b ↔ a = b := by
  constructor
  · intro h
    have hd : Nat.toDigits 10 a = Nat.toDigits 10 b := by
      simpa only [toList_toString] using congrArg String.toList h
    have hn := congrArg (fun l => Nat.ofDigitChars 10 l 0) hd
    simpa only [Nat.ofDigitChars_ten_toDigits] using hn
  · exact congrArg toString

theorem toString_natCast (n : ℕ) : toString (n : ℤ) = toString n := by
  rw [Int.toString_eq_repr, Int.repr_eq_if, if_pos (Int.natCast_nonneg n), Int.toNat_natCast,
    Nat.toString_eq_repr]

/-- Two lists are cut at the same place by the first occurrence of a separator. -/
theorem append_cons_inj {α : Type} {x : α} {l l' r r' : List α} (hl : x ∉ l) (hl' : x ∉ l')
    (h : l ++ x :: r = l' ++ x :: r') : l = l' ∧ r = r' := by
  induction l generalizing l' with
  | nil =>
    cases l' with
    | nil => exact ⟨rfl, (List.cons.inj h).2⟩
    | cons b l' => exact absurd ((List.cons.inj h).1 ▸ List.mem_cons_self) hl'
  | cons a l ih =>
    cases l' with
    | nil => exact absurd ((List.cons.inj h).1 ▸ List.mem_cons_self) hl
    | cons b l' =>
      obtain ⟨hab, hrest⟩ := List.cons.inj h
      rw [List.mem_cons, not_or] at hl hl'
      obtain ⟨hll, hrr⟩ := ih hl.2 hl'.2 hrest
      exact ⟨by rw [hab, hll], hrr⟩

/-- A separator that starts with something other than a digit keeps two numbers apart. -/
theorem separated_inj {sep : String} {x : Char} {tail : List Char} (hs : sep.toList = x :: tail)
    (hx : x.isDigit = false) {a b c d : ℕ} :
    toString a ++ sep ++ toString b = toString c ++ sep ++ toString d ↔ a = c ∧ b = d := by
  have hnot : ∀ n : ℕ, x ∉ Nat.toDigits 10 n := by
    intro n hm
    have hdigit := Nat.isDigit_of_mem_toDigits (by decide) (by decide) hm
    rw [hdigit] at hx
    cases hx
  constructor
  · intro h
    have hl := congrArg String.toList h
    simp only [String.toList_append, toList_toString, hs, List.append_assoc, List.cons_append] at hl
    obtain ⟨hac, hbd⟩ := append_cons_inj (hnot a) (hnot c) hl
    have hbd' := List.append_cancel_left hbd
    rw [← toList_toString, ← toList_toString, String.toList_inj, toString_inj] at hac hbd'
    exact ⟨hac, hbd'⟩
  · rintro ⟨rfl, rfl⟩
    rfl

end Decimal
