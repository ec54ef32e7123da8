import Mathlib.Data.List.Basic
import Mathlib.Data.Nat.Notation

/-! Bytes written out as pairs of hexadecimal digits with blanks between them. -/

namespace Hex

def digit (c : Char) : Option ℕ :=
  if '0' ≤ c ∧ c ≤ '9' then some (c.toNat - 48)
  else if 'a' ≤ c ∧ c ≤ 'f' then some (c.toNat - 87)
  else none

theorem digit_digitChar {k : ℕ} (h : k < 16) : digit (Nat.digitChar k) = some k := by
  have hall : ∀ k : Fin 16, digit (Nat.digitChar k) = some k.val := by decide
  exact hall ⟨k, h⟩

def byte (x y : Char) : Option UInt8 := do
  let high ← digit x
  let low ← digit y
  return UInt8.ofNat (16 * high + low)

def pair (b : UInt8) : List Char := [Nat.digitChar (b.toNat / 16), Nat.digitChar (b.toNat % 16)]

theorem byte_pair (b : UInt8) :
    byte (Nat.digitChar (b.toNat / 16)) (Nat.digitChar (b.toNat % 16)) = some b := by
  have hlt := b.toNat_lt
  have hhigh : digit (Nat.digitChar (b.toNat / 16)) = some (b.toNat / 16) :=
    digit_digitChar (by omega)
  have hlow : digit (Nat.digitChar (b.toNat % 16)) = some (b.toNat % 16) :=
    digit_digitChar (by omega)
  simp only [byte, hhigh, hlow, Option.bind_eq_bind, Option.bind_some, Nat.div_add_mod,
    UInt8.ofNat_toNat]
  rfl

def text (data : List UInt8) : List Char := [' '].intercalate (data.map pair)

def readBytes : List Char → Option (List UInt8)
  | [] => some []
  | [x, y] => do return [← byte x y]
  | x :: y :: ' ' :: rest => do return (← byte x y) :: (← readBytes rest)
  | _ => none

theorem text_cons_cons (b c : UInt8) (data : List UInt8) :
    text (b :: c :: data) = Nat.digitChar (b.toNat / 16) :: Nat.digitChar (b.toNat % 16) :: ' ' ::
      text (c :: data) := by
  simp only [text, List.map_cons, List.intercalate_cons_cons, pair, List.cons_append,
    List.nil_append]

theorem readBytes_text (data : List UInt8) : readBytes (text data) = some data := by
  induction data with
  | nil => rfl
  | cons b data ih =>
    cases data with
    | nil =>
      show (do return [← byte (Nat.digitChar (b.toNat / 16)) (Nat.digitChar (b.toNat % 16))]) = _
      rw [byte_pair]
      rfl
    | cons c data =>
      rw [text_cons_cons, readBytes, byte_pair, ih]
      · rfl

end Hex
