import EctoModbus.Devices.RelayDefs
import EctoModbus.Library.Delivery

/-! The state word of the relay: where a channel's bit is, that encoding and decoding are
inverse on the ten channels, and what one pass of the decoding loops does. -/

namespace Ecto
open Python Bits

/-- Where the protocol puts channel `c` of the word: byte `c / 8`, byte 0 the high one, and in
it bit `c % 8`. -/
def bitPos (c : Fin 10) : ℕ := 8 * (1 - c.val / 8) + c.val % 8

/-- The ten channel states of a word; the other bits are reserved. -/
def decode (value : ℤ) (c : Fin 10) : ℤ := bitOf value (bitPos c)

theorem decode_bit (value : ℤ) (c : Fin 10) : decode value c = 0 ∨ decode value c = 1 :=
  bitOf_bit value _

theorem decode_zero : decode 0 = fun _ => 0 := funext fun _ => bitOf_zero _

namespace EctoRelay10CH

theorem bitPos_msbChannel (i : Fin 8) : bitPos (msbChannel i) = 8 + i.val := by
  simp only [bitPos, msbChannel, Fin.val_castAdd]
  omega

theorem bitPos_lsbChannel (i : Fin 2) : bitPos (lsbChannel i) = i.val := by
  simp only [bitPos, lsbChannel, Fin.val_natAdd]
  omega

theorem channel_cases {P : Fin 10 → Prop} (hm : ∀ i, P (msbChannel i)) (hl : ∀ i, P (lsbChannel i))
    (c : Fin 10) : P c := Fin.addCases (m := 8) (n := 2) hm hl c

/-! ## Encoding -/

def lsb (channels : Fin 10 → ℤ) : ℕ := orBits fun i => truthy (channels (lsbChannel i))

def msb (channels : Fin 10 → ℤ) : ℕ := orBits fun i => truthy (channels (msbChannel i))

theorem finalValue_eq (channels : Fin 10 → ℤ) :
    finalValue channels = (msb channels <<< 8) ||| lsb channels := rfl

theorem lsb_lt (channels : Fin 10 → ℤ) : lsb channels < 2 ^ 8 := by
  have h : lsb channels < 2 ^ 2 := orBits_lt _
  exact h.trans (by decide)

theorem testBit_finalValue (channels : Fin 10 → ℤ) (c : Fin 10) :
    (finalValue channels).testBit (bitPos c) = truthy (channels c) := by
  rw [finalValue_eq, Nat.testBit_or, Nat.testBit_shiftLeft]
  induction c using channel_cases with
  | hm i =>
    -- the low byte does not reach into the high one
    have hpow : 2 ^ 8 ≤ 2 ^ (8 + i.val) := Nat.pow_le_pow_right (by decide) (by omega)
    have hl : (lsb channels).testBit (8 + i.val) = false :=
      Nat.testBit_lt_two_pow ((lsb_lt channels).trans_le hpow)
    rw [bitPos_msbChannel, hl, Nat.add_sub_cancel_left, msb, testBit_orBits, dif_pos i.isLt]
    simp
  | hl i =>
    have h8 : ¬ 8 ≤ i.val := by omega
    rw [bitPos_lsbChannel, lsb, testBit_orBits, dif_pos i.isLt]
    simp [h8]

theorem decode_finalValue (channels : Fin 10 → ℤ) (c : Fin 10) :
    decode (finalValue channels) c = oneIf (channels c) := by
  rw [decode, bitOf, testBit_natCast, testBit_finalValue]
  rfl

theorem decode_finalValue_of_bits {channels : Fin 10 → ℤ}
    (h : ∀ c, channels c = 0 ∨ channels c = 1) : decode (finalValue channels) = channels := by
  funext c
  rw [decode_finalValue]
  rcases h c with hc | hc <;> rw [hc] <;> rfl

theorem finalValue_lt (channels : Fin 10 → ℤ) : finalValue channels < 2 ^ 16 := by
  have hm : msb channels <<< 8 < 2 ^ 16 := by
    have hlt : msb channels < 2 ^ 8 := orBits_lt _
    rw [Nat.shiftLeft_eq]
    omega
  have hl : lsb channels < 2 ^ 16 := (lsb_lt channels).trans (by decide)
  exact Nat.or_lt_two_pow hm hl

theorem orBits_truthy {n : ℕ} (f : Fin n → ℤ) :
    ((orBits fun i => truthy (f i) : ℕ) : ℤ) = ∑ i, oneIf (f i) * 2 ^ i.val := by
  rw [orBits_eq_sum]
  push_cast
  apply Finset.sum_congr rfl
  intro i _
  by_cases h : f i = 0 <;> simp [oneIf, truthy, h]

/-- The word as a number: `2 ^ (8 + c)` for each channel `c < 8` that is on, 1 for channel 8 and
2 for channel 9. -/
theorem finalValue_eq_sum (channels : Fin 10 → ℤ) :
    (finalValue channels : ℤ) = (∑ i : Fin 8, oneIf (channels (msbChannel i)) * 2 ^ (8 + i.val)) +
      oneIf (channels 8) + 2 * oneIf (channels 9) := by
  have hadd : finalValue channels = msb channels * 2 ^ 8 + lsb channels := by
    rw [finalValue_eq, ← Nat.shiftLeft_add_eq_or_of_lt (lsb_lt channels), Nat.shiftLeft_eq]
  have hl : (lsb channels : ℤ) = oneIf (channels 8) + 2 * oneIf (channels 9) := by
    rw [lsb, orBits_truthy, Fin.sum_univ_two]
    show oneIf (channels 8) * 2 ^ 0 + oneIf (channels 9) * 2 ^ 1 = _
    ring
  rw [hadd, Nat.cast_add, Nat.cast_mul, hl, msb, orBits_truthy, Finset.sum_mul, add_assoc]
  refine congrArg (· + _) (Finset.sum_congr rfl fun i _ => ?_)
  push_cast
  ring

/-! ## Decoding -/

variable {κ W : Type} {invoke : Call κ → PyM W Unit} {callbacks : Fin 10 → Option κ}

def updateChannels (invoke : Call κ → PyM W Unit) (callbacks : Fin 10 → Option κ)
    (states : Fin 10 → ℤ) (l : List (Fin 10)) (changed : Bool) : PyM ((Fin 10 → ℤ) × W) Bool :=
  l.foldlM (fun changed i => do
    let c ← updateChannel invoke callbacks i (states i)
    return changed || c) changed

/-- Both loops together are ten rounds with the decoded states. -/
theorem parseValue_eq (invoke : Call κ → PyM W Unit) (callbacks : Fin 10 → Option κ) (value : ℤ) :
    parseValue invoke callbacks value =
      updateChannels invoke callbacks (decode value) (List.finRange 10) false := by
  -- the loop over the high byte takes channels 0-7, the one over the low byte 8 and 9
  have hsplit : List.finRange 10 =
      (List.finRange 8).map msbChannel ++ (List.finRange 2).map lsbChannel := by decide
  have hm : ∀ i : Fin 8, Int.land (Int.land (value >>> (8 : ℕ)) 0xFF >>> i.val) 1 =
      decode value (msbChannel i) := by
    intro i
    rw [shiftRight_land_one, bitOf_byte _ _ i.isLt, decode, bitPos_msbChannel]
  have hl : ∀ i : Fin 2, Int.land (Int.land value 0xFF >>> i.val) 1 =
      decode value (lsbChannel i) := by
    intro i
    have h0 : value >>> (0 : ℕ) = value := Int.shiftRight_zero value
    rw [shiftRight_land_one, ← h0, bitOf_byte _ _ (by omega), decode, bitPos_lsbChannel, h0,
      Nat.zero_add]
  simp only [parseValue, updateChannels, hm, hl, hsplit, List.foldlM_append, List.foldlM_map]

variable {channels : Fin 10 → ℤ} {i : Fin 10} {s : ℤ} {w v : W} {k : κ}

theorem updateChannel_same (h : channels i = s) :
    updateChannel invoke callbacks i s (channels, w) = .ok false (channels, w) := by
  simp only [updateChannel, PyM.get_bind, h, ne_eq, not_true_eq_false, if_false]
  rfl

theorem updateChannel_silent (h : channels i ≠ s) (hc : callbacks i = none) :
    updateChannel invoke callbacks i s (channels, w) =
      .ok true (Function.update channels i s, w) := by
  simp only [updateChannel, PyM.get_bind, h, ne_eq, not_false_eq_true, if_true, hc]
  rfl

theorem updateChannel_ok (h : channels i ≠ s) (hc : callbacks i = some k)
    (hi : invoke ⟨k, i, s⟩ w = .ok () v) :
    updateChannel invoke callbacks i s (channels, w) =
      .ok true (Function.update channels i s, v) := by
  simp only [updateChannel, PyM.get_bind, h, ne_eq, not_false_eq_true, if_true, hc]
  rw [PyM.modify_bind]
  exact PyM.bind_ok (PyM.second_ok hi)

theorem updateChannel_error {e : PyException} (h : channels i ≠ s) (hc : callbacks i = some k)
    (hi : invoke ⟨k, i, s⟩ w = .error e v) :
    updateChannel invoke callbacks i s (channels, w) =
      .error e (Function.update channels i s, v) := by
  simp only [updateChannel, PyM.get_bind, h, ne_eq, not_false_eq_true, if_true, hc]
  rw [PyM.modify_bind]
  exact PyM.bind_error (PyM.second_error hi)

theorem updateChannel_cases (invoke : Call κ → PyM W Unit) (callbacks : Fin 10 → Option κ)
    (i : Fin 10) (s : ℤ) (channels : Fin 10 → ℤ) (w : W) :
    (channels i = s ∧ updateChannel invoke callbacks i s (channels, w) = .ok false (channels, w)) ∨
    (channels i ≠ s ∧ callbacks i = none ∧
      updateChannel invoke callbacks i s (channels, w) =
        .ok true (Function.update channels i s, w)) ∨
    (∃ k v, channels i ≠ s ∧ callbacks i = some k ∧ invoke ⟨k, i, s⟩ w = .ok () v ∧
      updateChannel invoke callbacks i s (channels, w) =
        .ok true (Function.update channels i s, v)) ∨
    (∃ k e v, channels i ≠ s ∧ callbacks i = some k ∧ invoke ⟨k, i, s⟩ w = .error e v ∧
      updateChannel invoke callbacks i s (channels, w) =
        .error e (Function.update channels i s, v)) := by
  by_cases h : channels i = s
  · exact Or.inl ⟨h, updateChannel_same h⟩
  · apply Or.inr
    cases hc : callbacks i with
    | none => exact Or.inl ⟨h, rfl, updateChannel_silent h hc⟩
    | some k =>
      apply Or.inr
      cases hi : invoke ⟨k, i, s⟩ w with
      | ok u v => exact Or.inl ⟨k, v, h, rfl, hi, updateChannel_ok h hc hi⟩
      | error e v => exact Or.inr ⟨k, e, v, h, rfl, hi, updateChannel_error h hc hi⟩

/-- The world once the callback of channel `i`, if it has one, has run. -/
def notified (invoke : Call κ → PyM W Unit) (callbacks : Fin 10 → Option κ) (i : Fin 10) (s : ℤ)
    (w : W) : W :=
  match callbacks i with
  | some k => (invoke ⟨k, i, s⟩).after w
  | none => w

theorem notified_none (h : callbacks i = none) : notified invoke callbacks i s w = w := by
  simp only [notified, h]

theorem notified_some (h : callbacks i = some k) :
    notified invoke callbacks i s w = (invoke ⟨k, i, s⟩).after w := by
  simp only [notified, h]

theorem after_updateChannel (h : channels i ≠ s) :
    (updateChannel invoke callbacks i s).after (channels, w) =
      (Function.update channels i s, notified invoke callbacks i s w) := by
  cases hc : callbacks i with
  | none => rw [PyM.after_ok (updateChannel_silent h hc), notified_none hc]
  | some k =>
    rw [notified_some hc]
    cases hi : invoke ⟨k, i, s⟩ w with
    | ok u v => rw [PyM.after_ok (updateChannel_ok h hc hi), PyM.after_ok hi]
    | error e v => rw [PyM.after_error (updateChannel_error h hc hi), PyM.after_error hi]

variable {states : Fin 10 → ℤ} {l : List (Fin 10)}

theorem updateChannels_preserves {P : (Fin 10 → ℤ) × W → Prop}
    (h : ∀ i channels w, channels i ≠ states i → P (channels, w) →
      P (Function.update channels i (states i), notified invoke callbacks i (states i) w))
    (l : List (Fin 10)) (changed : Bool) {p : (Fin 10 → ℤ) × W} (hp : P p) :
    P ((updateChannels invoke callbacks states l changed).after p) := by
  have hround : ∀ i, PyM.Moves (fun p q => P p → P q)
      (updateChannel invoke callbacks i (states i)) := by
    intro i p hp
    obtain ⟨channels, w⟩ := p
    by_cases hs : channels i = states i
    · rwa [PyM.after_ok (updateChannel_same hs)]
    · rw [after_updateChannel hs]
      exact h i channels w hs hp
  have hrefl : ∀ p : (Fin 10 → ℤ) × W, P p → P p := fun _ hp => hp
  have htrans : ∀ p q r : (Fin 10 → ℤ) × W, (P p → P q) → (P q → P r) → P p → P r :=
    fun _ _ _ hpq hqr hp => hqr (hpq hp)
  have hbody : ∀ b i, PyM.Moves (fun p q => P p → P q)
      (do let c ← updateChannel invoke callbacks i (states i); return b || c) :=
    fun b i => PyM.Moves.bind htrans (hround i) fun c => PyM.Moves.pure hrefl (b || c)
  exact PyM.Moves.foldlM hrefl htrans hbody l changed p hp

theorem updateChannels_cons_ok {changed b : Bool} {p q : (Fin 10 → ℤ) × W}
    (h : updateChannel invoke callbacks i (states i) p = .ok b q) :
    updateChannels invoke callbacks states (i :: l) changed p =
      updateChannels invoke callbacks states l (changed || b) q := by
  unfold updateChannels
  rw [List.foldlM_cons]
  exact PyM.bind_ok (PyM.bind_ok h)

theorem updateChannels_cons_error {changed : Bool} {p q : (Fin 10 → ℤ) × W} {e : PyException}
    (h : updateChannel invoke callbacks i (states i) p = .error e q) :
    updateChannels invoke callbacks states (i :: l) changed p = .error e q := by
  unfold updateChannels
  rw [List.foldlM_cons]
  exact PyM.bind_error (PyM.bind_error h)

def setAll (states channels : Fin 10 → ℤ) (l : List (Fin 10)) (i : Fin 10) : ℤ :=
  if i ∈ l then states i else channels i

theorem setAll_finRange (states channels : Fin 10 → ℤ) :
    setAll states channels (List.finRange 10) = states := by
  funext i
  exact if_pos (List.mem_finRange i)

theorem setAll_update : setAll states (Function.update channels i (states i)) l =
    setAll states channels (i :: l) := by
  funext j
  by_cases hj : j = i
  · subst hj
    simp [setAll]
  · simp [setAll, hj]

theorem setAll_cons_of_eq (h : channels i = states i) :
    setAll states channels (i :: l) = setAll states channels l := by
  rw [← setAll_update, ← h, Function.update_eq_self]

theorem updateChannels_ok {changed c : Bool} {w v : W} {channels' : Fin 10 → ℤ}
    (he : updateChannels invoke callbacks states l changed (channels, w) = .ok c (channels', v)) :
    channels' = setAll states channels l := by
  induction l generalizing changed channels w with
  | nil =>
    cases he
    funext i
    simp [setAll]
  | cons i l ih =>
    rcases updateChannel_cases invoke callbacks i (states i) channels w with
      ⟨h, hu⟩ | ⟨h, hc, hu⟩ | ⟨k, v', h, hc, hi, hu⟩ | ⟨k, e, v', h, hc, hi, hu⟩
    · rw [updateChannels_cons_ok hu] at he
      rw [ih he, setAll_cons_of_eq h]
    · rw [updateChannels_cons_ok hu] at he
      rw [ih he, setAll_update]
    · rw [updateChannels_cons_ok hu] at he
      rw [ih he, setAll_update]
    · rw [updateChannels_cons_error hu] at he
      cases he

theorem updateChannels_idle (h : ∀ i ∈ l, channels i = states i) (changed : Bool) (w : W) :
    updateChannels invoke callbacks states l changed (channels, w) = .ok changed (channels, w) := by
  induction l with
  | nil => rfl
  | cons i l ih =>
    have hi : channels i = states i := h i List.mem_cons_self
    have hl : ∀ j ∈ l, channels j = states j := fun j hj => h j (List.mem_cons_of_mem _ hj)
    rw [updateChannels_cons_ok (updateChannel_same hi), Bool.or_false]
    exact ih hl

theorem updateChannels_returns (h : ∀ call w, ∃ v, invoke call w = .ok () v)
    (callbacks : Fin 10 → Option κ) (states : Fin 10 → ℤ) (l : List (Fin 10)) (changed : Bool)
    (p : (Fin 10 → ℤ) × W) :
    ∃ c q, updateChannels invoke callbacks states l changed p = .ok c q := by
  induction l generalizing changed p with
  | nil => exact ⟨changed, p, rfl⟩
  | cons i l ih =>
    rcases updateChannel_cases invoke callbacks i (states i) p.1 p.2 with
      ⟨_, hu⟩ | ⟨_, _, hu⟩ | ⟨k, v, _, _, _, hu⟩ | ⟨k, e, v, _, _, hi, _⟩
    · rw [updateChannels_cons_ok hu]
      exact ih _ _
    · rw [updateChannels_cons_ok hu]
      exact ih _ _
    · rw [updateChannels_cons_ok hu]
      exact ih _ _
    · obtain ⟨v', hv⟩ := h ⟨k, i, states i⟩ p.2
      rw [hv] at hi
      cases hi

/-! ## Notifications -/

/-- The calls still to be made: one for each channel that differs and has a callback. -/
def pendingCalls (callbacks : Fin 10 → Option κ) (states channels : Fin 10 → ℤ)
    (l : List (Fin 10)) : List (Call κ) :=
  l.filterMap fun i =>
    if channels i = states i then none else (callbacks i).map fun k => ⟨k, i, states i⟩

theorem pendingCalls_cons_of_none (h : channels i = states i ∨ callbacks i = none) :
    pendingCalls callbacks states channels (i :: l) = pendingCalls callbacks states channels l := by
  apply List.filterMap_cons_none
  rcases h with h | h <;> simp [h]

theorem pendingCalls_cons_of_call (h : channels i ≠ states i) (hc : callbacks i = some k) :
    pendingCalls callbacks states channels (i :: l) =
      ⟨k, i, states i⟩ :: pendingCalls callbacks states channels l := by
  apply List.filterMap_cons_some
  simp [h, hc]

theorem pendingCalls_update (hi : i ∉ l) :
    pendingCalls callbacks states (Function.update channels i s) l =
      pendingCalls callbacks states channels l := by
  apply List.filterMap_congr
  intro j hj
  have hji : j ≠ i := by
    rintro rfl
    exact hi hj
  rw [Function.update_of_ne hji]

open Delivery

theorem frame_cons {channels' : Fin 10 → ℤ}
    (h : ∀ j, j ∉ l → channels' j = Function.update channels i s j) :
    ∀ j, j ∉ i :: l → channels' j = channels j := by
  intro j hj
  rw [List.mem_cons, not_or] at hj
  rw [h j hj.2, Function.update_of_ne hj.1]

theorem updateChannels_traced_ok {handle : Call κ → PyM W Unit} (hl : l.Nodup) {changed c : Bool}
    {t t' : List (Call κ)} {w v : W} {channels' : Fin 10 → ℤ}
    (he : updateChannels (traced handle) callbacks states l changed (channels, t, w) =
      .ok c (channels', t', v)) :
    t' = t ++ pendingCalls callbacks states channels l := by
  induction l generalizing changed channels t w with
  | nil =>
    cases he
    simp [pendingCalls]
  | cons i l ih =>
    obtain ⟨hn, hl⟩ := List.nodup_cons.1 hl
    rcases updateChannel_cases (traced handle) callbacks i (states i) channels (t, w) with
      ⟨h, hu⟩ | ⟨h, hc, hu⟩ | ⟨k, v', h, hc, hi, hu⟩ | ⟨k, e, v', h, hc, hi, hu⟩
    · rw [updateChannels_cons_ok hu] at he
      rw [ih hl he, pendingCalls_cons_of_none (Or.inl h)]
    · rw [updateChannels_cons_ok hu] at he
      rw [ih hl he, pendingCalls_update hn, pendingCalls_cons_of_none (Or.inr hc)]
    · obtain ⟨t₁, w₁⟩ := v'
      rw [updateChannels_cons_ok hu] at he
      rw [ih hl he, pendingCalls_update hn, pendingCalls_cons_of_call h hc,
        traced_ok_trace hi, List.append_assoc]
      rfl
    · rw [updateChannels_cons_error hu] at he
      cases he

theorem updateChannels_traced_error {handle : Call κ → PyM W Unit} (hl : l.Nodup) {changed : Bool}
    {t t' : List (Call κ)} {w v : W} {channels' : Fin 10 → ℤ} {e : PyException}
    (he : updateChannels (traced handle) callbacks states l changed (channels, t, w) =
      .error e (channels', t', v)) :
    (∀ j, j ∉ l → channels' j = channels j) ∧ ∃ sent, sent ≠ [] ∧ t' = t ++ sent ∧
      pendingCalls callbacks states channels l =
        sent ++ pendingCalls callbacks states channels' l := by
  induction l generalizing changed channels t w with
  | nil => cases he
  | cons i l ih =>
    obtain ⟨hn, hl⟩ := List.nodup_cons.1 hl
    rcases updateChannel_cases (traced handle) callbacks i (states i) channels (t, w) with
      ⟨h, hu⟩ | ⟨h, hc, hu⟩ | ⟨k, v', h, hc, hi, hu⟩ | ⟨k, e', v', h, hc, hi, hu⟩
    · rw [updateChannels_cons_ok hu] at he
      obtain ⟨hj, sent, hs, ht, hp⟩ := ih hl he
      have hi : channels' i = states i := by rw [hj i hn, h]
      refine ⟨fun j hm => hj j fun hm' => hm (List.mem_cons_of_mem _ hm'), sent, hs, ht, ?_⟩
      rw [pendingCalls_cons_of_none (Or.inl h), hp, pendingCalls_cons_of_none (Or.inl hi)]
    · rw [updateChannels_cons_ok hu] at he
      obtain ⟨hj, sent, hs, ht, hp⟩ := ih hl he
      refine ⟨frame_cons hj, sent, hs, ht, ?_⟩
      rw [pendingCalls_cons_of_none (Or.inr hc), ← pendingCalls_update hn, hp,
        pendingCalls_cons_of_none (Or.inr hc)]
    · obtain ⟨t₁, w₁⟩ := v'
      rw [updateChannels_cons_ok hu] at he
      obtain ⟨hj, sent, hs, ht, hp⟩ := ih hl he
      have hset : channels' i = states i := by rw [hj i hn, Function.update_self]
      refine ⟨frame_cons hj, ⟨k, i, states i⟩ :: sent, List.cons_ne_nil _ _, ?_, ?_⟩
      · rw [ht, traced_ok_trace hi, List.append_assoc]
        rfl
      · rw [pendingCalls_cons_of_call h hc, ← pendingCalls_update hn, hp, List.cons_append,
          pendingCalls_cons_of_none (Or.inl hset)]
    · -- the callback that raises has been called, and its channel is already set
      rw [updateChannels_cons_error hu] at he
      cases he
      have hset : Function.update channels i (states i) i = states i := Function.update_self ..
      refine ⟨frame_cons fun _ _ => rfl, [⟨k, i, states i⟩], List.cons_ne_nil _ _,
        traced_error_trace hi, ?_⟩
      rw [pendingCalls_cons_of_call h hc, pendingCalls_cons_of_none (Or.inl hset),
        pendingCalls_update hn]
      rfl

end EctoRelay10CH
end Ecto
