import EctoModbus.Devices.BinarySensorDefs
import EctoModbus.Devices.InputRegister
import EctoModbus.Devices.RelayWord

/-! What commands leave in the contact sensor. Its register is the relay's word of the channels
its list has room for: ten channels are stored in eight places, so two places are shared. -/

namespace Ecto
open Python Bits BlockTable

namespace EctoCH10BinarySensor

/-- The place of channel `c` in the list; the negative indices of channels 8 and 9 count from the
end. -/
def slot (c : Fin 10) : Fin 8 := ⟨(7 + 8 - c.val) % 8, Nat.mod_lt _ (by decide)⟩

theorem index_slot (c : Fin 10) : index 8 (7 - (c : ℤ)) = some (slot c) := by
  decide +revert

theorem slot_msbChannel (c : Fin 8) : slot (EctoRelay10CH.msbChannel c) = c.rev := by
  decide +revert

def stored (switch : Fin 8 → ℤ) : ℤ := shiftAdd (List.ofFn switch) <<< (8 : ℕ)

/-- The channels of a list of states; 8 and 9 have no place of their own. -/
def wired (switch : Fin 8 → ℤ) : Fin 10 → ℤ :=
  Fin.addCases (m := 8) (n := 2) (fun i => switch i.rev) fun _ => 0

theorem wired_msb (switch : Fin 8 → ℤ) (i : Fin 8) :
    wired switch (EctoRelay10CH.msbChannel i) = switch i.rev := Fin.addCases_left ..

theorem wired_lsb (switch : Fin 8 → ℤ) (i : Fin 2) :
    wired switch (EctoRelay10CH.lsbChannel i) = 0 := Fin.addCases_right ..

theorem wired_bits {switch : Fin 8 → ℤ} (h : ∀ i, switch i = 0 ∨ switch i = 1) (c : Fin 10) :
    wired switch c = 0 ∨ wired switch c = 1 := by
  induction c using EctoRelay10CH.channel_cases with
  | hm i =>
    rw [wired_msb]
    exact h i.rev
  | hl i => exact Or.inl (wired_lsb switch i)

theorem stored_eq_finalValue {switch : Fin 8 → ℤ} (h : ∀ i, switch i = 0 ∨ switch i = 1) :
    stored switch = EctoRelay10CH.finalValue (wired switch) := by
  have h8 : oneIf (wired switch 8) = 0 := congrArg oneIf (wired_lsb switch 0)
  have h9 : oneIf (wired switch 9) = 0 := congrArg oneIf (wired_lsb switch 1)
  rw [EctoRelay10CH.finalValue_eq_sum, h8, h9, stored, shiftAdd_ofFn, Int.shiftLeft_eq,
    Finset.sum_mul]
  simp only [wired_msb, oneIf_of_bit (h _), mul_zero, add_zero]
  apply Finset.sum_congr rfl
  intro i _
  ring

theorem decode_stored {switch : Fin 8 → ℤ} (h : ∀ i, switch i = 0 ∨ switch i = 1) :
    decode (stored switch) = wired switch := by
  rw [stored_eq_finalValue h]
  exact EctoRelay10CH.decode_finalValue_of_bits (wired_bits h)

theorem wired_injective : Function.Injective wired := by
  intro s t h
  funext i
  have hi := congrFun h (EctoRelay10CH.msbChannel i.rev)
  rwa [wired_msb, wired_msb, Fin.rev_rev] at hi

theorem stored_inj {s t : Fin 8 → ℤ} (hs : ∀ i, s i = 0 ∨ s i = 1) (ht : ∀ i, t i = 0 ∨ t i = 1)
    (h : stored s = stored t) : s = t := by
  apply wired_injective
  rw [← decode_stored hs, ← decode_stored ht, h]

/-! ## Methods -/

variable {σ : Type} [ModbusSlave σ] [LawfulModbusSlave σ]

def word (d : EctoCH10BinarySensor σ) : ℤ := d.input 0x10

structure Holds (d : EctoCH10BinarySensor σ) (switch : Fin 8 → ℤ) : Prop where
  input : ∃ info, d.toEctoDevice.HasInput 0x10 (some .onRegisterRead) info (stored switch)
  list : d.switch = switch
  bits : ∀ i, switch i = 0 ∨ switch i = 1

variable {d : EctoCH10BinarySensor σ} {switch : Fin 8 → ℤ}

theorem Holds.word_eq (h : Holds d switch) : d.word = stored switch := by
  obtain ⟨info, hi⟩ := h.input
  exact hi.input_eq

theorem setSwitchState_same (h : Holds d switch) {c : Fin 10} {s : ℤ} (hs : s = switch (slot c)) :
    setSwitchState (c : ℤ) s d = .ok () d := by
  simp only [setSwitchState, PyM.get_bind, index_slot, PyM.ofOption_some, pure_bind, h.list, hs,
    ne_eq, not_true_eq_false, if_false, PyM.pure_run]

theorem setSwitchState_ne (h : Holds d switch) {c : Fin 10} {s : ℤ} (hs : s ≠ switch (slot c)) :
    ∃ d', setSwitchState (c : ℤ) s d = .ok () d' ∧
      Holds d' (Function.update switch (slot c) (oneIf s)) := by
  obtain ⟨info, hi⟩ := h.input
  let switch' := Function.update switch (slot c) (oneIf s)
  obtain ⟨slave', hok, hi'⟩ := hi.setRegister (stored switch')
  refine ⟨{ d with switch := switch', slave := slave' }, ?_, ⟨info, hi'⟩, rfl,
    bits_update h.bits _ (oneIf_bit s)⟩
  simp only [setSwitchState, PyM.get_bind, index_slot, PyM.ofOption_some, pure_bind, h.list, ne_eq,
    hs, not_false_eq_true, if_true, PyM.set_bind]
  exact PyM.zoom_ok hok

omit [LawfulModbusSlave σ] in
theorem after_setSwitchState (c : Fin 10) (state : ℤ) (d : EctoCH10BinarySensor σ) :
    (setSwitchState (c : ℤ) state).after d =
      if state ≠ d.switch (slot c) then
        let switch := Function.update d.switch (slot c) (oneIf state)
        { d with
          switch := switch
          toEctoDevice := (EctoDevice.setRegister 0x10 [stored switch]).after d.toEctoDevice }
      else d := by
  simp only [setSwitchState, PyM.after_get_bind, index_slot, PyM.ofOption_some, pure_bind]
  split_ifs
  · rw [PyM.after_set_bind, setValue, PyM.after_zoom]
    rfl
  · rfl

theorem setSwitchState_holds (h : Holds d switch) (c : Fin 10) {b : ℤ} (hb : b = 0 ∨ b = 1) :
    ∃ d', setSwitchState (c : ℤ) b d = .ok () d' ∧
      Holds d' (Function.update switch (slot c) b) := by
  by_cases hs : b = switch (slot c)
  · refine ⟨d, setSwitchState_same h hs, ?_⟩
    rwa [hs, Function.update_eq_self]
  · have hd := setSwitchState_ne h hs
    rwa [oneIf_of_bit hb] at hd

theorem init_input (addr : ℕ) (slave : σ) (hs : table slave = Table.empty) :
    ∃ d, init addr slave = .ok d ∧ d.switch = (fun _ => 0) ∧
      d.toEctoDevice.HasInput 0x10 (some .onRegisterRead)
        (EctoDevice.uidData DEVICE_TYPE CHANNEL_COUNT addr) 0 := by
  obtain ⟨d₀, d, h₀, h, hi⟩ := EctoDevice.init_input_ok DEVICE_TYPE CHANNEL_COUNT addr hs
    (by decide : 0 < 0x10) (some .onRegisterRead)
  refine ⟨⟨d, fun _ => 0⟩, ?_, rfl, hi⟩
  simp only [init, h₀, h, bind, Except.bind, pure, Except.pure]

theorem input_of_init {addr : ℕ} {slave : σ} (hs : table slave = Table.empty)
    {d : EctoCH10BinarySensor σ} (hd : init addr slave = .ok d) :
    d.switch = (fun _ => 0) ∧ d.toEctoDevice.HasInput 0x10 (some .onRegisterRead)
      (EctoDevice.uidData DEVICE_TYPE CHANNEL_COUNT addr) 0 :=
  (exists_ok_iff hd).1 (init_input addr slave hs)

theorem holds_of_init {addr : ℕ} {slave : σ} (hs : table slave = Table.empty)
    {d : EctoCH10BinarySensor σ} (hd : init addr slave = .ok d) : Holds d fun _ => 0 := by
  obtain ⟨hl, hi⟩ := input_of_init hs hd
  exact ⟨⟨_, hi⟩, hl, fun _ => Or.inl rfl⟩

theorem init_isSome (addr : ℕ) :
    (init addr (Table.empty : RegTable) :
      Except _ (EctoCH10BinarySensor RegTable)).toOption.isSome := by
  obtain ⟨d, hd, _⟩ := init_input addr (Table.empty : RegTable) rfl
  exact isSome_of_ok hd

def onTable (addr : ℕ) : EctoCH10BinarySensor RegTable :=
  (init addr Table.empty).toOption.get (init_isSome addr)

theorem init_onTable (addr : ℕ) : init addr Table.empty = .ok (onTable addr) :=
  eq_ok_get (init_isSome addr)

end EctoCH10BinarySensor
end Ecto
