import EctoModbus.Devices.BinarySensor
import EctoModbus.Devices.Relay
import EctoModbus.Library.Transition
import EctoModbus.Transport.Journal

/-! The two encoders of channel states side by side. A relay ORs one bit for each channel; a
contact sensor keeps its list in reverse and folds it. On the eight channels that both store they
write the same words, at the same calls. -/

namespace Ecto
open Python Transition BlockTable

namespace Encoders
open EctoRelay10CH EctoCH10BinarySensor

/-- A relay and a contact sensor, each on a slave of its own whose stores are kept. -/
abbrev Pair (σ κ : Type) := EctoRelay10CH (Journaled σ) κ × EctoCH10BinarySensor (Journaled σ)

/-- `set_switch_state(c, s)` with `c` in 0-7 and `s` 0 or 1. -/
abbrev Command := Fin 8 × Bool

section
variable {σ κ : Type} [ModbusSlave σ] [LawfulModbusSlave σ]

structure Fresh (p : Pair σ κ) : Prop where
  relay : ∃ addr slave, table slave = Table.empty ∧
    EctoRelay10CH.init addr (Journaled.start slave) = .ok p.1
  sensor : ∃ addr slave, table slave = Table.empty ∧
    EctoCH10BinarySensor.init addr (Journaled.start slave) = .ok p.2

def command (call : Command) (p : Pair σ κ) : Pair σ κ :=
  ((EctoRelay10CH.setSwitchState (call.1.val : ℤ) call.2.toInt).after p.1,
    (EctoCH10BinarySensor.setSwitchState (call.1.val : ℤ) call.2.toInt).after p.2)

def machine (σ κ : Type) [ModbusSlave σ] [LawfulModbusSlave σ] : Machine (Pair σ κ) Command where
  Init := Fresh
  Enabled _ _ := True
  step p call := command call p

/-- The words stored in register 0x10 so far. -/
def relayWords (p : Pair σ κ) : List (List ℤ) := p.1.slave.written 0x10

def sensorWords (p : Pair σ κ) : List (List ℤ) := p.2.slave.written 0x10

/-- Both devices are as before, or both have stored one word, the same. -/
def SameStore (p q : Pair σ κ) : Prop :=
  q = p ∨ ∃ w : ℤ, relayWords q = relayWords p ++ [[w]] ∧ sensorWords q = sensorWords p ++ [[w]]

end

/-! ## Eight states in the list of the sensor and in the channels of the relay -/

def switches (on : Fin 8 → Bool) (i : Fin 8) : ℤ := (on i.rev).toInt

def channels (on : Fin 8 → Bool) : Fin 10 → ℤ := wired (switches on)

theorem switches_bits (on : Fin 8 → Bool) (i : Fin 8) : switches on i = 0 ∨ switches on i = 1 :=
  toInt_bit _

theorem switches_update (on : Fin 8 → Bool) (c : Fin 8) (b : Bool) :
    switches (Function.update on c b) = Function.update (switches on) c.rev b.toInt := by
  funext i
  unfold switches
  by_cases hi : i = c.rev
  · rw [hi, Fin.rev_rev, Function.update_self, Function.update_self]
  · have hc : i.rev ≠ c := fun h => hi (by rw [← h, Fin.rev_rev])
    rw [Function.update_of_ne hi, Function.update_of_ne hc]

theorem channels_msbChannel (on : Fin 8 → Bool) (c : Fin 8) :
    channels on (msbChannel c) = (on c).toInt := by
  rw [channels, wired_msb, switches, Fin.rev_rev]

theorem decode_channels (on : Fin 8 → Bool) : decode (finalValue (channels on)) = channels on :=
  decode_finalValue_of_bits (wired_bits (switches_bits on))

theorem channels_update (on : Fin 8 → Bool) (c : Fin 8) (b : Bool) :
    channels (Function.update on c b) = Function.update (channels on) (msbChannel c) b.toInt := by
  funext i
  induction i using channel_cases with
  | hm i =>
    by_cases hi : i = c
    · rw [hi, channels_msbChannel, Function.update_self, Function.update_self]
    · have hne : msbChannel i ≠ msbChannel c := fun h => hi (Fin.castAdd_injective 8 2 h)
      rw [channels_msbChannel, Function.update_of_ne hi, Function.update_of_ne hne,
        channels_msbChannel]
  | hl i =>
    have hne : lsbChannel i ≠ msbChannel c := by
      intro h
      have hv := congrArg Fin.val h
      simp only [lsbChannel, msbChannel, Fin.val_natAdd, Fin.val_castAdd] at hv
      omega
    rw [Function.update_of_ne hne, channels, channels, wired_lsb, wired_lsb]

/-! ## Steps -/

variable {σ κ : Type} [ModbusSlave σ] [LawfulModbusSlave σ]
variable {p : Pair σ κ} {on : Fin 8 → Bool}

/-- The relay and the sensor are in the states `on`, which they reached by the same stores. -/
structure Paired (p : Pair σ κ) (on : Fin 8 → Bool) : Prop where
  relay : ∃ v : RelayImage κ, Models p.1 v ∧ v.channels = channels on ∧
    v.word = finalValue (channels on)
  sensor : Holds p.2 (switches on)
  words : relayWords p = sensorWords p
  latest : (relayWords p).getLastD [0] = [(finalValue (channels on) : ℤ)]

theorem stored_switches (on : Fin 8 → Bool) :
    EctoCH10BinarySensor.stored (switches on) = finalValue (channels on) :=
  stored_eq_finalValue (switches_bits on)

/-- A command that repeats the state of its channel is skipped by both. -/
theorem Paired.skip (h : Paired p on) {c : Fin 8} {b : Bool} (hb : b = on c) :
    (machine σ κ).step p (c, b) = p := by
  obtain ⟨v, hm, hch, _⟩ := h.relay
  have hrelay : b.toInt = p.1.channels (msbChannel c) := by
    rw [hm.channels, hch, channels_msbChannel, hb]
  have hsensor : b.toInt = p.2.switch (slot (msbChannel c)) := by
    rw [h.sensor.list, slot_msbChannel, switches, Fin.rev_rev, hb]
  have h1 := EctoRelay10CH.after_setSwitchState (msbChannel c) b.toInt p.1
  have h2 := EctoCH10BinarySensor.after_setSwitchState (msbChannel c) b.toInt p.2
  rw [if_neg (not_not_intro hrelay)] at h1
  rw [if_neg (not_not_intro hsensor)] at h2
  exact Prod.ext h1 h2

theorem relay_store {d : EctoRelay10CH (Journaled σ) κ} {v : RelayImage κ} (hm : Models d v)
    {c : Fin 10} {b : ℤ} (hb : b = 0 ∨ b = 1) (hne : b ≠ v.channels c) :
    ∃ d', (EctoRelay10CH.setSwitchState (c : ℤ) b).after d = d' ∧ Models d' (v.command c b) ∧
      d'.slave.written 0x10 =
        d.slave.written 0x10 ++ [[(finalValue (Function.update v.channels c b) : ℤ)]] := by
  obtain ⟨d', hok, hm'⟩ := setSwitchState_models hm c b
  refine ⟨d', PyM.after_ok hok, hm', ?_⟩
  have hafter := EctoRelay10CH.after_setSwitchState c b d
  rw [PyM.after_ok hok, if_pos (by rwa [hm.channels]), hm.channels, oneIf_of_bit hb] at hafter
  rw [hafter]
  exact EctoDevice.written_setRegister hm.hasRegister_word rfl

theorem sensor_store {d : EctoCH10BinarySensor (Journaled σ)} {switch : Fin 8 → ℤ}
    (hd : Holds d switch) {c : Fin 10} {b : ℤ} (hb : b = 0 ∨ b = 1) (hne : b ≠ switch (slot c)) :
    ∃ d', (EctoCH10BinarySensor.setSwitchState (c : ℤ) b).after d = d' ∧
      Holds d' (Function.update switch (slot c) b) ∧
      d'.slave.written 0x10 = d.slave.written 0x10 ++
        [[EctoCH10BinarySensor.stored (Function.update switch (slot c) b)]] := by
  obtain ⟨d', hok, hd'⟩ := EctoCH10BinarySensor.setSwitchState_ne hd hne
  rw [oneIf_of_bit hb] at hd'
  refine ⟨d', PyM.after_ok hok, hd', ?_⟩
  obtain ⟨info, hi⟩ := hd.input
  have hafter := EctoCH10BinarySensor.after_setSwitchState c b d
  rw [PyM.after_ok hok, if_pos (by rwa [hd.list]), hd.list, oneIf_of_bit hb] at hafter
  rw [hafter]
  exact EctoDevice.written_setRegister hi.hasRegister rfl

/-- A command that changes the state of its channel makes both store the same word. -/
theorem Paired.store (h : Paired p on) {c : Fin 8} {b : Bool} (hb : b ≠ on c) :
    let q := (machine σ κ).step p (c, b)
    let w : ℤ := finalValue (channels (Function.update on c b))
    Paired q (Function.update on c b) ∧ relayWords q = relayWords p ++ [[w]] ∧
      sensorWords q = sensorWords p ++ [[w]] := by
  intro q w
  obtain ⟨v, hm, hch, _⟩ := h.relay
  have hint : b.toInt ≠ (on c).toInt := fun he => hb (toInt_inj.1 he)
  have hrelay : b.toInt ≠ v.channels (msbChannel c) := by rwa [hch, channels_msbChannel]
  have hsensor : b.toInt ≠ switches on (slot (msbChannel c)) := by
    rwa [slot_msbChannel, switches, Fin.rev_rev]
  obtain ⟨d, hd, hm', hw⟩ := relay_store hm (toInt_bit b) hrelay
  obtain ⟨e, he, hh, hs⟩ := sensor_store h.sensor (toInt_bit b) hsensor
  have hq : q = (d, e) := Prod.ext hd he
  rw [slot_msbChannel, ← switches_update] at hh hs
  rw [hch, ← channels_update] at hw
  rw [stored_switches] at hs
  have hrw : relayWords q = relayWords p ++ [[w]] := by
    rw [hq]
    exact hw
  have hsw : sensorWords q = sensorWords p ++ [[w]] := by
    rw [hq]
    exact hs
  refine ⟨⟨⟨v.command (msbChannel c) b.toInt, ?_, ?_, ?_⟩, ?_, ?_, ?_⟩, hrw, hsw⟩
  · rw [hq]
    exact hm'
  · rw [RelayImage.command_channels (toInt_bit b), hch, ← channels_update]
  · rw [RelayImage.command_of_ne hrelay (toInt_bit b), hch, ← channels_update]
  · rw [hq]
    exact hh
  · rw [hrw, hsw, h.words]
  · rw [hrw, List.getLastD_concat]

theorem Paired.step (h : Paired p on) (call : Command) :
    Paired ((machine σ κ).step p call) (Function.update on call.1 call.2) ∧
      SameStore p ((machine σ κ).step p call) := by
  obtain ⟨c, b⟩ := call
  by_cases hb : b = on c
  · have hskip := h.skip hb
    rw [hskip]
    simp only [hb, Function.update_eq_self]
    exact ⟨h, Or.inl rfl⟩
  · obtain ⟨h', hr, hs⟩ := h.store hb
    exact ⟨h', Or.inr ⟨_, hr, hs⟩⟩

theorem Paired.run (h : Paired p on) (calls : List Command) :
    Paired ((machine σ κ).run p calls) (Replay.replay on calls) := by
  induction calls generalizing p on with
  | nil => exact h
  | cons call calls ih => exact ih (h.step call).1

/-! ## Fresh devices -/

omit [LawfulModbusSlave σ] in
theorem relay_written_init {d : EctoRelay10CH (Journaled σ) κ} {addr : ℕ} {slave : σ}
    (h : EctoRelay10CH.init addr (Journaled.start slave) = .ok d) : d.slave.written 0x10 = [] := by
  obtain ⟨d₀, h₀, h⟩ := bind_eq_ok h
  obtain ⟨d₁, h₁, h⟩ := bind_eq_ok h
  obtain ⟨d₂, h₂, h⟩ := bind_eq_ok h
  cases h
  have hs : d₂.slave.stores = _ := (EctoDevice.stores_addRegister h₂).trans
    ((EctoDevice.stores_addRegister h₁).trans (EctoDevice.stores_init h₀))
  simp [Journaled.written, hs, Journaled.start, Replay.writesTo]

omit [LawfulModbusSlave σ] in
theorem sensor_written_init {d : EctoCH10BinarySensor (Journaled σ)} {addr : ℕ} {slave : σ}
    (h : EctoCH10BinarySensor.init addr (Journaled.start slave) = .ok d) :
    d.slave.written 0x10 = [] := by
  obtain ⟨d₀, h₀, h⟩ := bind_eq_ok h
  obtain ⟨d₁, h₁, h⟩ := bind_eq_ok h
  cases h
  have hs : d₁.slave.stores = _ :=
    (EctoDevice.stores_addRegister h₁).trans (EctoDevice.stores_init h₀)
  simp [Journaled.written, hs, Journaled.start, Replay.writesTo]

theorem Fresh.paired (h : Fresh p) : Paired p fun _ => false := by
  obtain ⟨addr, slave, hs, hd⟩ := h.relay
  obtain ⟨addr', slave', hs', hd'⟩ := h.sensor
  have hr : relayWords p = [] := relay_written_init hd
  have hw : sensorWords p = [] := sensor_written_init hd'
  have hch : (channels fun _ => false) = fun _ => 0 := by decide
  have hword : finalValue (channels fun _ => false) = 0 := by decide
  have hempty : table (Journaled.start slave) = Table.empty := hs
  have hempty' : table (Journaled.start slave') = Table.empty := hs'
  have hm := models_of_init hempty hd
  have hh := holds_of_init hempty' hd'
  refine ⟨⟨_, hm, hch.symm, ?_⟩, hh, by rw [hr, hw], ?_⟩
  · rw [hword]
    rfl
  · rw [hr, hword]
    rfl

/-- The encoders agree: after any calls both devices have stored the same words in register 0x10,
the last of which has in bit 8 + c the state last commanded for channel c. -/
theorem encoders_agree (hp : Fresh p) (calls : List Command) :
    let q := (machine σ κ).run p calls
    (∀ call, SameStore q ((machine σ κ).step q call)) ∧ relayWords q = sensorWords q ∧
      (relayWords q).getLastD [0] = [q.1.word] ∧ q.1.word = q.2.word ∧
      (∀ c : Fin 8, Bits.bitOf q.1.word (8 + c) = (Replay.last (fun _ => false) calls c).toInt) ∧
      Bits.shiftAdd (List.ofFn q.2.switch) <<< (8 : ℕ) = finalValue q.1.channels := by
  intro q
  have h : Paired q (Replay.replay (fun _ => false) calls) := hp.paired.run calls
  obtain ⟨v, hm, hch, hw⟩ := h.relay
  have hword : q.1.word = finalValue (channels (Replay.replay (fun _ => false) calls)) :=
    hm.word_eq.trans hw
  have hsensor : q.2.word = finalValue (channels (Replay.replay (fun _ => false) calls)) :=
    h.sensor.word_eq.trans (stored_switches _)
  refine ⟨fun call => (h.step call).2, h.words, ?_, ?_, fun c => ?_, ?_⟩
  · rw [h.latest, hword]
  · rw [hword, hsensor]
  · have hbit : decode q.1.word (msbChannel c) = Bits.bitOf q.1.word (8 + c) := by
      rw [decode, bitPos_msbChannel]
    rw [← hbit, hword, decode_channels, channels_msbChannel, Replay.replay_eq_last]
  · rw [h.sensor.list, hm.channels, hch]
    exact stored_switches _

theorem relay_isSome (addr : ℕ) : (EctoRelay10CH.init addr (Journaled.start Table.empty) :
    Except _ (EctoRelay10CH (Journaled RegTable) Empty)).toOption.isSome := by
  obtain ⟨d, hd, _⟩ := init_models (κ := Empty) addr (Journaled.start (Table.empty : RegTable)) rfl
  exact isSome_of_ok hd

theorem sensor_isSome (addr : ℕ) : (EctoCH10BinarySensor.init addr
    (Journaled.start (Table.empty : RegTable))).toOption.isSome := by
  obtain ⟨d, hd, _⟩ :=
    EctoCH10BinarySensor.init_input addr (Journaled.start (Table.empty : RegTable)) rfl
  exact isSome_of_ok hd

def start : Pair RegTable Empty :=
  ((EctoRelay10CH.init 3 (Journaled.start Table.empty)).toOption.get (relay_isSome 3),
    (EctoCH10BinarySensor.init 4 (Journaled.start Table.empty)).toOption.get (sensor_isSome 4))

theorem fresh_start : Fresh start where
  relay := ⟨3, Table.empty, rfl, eq_ok_get (relay_isSome 3)⟩
  sensor := ⟨4, Table.empty, rfl, eq_ok_get (sensor_isSome 4)⟩

theorem encoders_agree_on_four :
    let q := (machine RegTable Empty).run start [(0, true), (7, true), (7, true), (0, false)]
    relayWords q = sensorWords q ∧ q.1.word = 0x8000 := by
  intro q
  obtain ⟨_, hwords, hlast, _⟩ :=
    encoders_agree fresh_start [(0, true), (7, true), (7, true), (0, false)]
  refine ⟨hwords, ?_⟩
  have hword : [q.1.word] = [0x8000] := by
    rw [← hlast]
    decide +kernel
  exact List.head_eq_of_cons_eq hword

end Encoders
end Ecto
