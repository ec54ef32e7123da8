import EctoModbus.Bus.Coupled
import EctoModbus.Library.Team
import EctoModbus.Devices.Blocks
import EctoModbus.Entity.RelayRuns
import EctoModbus.Entity.BinarySensorSystem

/-! What the steps of a node keep: its address and kind, and the relations between registers,
fields and entities that its device has. -/

namespace Ecto
open Python Transition BlockTable

namespace EctoDevice
variable {σ : Type}

/-- The device with another slave, or the same. -/
def SameBut (b b' : EctoDevice σ) : Prop := ∃ slave, b' = { b with slave := slave }

theorem SameBut.refl (b : EctoDevice σ) : SameBut b b := ⟨b.slave, rfl⟩

theorem SameBut.trans {b b' b'' : EctoDevice σ} (h : SameBut b b') (h' : SameBut b' b'') :
    SameBut b b'' := by
  obtain ⟨slave, rfl⟩ := h
  obtain ⟨slave', rfl⟩ := h'
  exact ⟨slave', rfl⟩

end EctoDevice

namespace EctoRelay10CH
open PyM EctoDevice
variable {σ κ : Type}

theorem moves_setStateChangeCallback (channel : ℤ) (callback : κ) :
    Moves (fun d d' : EctoRelay10CH σ κ => SameBut d.toEctoDevice d'.toEctoDevice)
      (setStateChangeCallback channel callback) := by
  intro d
  unfold setStateChangeCallback
  rcases channel? channel with _ | i
  · exact SameBut.refl _
  · exact SameBut.refl _

variable [ModbusSlave σ] [LawfulModbusSlave σ]

theorem moves_setSwitchState (num state : ℤ) :
    Moves (fun d d' : EctoRelay10CH σ κ => SameBut d.toEctoDevice d'.toEctoDevice)
      (setSwitchState num state) := by
  intro d
  unfold setSwitchState
  rw [after_get_bind]
  rcases index 10 num with _ | i
  · exact SameBut.refl _
  · rw [ofOption_some, pure_bind]
    split_ifs
    · rw [after_set_bind, after_onDevice]
      exact setRegister_slave 0x10 _ d.toEctoDevice
    · exact SameBut.refl _

end EctoRelay10CH

namespace EctoCH10BinarySensor
open PyM EctoDevice
variable {σ : Type} [ModbusSlave σ] [LawfulModbusSlave σ]

theorem moves_setSwitchState (num state : ℤ) :
    Moves (fun d d' : EctoCH10BinarySensor σ => SameBut d.toEctoDevice d'.toEctoDevice)
      (setSwitchState num state) := by
  intro d
  unfold setSwitchState
  rw [after_get_bind]
  rcases index 8 (7 - num) with _ | i
  · exact SameBut.refl _
  · rw [ofOption_some, pure_bind]
    split_ifs
    · rw [after_set_bind, setValue, after_zoom]
      exact setRegister_slave 0x10 _ d.toEctoDevice
    · exact SameBut.refl _

end EctoCH10BinarySensor

namespace SwitchBank
open PyM
variable {η δ : Type} [SwitchDevice δ] {R : δ → δ → Prop}

variable (hr : ∀ d, R d d) (ht : ∀ a b c, R a b → R b c → R a c)
  (hset : ∀ c s, Moves R (SwitchDevice.setSwitchState c s : PyM δ Unit))

include hr ht hset in
theorem moves_updateState [HomeAssistant η] (e : Fin 10) (state : Bool) :
    Moves (fun p q => R p.1 q.1) (updateState e state : PyM (δ × SwitchBank η) Unit) := by
  have htrans : ∀ p q r : δ × SwitchBank η, R p.1 q.1 → R q.1 r.1 → R p.1 r.1 :=
    fun _ _ _ => ht _ _ _
  have hrest : ∀ b : Bool, Moves (fun p q => R p.1 q.1)
      (second (modify (setEntity e fun self => { self with state := state })) >>= fun _ =>
        if b then second (scheduleUpdate e) else pure () : PyM (δ × SwitchBank η) Unit) := by
    intro b
    apply Moves.bind htrans (moves_second hr _)
    intro _
    cases b
    · exact Moves.pure (fun p => hr p.1) ()
    · exact moves_second hr _
  refine Moves.bind htrans (moves_get fun p => hr p.1) fun p => ?_
  cases state
  · exact Moves.bind htrans (hset _ _).first fun _ => hrest _
  · exact Moves.bind htrans (hset _ _).first fun _ => hrest _

include hr ht hset in
theorem moves_restoreState (e : Fin 10) (channel : ℤ) (lastState : Option (Option String)) :
    Moves (fun p q => R p.1 q.1)
      (restoreState e channel lastState : PyM (δ × SwitchBank η) Unit) := by
  have htrans : ∀ p q r : δ × SwitchBank η, R p.1 q.1 → R q.1 r.1 → R p.1 r.1 :=
    fun _ _ _ => ht _ _ _
  have hsync : Moves (fun p q => R p.1 q.1) (syncFromDevice e : PyM (δ × SwitchBank η) Unit) := by
    refine Moves.bind htrans (moves_get fun p => hr p.1) fun p => ?_
    dsimp only
    rcases (SwitchDevice.getChannelState : Option (ℤ → δ → Option ℤ)) with _ | getChannelState
    · exact Moves.pure (fun p => hr p.1) ()
    · dsimp only
      rcases getChannelState (p.2.entities e).channel p.1 with _ | deviceState
      · exact Moves.pure (fun p => hr p.1) ()
      · exact moves_second hr _
  rcases lastState with _ | _ | state
  · exact hsync
  · exact hsync
  · show Moves _ (if state ≠ STATE_UNAVAILABLE then _ else _)
    split_ifs
    · exact Moves.bind htrans (hset _ _).first fun _ => moves_second hr _
    · exact Moves.bind htrans (hset _ _).first fun _ => moves_second hr _
    · exact hsync

include hr ht hset in
theorem moves_addEntity
    (hcallback : ∀ register : ℤ → Fin 10 → PyM δ Unit,
      SwitchDevice.setStateChangeCallback = some register → ∀ c e, Moves R (register c e))
    (e : Fin 10) (lastState : Option (Option String)) :
    Moves (fun p q => R p.1 q.1) (addEntity e lastState : PyM (δ × SwitchBank η) Unit) := by
  have htrans : ∀ p q r : δ × SwitchBank η, R p.1 q.1 → R q.1 r.1 → R p.1 r.1 :=
    fun _ _ _ => ht _ _ _
  apply Moves.bind htrans (moves_second hr _)
  intro _
  apply Moves.bind htrans (moves_second hr _)
  intro _
  refine Moves.bind htrans (moves_get fun p => hr p.1) fun p => ?_
  have hreset : Moves (fun p q => R p.1 q.1)
      (do
        if SwitchDevice.isEctoRelay10CH δ then
          second (modify (setEntity e fun self => { self with state := false }))
          first (SwitchDevice.setSwitchState (p.2.entities e).channel 0)
        else
          restoreState e (p.2.entities e).channel lastState : PyM (δ × SwitchBank η) Unit) := by
    split_ifs
    · exact Moves.bind htrans (moves_second hr _) fun _ => (hset _ _).first
    · exact moves_restoreState hr ht hset e _ lastState
  cases hc : (SwitchDevice.setStateChangeCallback : Option (ℤ → Fin 10 → PyM δ Unit)) with
  | none => exact hreset
  | some register =>
    exact Moves.bind htrans (hcallback register hc _ _).first fun _ => hreset

end SwitchBank

namespace NodeSystem
open PyM EctoDevice
variable {σ η : Type}

/-- Nothing that is done to a node changes its address, its kind, or the entity it tracks. -/
structure SameDevice (d d' : Device σ (Fin 10)) : Prop where
  base : SameBut d.base d'.base
  deviceClass : d'.deviceClass = d.deviceClass
  tracked : d'.tracked = d.tracked

theorem after_asDevice {δ : Type} (put : δ → Device σ (Fin 10)) (d : δ)
    (m : PyM (δ × SwitchBank η) Unit) (p : State σ η) :
    (asDevice put d m).after p = (put (m.after (d, p.2)).1, (m.after (d, p.2)).2) :=
  after_zoom ..

theorem after_onSwitchDevice_relay (relay : PyM (EctoRelay10CH σ (Fin 10) × SwitchBank η) Unit)
    (sensor : PyM (EctoCH10BinarySensor σ × SwitchBank η) Unit) (d : EctoRelay10CH σ (Fin 10))
    (bank : SwitchBank η) : (onSwitchDevice relay sensor).after (.relay10ch d, bank) =
      (.relay10ch (relay.after (d, bank)).1, (relay.after (d, bank)).2) :=
  after_asDevice .relay10ch d relay (.relay10ch d, bank)

theorem after_onSwitchDevice_sensor (relay : PyM (EctoRelay10CH σ (Fin 10) × SwitchBank η) Unit)
    (sensor : PyM (EctoCH10BinarySensor σ × SwitchBank η) Unit) (d : EctoCH10BinarySensor σ)
    (bank : SwitchBank η) : (onSwitchDevice relay sensor).after (.binarySensor10ch d, bank) =
      (.binarySensor10ch (sensor.after (d, bank)).1, (sensor.after (d, bank)).2) :=
  after_asDevice .binarySensor10ch d sensor (.binarySensor10ch d, bank)

theorem SameDevice.refl (d : Device σ (Fin 10)) : SameDevice d d := ⟨SameBut.refl _, rfl, rfl⟩

theorem SameDevice.trans {d d' d'' : Device σ (Fin 10)} (h : SameDevice d d')
    (h' : SameDevice d' d'') : SameDevice d d'' :=
  ⟨h.base.trans h'.base, h'.deviceClass.trans h.deviceClass, h'.tracked.trans h.tracked⟩

theorem SameDevice.addr {d d' : Device σ (Fin 10)} (h : SameDevice d d') :
    d'.base.addr = d.base.addr := by
  obtain ⟨slave, hb⟩ := h.base
  rw [hb]

theorem sameDevice_onSwitchDevice {relay : PyM (EctoRelay10CH σ (Fin 10) × SwitchBank η) Unit}
    {sensor : PyM (EctoCH10BinarySensor σ × SwitchBank η) Unit}
    (hr : Moves (fun p q => SameBut p.1.toEctoDevice q.1.toEctoDevice) relay)
    (hs : Moves (fun p q => SameBut p.1.toEctoDevice q.1.toEctoDevice) sensor) (p : State σ η) :
    SameDevice p.1 ((onSwitchDevice relay sensor).after p).1 := by
  obtain ⟨d, bank⟩ := p
  cases d with
  | relay10ch d =>
    have h : (onSwitchDevice relay sensor).after (.relay10ch d, bank) = _ :=
      after_asDevice _ d relay (.relay10ch d, bank)
    rw [h]
    exact ⟨hr (d, bank), rfl, rfl⟩
  | binarySensor10ch d =>
    have h : (onSwitchDevice relay sensor).after (.binarySensor10ch d, bank) = _ :=
      after_asDevice _ d sensor (.binarySensor10ch d, bank)
    rw [h]
    exact ⟨hs (d, bank), rfl, rfl⟩
  | temperatureSensor d => exact SameDevice.refl _

variable [HomeAssistant η]

theorem moves_addToHass {δ : Type} [SwitchDevice δ] {f : δ → EctoDevice σ}
    (hset : ∀ c s,
      Moves (fun d d' => SameBut (f d) (f d')) (SwitchDevice.setSwitchState c s : PyM δ Unit))
    (hcallback : ∀ register : ℤ → Fin 10 → PyM δ Unit,
      SwitchDevice.setStateChangeCallback = some register →
        ∀ c e, Moves (fun d d' => SameBut (f d) (f d')) (register c e))
    (e : Fin 10) (lastState : Option (Option String)) :
    Moves (fun p q => SameBut (f p.1) (f q.1))
      (addToHass e lastState : PyM (δ × SwitchBank η) Unit) := by
  have hr : ∀ d, SameBut (f d) (f d) := fun d => SameBut.refl (f d)
  have ht : ∀ a b c, SameBut (f a) (f b) → SameBut (f b) (f c) → SameBut (f a) (f c) :=
    fun _ _ _ => SameBut.trans
  have htrans : ∀ p q r : δ × SwitchBank η, SameBut (f p.1) (f q.1) → SameBut (f q.1) (f r.1) →
      SameBut (f p.1) (f r.1) := fun _ _ _ => ht _ _ _
  exact Moves.bind htrans (SwitchBank.moves_addEntity hr ht hset hcallback e lastState)
    fun _ => moves_second (R := fun d d' => SameBut (f d) (f d')) hr _

variable [ModbusSlave σ]

theorem after_masterWrite (float : String → Except PyException PyFloat) (a : ℕ)
    (ws : List (BitVec 16)) (p : State σ η) : (call float (.masterWrite a ws)).after p =
      (p.1.withBase ((masterWrite a (requestValues ws)).after p.1.base), p.2) := by
  rw [call, after_first, onBase, after_zoom]

variable [LawfulModbusSlave σ]

theorem sameDevice_updateState (e : Fin 10) (b : Bool) (p : State σ η) :
    SameDevice p.1
      ((onSwitchDevice (SwitchBank.updateState e b) (SwitchBank.updateState e b)).after p).1 := by
  refine sameDevice_onSwitchDevice ?_ ?_ p
  · exact SwitchBank.moves_updateState
      (R := fun d d' : EctoRelay10CH σ (Fin 10) => SameBut d.toEctoDevice d'.toEctoDevice)
      (fun _ => SameBut.refl _) (fun _ _ _ => SameBut.trans) EctoRelay10CH.moves_setSwitchState e b
  · exact SwitchBank.moves_updateState
      (R := fun d d' : EctoCH10BinarySensor σ => SameBut d.toEctoDevice d'.toEctoDevice)
      (fun _ => SameBut.refl _) (fun _ _ _ => SameBut.trans)
      EctoCH10BinarySensor.moves_setSwitchState
      e b

theorem sameDevice_call (float : String → Except PyException PyFloat) (a : Action)
    (p : State σ η) : SameDevice p.1 ((call float a).after p).1 := by
  cases a with
  | addEntity e lastState =>
    refine sameDevice_onSwitchDevice ?_ ?_ p
    · refine moves_addToHass EctoRelay10CH.moves_setSwitchState ?_ e lastState
      rintro register hregister c k
      cases hregister
      exact EctoRelay10CH.moves_setStateChangeCallback c k
    · refine moves_addToHass EctoCH10BinarySensor.moves_setSwitchState ?_ e lastState
      rintro register hregister c k
      -- a contact sensor has no callbacks to register
      cases hregister
  | turnOn e => exact sameDevice_updateState e true p
  | turnOff e => exact sameDevice_updateState e false p
  | stateChanged newState =>
    obtain ⟨d, bank⟩ := p
    cases d with
    | relay10ch d => exact SameDevice.refl _
    | binarySensor10ch d => exact SameDevice.refl _
    | temperatureSensor d =>
      have h : (call float (.stateChanged newState)).after (.temperatureSensor d, bank) = _ :=
        after_asDevice .temperatureSensor d
          (PyM.first (EctoTemperatureSensor.stateChanged float newState))
          (.temperatureSensor d, bank)
      rw [h, after_first, EctoTemperatureSensor.after_stateChanged]
      cases EctoTemperatureSensor.scaledValue float newState with
      | error e => exact SameDevice.refl _
      | ok v => exact ⟨setRegister_slave 0x20 [v] d.toEctoDevice, rfl, rfl⟩
  | masterWrite a ws =>
    rw [after_masterWrite]
    refine ⟨?_, ?_, ?_⟩
    · rw [Device.base_withBase]
      exact masterWrite_slave a (requestValues ws) p.1.base
    · cases p.1 <;> rfl
    · cases p.1 <;> rfl
  | poll =>
    obtain ⟨d, bank⟩ := p
    cases d with
    | relay10ch d =>
      have h : (call float .poll).after (.relay10ch d, bank) = _ :=
        EctoCoordinator.after_updateDevice_relay SwitchBank.invoke d bank
      rw [h]
      refine ⟨⟨d.slave, ?_⟩, rfl, rfl⟩
      exact (EctoRelay10CH.after_sync_frame SwitchBank.invoke (d, bank)).1
    | binarySensor10ch d => exact SameDevice.refl _
    | temperatureSensor d => exact SameDevice.refl _

end NodeSystem

/-! ## Requests of a master -/

namespace RelayImage
variable {κ : Type}

/-- Each of the three holding blocks takes the request if it has room for all of it. -/
def request (a : ℕ) (ws : List ℤ) (v : RelayImage κ) : RelayImage κ :=
  { v with
    info := EctoDevice.requested 0 v.info a ws
    word := (EctoDevice.requested 0x10 [v.word] a ws).headD v.word
    timerRegs := EctoDevice.requested 0x20 v.timerRegs a ws
    info_length := (EctoDevice.length_requested ..).trans v.info_length
    timerRegs_length := (EctoDevice.length_requested ..).trans v.timerRegs_length }

theorem blocks_request (a : ℕ) (ws : List ℤ) (v : RelayImage κ) :
    (v.blocks.map fun b => if b.kind = .holdingRegisters then b.put a ws else b) =
      (v.request a ws).blocks := by
  have hlen := EctoDevice.length_requested 0x10 [v.word] a ws
  obtain ⟨w, hw⟩ := List.length_eq_one_iff.1 hlen
  simp only [blocks, request, List.map_cons, List.map_nil, if_true, EctoDevice.put_eq_requested, hw,
    List.headD_cons]

/-- The word a request stores in register 0x10, if it is for that register alone. -/
def stateWord (a : ℕ) : List (BitVec 16) → Option (BitVec 16)
  | [w] => if a = 0x10 then some w else none
  | _ => none

theorem word_request (a : ℕ) (ws : List (BitVec 16)) (v : RelayImage κ) :
    (v.request a (requestValues ws)).word =
      ((stateWord a ws).map fun w => (w.toNat : ℤ)).getD v.word := by
  have hreq : (v.request a (requestValues ws)).word =
      (EctoDevice.requested 0x10 [v.word] a (requestValues ws)).headD v.word := rfl
  rw [hreq]
  unfold EctoDevice.requested
  rcases ws with _ | ⟨w, _ | ⟨w', rest⟩⟩
  · -- an empty request changes nothing, wherever it is
    show (if _ then splice [v.word] (a - 0x10) [] else _).headD v.word = v.word
    rw [splice_nil, ite_self, List.headD_cons]
  · by_cases ha : a = 0x10
    · subst ha
      simp [stateWord, requestValues, splice]
    · have hout : ¬ (0x10 ≤ a ∧ a + (requestValues [w]).length ≤ 0x10 + [v.word].length) := by
        simp only [requestValues, List.map_cons, List.map_nil, List.length_singleton]
        omega
      rw [if_neg hout, stateWord, if_neg ha]
      rfl
  · have hout : ¬ (0x10 ≤ a ∧
        a + (requestValues (w :: w' :: rest)).length ≤ 0x10 + [v.word].length) := by
      simp only [requestValues, List.map_cons, List.length_cons, List.length_nil]
      omega
    rw [if_neg hout]
    rfl

end RelayImage

namespace EctoRelay10CH
variable {σ κ : Type} [ModbusSlave σ] [LawfulModbusSlave σ]

theorem masterWrite_models {d : EctoRelay10CH σ κ} {v : RelayImage κ} (h : Models d v) (a : ℕ)
    (ws : List ℤ) :
    Models { d with toEctoDevice := (EctoDevice.masterWrite a ws).after d.toEctoDevice }
      (v.request a ws) := by
  obtain ⟨slave', hd⟩ := EctoDevice.masterWrite_slave a ws d.toEctoDevice
  have hb := EctoDevice.blocks_masterWrite a ws d.toEctoDevice
  rw [h.blocks, RelayImage.blocks_request] at hb
  refine ⟨hb, ?_, h.channels, h.timers, h.callbacks⟩
  rw [hd]
  exact h.registers

end EctoRelay10CH

/-! ## The steps -/

namespace RelaySystem
open EctoRelay10CH
variable {σ η : Type} [ModbusSlave σ] [LawfulModbusSlave σ]
variable {s : State σ η} {v : RelayImage (Fin 10)} {added : Fin 10 → Bool}

/-- What the relay and its entities are like does not show in what Home Assistant was told. -/
theorem Tracks.congr {η' : Type} {s' : State σ η'} (h : Tracks s v added) (hd : s'.1 = s.1)
    (he : s'.2.entities = s.2.entities) : Tracks s' v added := by
  refine ⟨?_, fun c => ?_⟩
  · rw [hd]
    exact h.models
  · rw [he]
    exact h.agree c

theorem step_request (h : Tracks s v added) (a : ℕ) (ws : List ℤ) :
    Tracks ({ s.1 with toEctoDevice := (EctoDevice.masterWrite a ws).after s.1.toEctoDevice }, s.2)
      (v.request a ws) added :=
  ⟨masterWrite_models h.models a ws, h.agree⟩

variable [HomeAssistant η]

theorem step_sync (h : Tracks s v added) :
    ∃ p, Tracks ((syncChannelsFromRegister SwitchBank.invoke).after s)
      (v.setChannels (v.shadow.refreshOn p).copy) added := by
  obtain ⟨p, hp⟩ := step_parse h v.word
  rw [← after_syncChannelsFromRegister h.models] at hp
  exact ⟨p, hp⟩

theorem step_sync_ok (hh : HomeAssistant.NeverRaises η) (h : Tracks s v added) :
    ∃ c s', syncChannelsFromRegister SwitchBank.invoke s = .ok c s' ∧
      Tracks s' (v.setChannels (decode v.word)) added := by
  obtain ⟨c, bank', hok⟩ := parse_returns h.models (invoke_returns hh) v.word s.2
  have hsync : syncChannelsFromRegister SwitchBank.invoke s =
      .ok c ({ s.1 with channels := decode v.word }, bank') := by
    rw [← hok]
    exact syncChannelsFromRegister_eq h.models SwitchBank.invoke s.2
  obtain ⟨p, hp⟩ := step_sync h
  rw [PyM.after_ok hsync] at hp
  refine ⟨c, _, hsync, ?_, ?_⟩
  · exact h.models.setChannels (decode v.word)
  · have hch : (v.shadow.refreshOn p).copy = decode v.word := hp.models.channels.symm
    have hagree := hp.agree
    simp only [RelayImage.setChannels, hch] at hagree ⊢
    exact hagree

end RelaySystem

namespace NodeSystem
open PyM
variable {σ η : Type} [ModbusSlave σ] [LawfulModbusSlave σ] [HomeAssistant η]

theorem entities_after_addToHass {δ : Type} [SwitchDevice δ] (e : Fin 10)
    (lastState : Option (Option String)) (p : δ × SwitchBank η) :
    ((addToHass e lastState).after p).1 = ((SwitchBank.addEntity e lastState).after p).1 ∧
      ((addToHass e lastState).after p).2.entities =
        ((SwitchBank.addEntity e lastState).after p).2.entities := by
  unfold addToHass
  cases h : SwitchBank.addEntity e lastState p with
  | ok u q =>
    rw [after_bind_ok h, after_ok h, after_second, SwitchBank.entities_after_scheduleUpdate]
    exact ⟨rfl, rfl⟩
  | error x q =>
    rw [after_error (bind_error h), after_error h]
    exact ⟨rfl, rfl⟩

end NodeSystem
end Ecto
