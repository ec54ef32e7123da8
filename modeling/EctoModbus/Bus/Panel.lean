import EctoModbus.Bus.Node
import EctoModbus.Devices.TemperatureRuns

/-! What a device shows, to a master in its registers and to Home Assistant on its entities, as a
machine without slaves and callbacks. Every call on a node is one step of it. -/

namespace Ecto
open Python Transition Shadow BlockTable

/-- The registers of a relay, and its copy of the states that are in `word`. -/
structure RelayPanel where
  info : List ℤ
  word : ℤ
  timers : List ℤ
  copy : Fin 10 → ℤ

namespace RelayPanel

def shadow (p : RelayPanel) : Shadowed (Fin 10) ℤ := ⟨decode p.word, p.copy⟩

def command (e : Fin 10) (b : ℤ) (p : RelayPanel) : RelayPanel :=
  if b = p.copy e then p
  else { p with
    word := EctoRelay10CH.finalValue (Function.update p.copy e b)
    copy := Function.update p.copy e b }

def request (a : ℕ) (ws : List (BitVec 16)) (p : RelayPanel) : RelayPanel :=
  { p with
    info := EctoDevice.requested 0 p.info a (requestValues ws)
    word := (RelayImage.stateWord a ws).elim p.word fun w => w.toNat
    timers := EctoDevice.requested 0x20 p.timers a (requestValues ws) }

/-- Some of the states are read from the word. -/
def refreshOn (q : Fin 10 → Bool) (p : RelayPanel) : RelayPanel :=
  { p with copy := (p.shadow.refreshOn q).copy }

def step (p : RelayPanel) : NodeSystem.Action → RelayPanel
  | .addEntity e _ => p.command e 0
  | .turnOn e => p.command e 1
  | .turnOff e => p.command e 0
  | .stateChanged _ => p
  | .masterWrite a ws => p.request a ws
  | .poll => p.refreshOn fun _ => true

theorem shadow_command {p : RelayPanel} (h : ∀ e, p.copy e = 0 ∨ p.copy e = 1) (e : Fin 10) {b : ℤ}
    (hb : b = 0 ∨ b = 1) : (p.command e b).shadow = p.shadow.command e b := by
  by_cases hc : b = p.copy e
  · rw [command, if_pos hc, Shadowed.command_of_eq hc]
  · have hbits : ∀ i, Function.update p.copy e b i = 0 ∨ Function.update p.copy e b i = 1 :=
      bits_update h e hb
    rw [command, if_neg hc, Shadowed.command_of_ne hc]
    exact Shadowed.ext (EctoRelay10CH.decode_finalValue_of_bits hbits) rfl

theorem shadow_request (a : ℕ) (ws : List (BitVec 16)) (p : RelayPanel) :
    (p.request a ws).shadow =
      (RelayImage.stateWord a ws).elim p.shadow fun w => p.shadow.overwrite (decode w.toNat) := by
  unfold request shadow
  cases RelayImage.stateWord a ws <;> rfl

end RelayPanel

namespace RelayImage
variable {κ : Type}

def panel (v : RelayImage κ) : RelayPanel := ⟨v.info, v.word, v.timerRegs, v.channels⟩

theorem panel_command (v : RelayImage κ) (e : Fin 10) {b : ℤ} (hb : b = 0 ∨ b = 1) :
    (v.command e b).panel = v.panel.command e b := by
  by_cases h : b = v.channels e
  · rw [command_of_eq h]
    exact (if_pos h).symm
  · rw [command_of_ne h hb]
    exact (if_neg h).symm

theorem panel_request (a : ℕ) (ws : List (BitVec 16)) (v : RelayImage κ) :
    (v.request a (requestValues ws)).panel = v.panel.request a ws := by
  have hword := word_request a ws v
  have hpanel : (v.request a (requestValues ws)).panel =
      { v.panel.request a ws with word := (v.request a (requestValues ws)).word } := rfl
  rw [hpanel, hword]
  unfold RelayPanel.request
  cases stateWord a ws <;> rfl

end RelayImage

/-- A relay is read and written by both sides. A contact sensor stores its ten channels in eight
places. -/
inductive Panel where
  | relay (p : RelayPanel)
  | contacts (info : List ℤ) (places : Fin 8 → Bool) (shown : Fin 10 → Bool)
  | thermometer (info : List ℤ) (tenths : ℤ)

namespace Panel
open NodeSystem

/-- All that a master can read. -/
def registers : Panel → List (Block RegType ℤ)
  | .relay p =>
    [⟨blockName 0, .holdingRegisters, 0, p.info⟩,
      ⟨blockName 0x10, .holdingRegisters, 0x10, [p.word]⟩,
      ⟨blockName 0x20, .holdingRegisters, 0x20, p.timers⟩]
  | .contacts info places _ =>
    [⟨blockName 0, .holdingRegisters, 0, info⟩,
      ⟨blockName 0x10, .readInputRegisters, 0x10,
        [EctoCH10BinarySensor.stored (Bool.toInt ∘ places)]⟩]
  | .thermometer info tenths =>
    [⟨blockName 0, .holdingRegisters, 0, info⟩,
      ⟨blockName 0x20, .readInputRegisters, 0x20, [tenths]⟩]

def fresh (addr : ℕ) : DeviceClass → Panel
  | .relay10ch =>
    let info := EctoDevice.uidData EctoRelay10CH.DEVICE_TYPE EctoRelay10CH.CHANNEL_COUNT addr
    .relay ⟨info, 0, List.replicate 10 0, fun _ => 0⟩
  | .binarySensor10ch =>
    let info := EctoDevice.uidData EctoCH10BinarySensor.DEVICE_TYPE
      EctoCH10BinarySensor.CHANNEL_COUNT addr
    .contacts info (fun _ => false) fun _ => false
  | .temperatureSensor =>
    let info := EctoDevice.uidData EctoTemperatureSensor.DEVICE_TYPE
      EctoTemperatureSensor.CHANNEL_COUNT addr
    .thermometer info 0

/-- The identity words are registers that a master can write. -/
def infoStep (info : List ℤ) : Action → List ℤ
  | .masterWrite a ws => EctoDevice.requested 0 info a (requestValues ws)
  | _ => info

/-- An entity of a contact sensor is added in its last state. -/
def contactCommand : Action → Option (Fin 10 × Bool)
  | .addEntity e lastState => (BinarySensorSystem.Action.addEntity e lastState).command
  | .turnOn e => some (e, true)
  | .turnOff e => some (e, false)
  | _ => none

def thermometerStep (float : String → Except PyException PyFloat) (tenths : ℤ) : Action → ℤ
  | .stateChanged newState =>
    match EctoTemperatureSensor.finiteTemp float newState with
    | some t => trunc (10 * t)
    | none => tenths
  | _ => tenths

def step (float : String → Except PyException PyFloat) : Panel → Action → Panel
  | .relay p, a => .relay (p.step a)
  | .contacts info places shown, a =>
    .contacts (infoStep info a)
      (Replay.replay places (Replay.through EctoCH10BinarySensor.slot (contactCommand a).toList))
      (Replay.replay shown (contactCommand a).toList)
  | .thermometer info tenths, a => .thermometer (infoStep info a) (thermometerStep float tenths a)

/-- The step, or a poll that an exception ended when only some states had been read. -/
def Follows (float : String → Except PyException PyFloat) (a : Action) (p p' : Panel) : Prop :=
  p' = p.step float a ∨
    (a = .poll ∧ ∃ r q, p = .relay r ∧ p' = .relay (r.refreshOn q))

end Panel

/-! ## The identity words -/

namespace EctoDevice
variable {σ : Type} [ModbusSlave σ] [LawfulModbusSlave σ] {d : EctoDevice σ} {info info' : List ℤ}
  {reg : ℕ} {callback : Option ReadCallback} {x : ℤ}

theorem HasInput.hasInfo (h : d.HasInput reg callback info x) :
    d.HasBlock .holdingRegisters 0 info :=
  hasBlock_of_mem (by rw [h.blocks]; exact List.mem_cons_self)

theorem HasInput.blocks_eq (h : d.HasInput reg callback info' x)
    (hi : d.HasBlock .holdingRegisters 0 info) : (table d.slave).blocks =
      [⟨blockName 0, .holdingRegisters, 0, info⟩,
        ⟨blockName reg, .readInputRegisters, reg, [x]⟩] := by
  have hinfo : info' = info := congrArg Block.values (Option.some.inj (h.hasInfo.symm.trans hi))
  rw [h.blocks, hinfo]

theorem HasInput.requested (h : d.HasInput reg callback info x) (a : ℕ) (ws : List ℤ) :
    ((EctoDevice.masterWrite a ws).after d).HasInput reg callback
      (EctoDevice.requested 0 info a ws) x := by
  obtain ⟨info', hi'⟩ := h.masterWrite a ws
  have hinfo : info' = EctoDevice.requested 0 info a ws :=
    congrArg Block.values (Option.some.inj (hi'.hasInfo.symm.trans (h.hasInfo.masterWrite a ws)))
  rwa [← hinfo]

/-- A call stores nothing to the identity words, if the sensor of register `reg` has its block. -/
def KeepsInfo (reg : ℕ) (d d' : EctoDevice σ) : Prop :=
  d.Named reg → d'.Named reg ∧
    ∀ info, d.HasBlock .holdingRegisters 0 info → d'.HasBlock .holdingRegisters 0 info

theorem KeepsInfo.refl (reg : ℕ) (d : EctoDevice σ) : KeepsInfo reg d d :=
  fun hn => ⟨hn, fun _ => id⟩

theorem KeepsInfo.trans {d' d'' : EctoDevice σ} (h : KeepsInfo reg d d')
    (h' : KeepsInfo reg d' d'') : KeepsInfo reg d d'' := by
  intro hn
  obtain ⟨hn', hb⟩ := h hn
  obtain ⟨hn'', hb'⟩ := h' hn'
  exact ⟨hn'', fun info hi => hb' info (hb info hi)⟩

theorem keepsInfo_setRegister (hreg : reg ≠ 0) (vs : List ℤ) (d : EctoDevice σ) :
    KeepsInfo reg d ((setRegister reg vs).after d) := by
  intro hn
  obtain ⟨slave', hs⟩ := setRegister_slave reg vs d
  refine ⟨?_, fun info hi => hi.setRegister_of_ne hn hreg.symm vs⟩
  rw [hs]
  exact hn

end EctoDevice

namespace EctoCH10BinarySensor
open PyM EctoDevice
variable {σ : Type} [ModbusSlave σ] [LawfulModbusSlave σ]

theorem keepsInfo_setSwitchState (num state : ℤ) :
    Moves (fun d d' : EctoCH10BinarySensor σ => KeepsInfo 0x10 d.toEctoDevice d'.toEctoDevice)
      (setSwitchState num state) := by
  intro d
  unfold setSwitchState
  rw [after_get_bind]
  rcases index 8 (7 - num) with _ | i
  · exact .refl 0x10 _
  · rw [ofOption_some, pure_bind]
    split_ifs
    · rw [after_set_bind, setValue, after_zoom]
      exact keepsInfo_setRegister (by decide) _ d.toEctoDevice
    · exact .refl 0x10 _

end EctoCH10BinarySensor

namespace NodeSystem
open PyM
variable {σ η : Type} [ModbusSlave σ] [LawfulModbusSlave σ]

inductive Shows : State σ η → Panel → Prop
  | relay {d : EctoRelay10CH σ (Fin 10)} {bank : SwitchBank η} {v : RelayImage (Fin 10)}
      {added : Fin 10 → Bool} (h : RelaySystem.Tracks (d, bank) v added) :
      Shows (.relay10ch d, bank) (.relay v.panel)
  | contacts {d : EctoCH10BinarySensor σ} {bank : SwitchBank η} {info : List ℤ}
      {places : Fin 8 → Bool} {shown : Fin 10 → Bool}
      (h : BinarySensorSystem.Tracks (d, bank) places shown)
      (hi : d.toEctoDevice.HasBlock .holdingRegisters 0 info) :
      Shows (.binarySensor10ch d, bank) (.contacts info places shown)
  | thermometer {d : EctoTemperatureSensor σ} {bank : SwitchBank η} {info : List ℤ} {tenths : ℤ}
      (h : d.toEctoDevice.HasInput 0x20 none info tenths) :
      Shows (.temperatureSensor d, bank) (.thermometer info tenths)

theorem Shows.registers_eq {s : State σ η} {p : Panel} (h : Shows s p) :
    (table s.1.base.slave).blocks = p.registers := by
  cases h with
  | relay h => exact h.models.blocks
  | contacts h hi =>
    obtain ⟨_, hinput⟩ := h.device.input
    exact hinput.blocks_eq hi
  | thermometer h => exact h.blocks

/-! ## New devices -/

theorem tracks_setUp {addr : ℕ} {slave : σ} {d : EctoRelay10CH σ (Fin 10)}
    (hs : LawfulModbusSlave.table slave = BlockTable.Table.empty)
    (hd : EctoRelay10CH.init addr slave = .ok d) (hass : η) :
    RelaySystem.Tracks (d, SwitchBank.fresh hass) (RelayImage.fresh addr) fun _ => false where
  models := EctoRelay10CH.models_of_init hs hd
  agree _ := {
    bit := Or.inl rfl
    channel := rfl
    hass := rfl
    own := fun _ hk => nomatch hk
    registered := fun hc => nomatch hc
    shown := fun hc => nomatch hc }

theorem shows_setUp {addr : ℕ} {d₀ d : Device σ (Fin 10)} {entityId : Option String}
    (h₀ : DeviceRuns.SetUp addr d₀) (ha : Device.asyncInit d₀ = .ok entityId d) (hass : η) :
    Shows (d, SwitchBank.fresh hass) (Panel.fresh addr d.deviceClass) := by
  rcases h₀ with ⟨hs, hd⟩ | ⟨hs, hd⟩ | ⟨hs, hd⟩
  · cases ha
    exact .relay (tracks_setUp hs hd hass)
  · cases ha
    have hinput := (EctoCH10BinarySensor.input_of_init hs hd).2
    exact .contacts ⟨EctoCH10BinarySensor.holds_of_init hs hd, fun _ => rfl, fun _ => rfl⟩
      hinput.hasInfo
  · rename_i d₁
    obtain ⟨entityId', hok⟩ := EctoTemperatureSensor.asyncInit_ok d₁
    have hi := EctoTemperatureSensor.input_of_init hs hd
    have hd' : Device.asyncInit (.temperatureSensor d₁ : Device σ (Fin 10)) =
        .ok entityId' (.temperatureSensor { d₁ with hass := true }) := by
      simp only [Device.asyncInit, hok]
    rw [hd'] at ha
    cases ha
    exact .thermometer hi

variable {float : String → Except PyException PyFloat}

/-! ## Relays -/

section
variable {d : EctoRelay10CH σ (Fin 10)} {bank : SwitchBank η} {v : RelayImage (Fin 10)}
  {added : Fin 10 → Bool}

theorem Shows.relay_of {s : State σ η} {t : RelaySystem.State σ η} {r : RelayPanel}
    (hs : s = (.relay10ch t.1, t.2)) {v' : RelayImage (Fin 10)} {added' : Fin 10 → Bool}
    (h : RelaySystem.Tracks t v' added') (hv : v'.panel = r) : Shows s (.relay r) := by
  rw [hs, ← hv]
  exact .relay h

variable [HomeAssistant η]

theorem shows_relay_updateState (h : RelaySystem.Tracks (d, bank) v added) (e : Fin 10) (b : Bool) :
    Shows ((onSwitchDevice (SwitchBank.updateState e b) (SwitchBank.updateState e b)).after
      (.relay10ch d, bank)) (.relay (v.panel.command e b.toInt)) :=
  Shows.relay_of (after_onSwitchDevice_relay ..) (RelaySystem.step_updateState h b)
    (v.panel_command e (toInt_bit b))

theorem shows_relay_addEntity (h : RelaySystem.Tracks (d, bank) v added) (e : Fin 10)
    (lastState : Option (Option String)) :
    Shows ((call float (.addEntity e lastState)).after (.relay10ch d, bank))
      (.relay (v.panel.command e 0)) := by
  obtain ⟨hd, he⟩ := entities_after_addToHass e lastState (d, bank)
  exact Shows.relay_of (after_onSwitchDevice_relay ..)
    ((RelaySystem.step_addEntity h e lastState).congr hd he)
    ((v.setCallback e e).panel_command e (Or.inl rfl))

/-- A poll copies some of the states, whatever the entities' Home Assistant does. -/
theorem shows_relay_poll (float : String → Except PyException PyFloat)
    (h : RelaySystem.Tracks (d, bank) v added) :
    ∃ q, Shows ((call float .poll).after (.relay10ch d, bank)) (.relay (v.panel.refreshOn q)) := by
  obtain ⟨q, hq⟩ := RelaySystem.step_sync h
  exact ⟨q, Shows.relay_of (EctoCoordinator.after_updateDevice_relay SwitchBank.invoke d bank)
    hq rfl⟩

theorem shows_relay_poll_ok (hh : HomeAssistant.NeverRaises η)
    (h : RelaySystem.Tracks (d, bank) v added) :
    ∃ s', call float .poll (.relay10ch d, bank) = .ok () s' ∧
      Shows s' (.relay (v.panel.refreshOn fun _ => true)) := by
  obtain ⟨c, t, hok, ht⟩ := RelaySystem.step_sync_ok hh h
  refine ⟨(.relay10ch t.1, t.2), ?_, Shows.relay_of rfl ht rfl⟩
  simp only [call, EctoCoordinator.updateDevice, hok]

theorem shows_relay_step (h : RelaySystem.Tracks (d, bank) v added) {a : Action} (ha : a ≠ .poll) :
    Shows ((call float a).after (.relay10ch d, bank)) (.relay (v.panel.step a)) := by
  cases a with
  | addEntity e lastState => exact shows_relay_addEntity h e lastState
  | turnOn e => exact shows_relay_updateState h e true
  | turnOff e => exact shows_relay_updateState h e false
  | stateChanged newState => exact .relay h
  | masterWrite a ws =>
    rw [after_masterWrite]
    exact Shows.relay_of rfl
      (RelaySystem.step_request h a (requestValues ws)) (v.panel_request a ws)
  | poll => exact absurd rfl ha

end

/-! ## Contact sensors -/

section
variable {d : EctoCH10BinarySensor σ} {bank : SwitchBank η} {info : List ℤ}
  {places : Fin 8 → Bool} {shown : Fin 10 → Bool}

theorem Shows.contacts_of {s : State σ η} {t : BinarySensorSystem.State σ η}
    (hs : s = (.binarySensor10ch t.1, t.2)) (h : BinarySensorSystem.Tracks t places shown)
    (hi : t.1.toEctoDevice.HasBlock .holdingRegisters 0 info) :
    Shows s (.contacts info places shown) := by
  rw [hs]
  exact .contacts h hi

/-- The identity words outlive a call that stores to the contact word only. -/
theorem hasInfo_after {m : PyM (BinarySensorSystem.State σ η) Unit}
    (hm : Moves (fun p q => EctoDevice.KeepsInfo 0x10 p.1.toEctoDevice q.1.toEctoDevice) m)
    (h : BinarySensorSystem.Tracks (d, bank) places shown)
    (hi : d.toEctoDevice.HasBlock .holdingRegisters 0 info) :
    (m.after (d, bank)).1.toEctoDevice.HasBlock .holdingRegisters 0 info := by
  obtain ⟨_, hinput⟩ := h.device.input
  exact (hm (d, bank) (EctoDevice.named_of_sensor hinput.registered)).2 info hi

theorem hasInfo_addEntity (h : BinarySensorSystem.Tracks (d, bank) places shown)
    (hi : d.toEctoDevice.HasBlock .holdingRegisters 0 info) (e : Fin 10)
    (lastState : Option (Option String)) :
    ((SwitchBank.addEntity e lastState).after (d, bank)).1.toEctoDevice.HasBlock
      .holdingRegisters 0 info := by
  refine hasInfo_after ?_ h hi
  refine SwitchBank.moves_addEntity
    (R := fun d d' : EctoCH10BinarySensor σ =>
      EctoDevice.KeepsInfo 0x10 d.toEctoDevice d'.toEctoDevice)
    (fun _ => .refl _ _) (fun _ _ _ => .trans) EctoCH10BinarySensor.keepsInfo_setSwitchState ?_
    e lastState
  -- a contact sensor has no callbacks to register
  intro register hregister
  cases hregister

theorem tracks_masterWrite (h : BinarySensorSystem.Tracks (d, bank) places shown) (a : ℕ)
    (vs : List ℤ) : BinarySensorSystem.Tracks
      ({ d with toEctoDevice := (EctoDevice.masterWrite a vs).after d.toEctoDevice }, bank)
      places shown := by
  obtain ⟨info, hi⟩ := h.device.input
  obtain ⟨info', hi'⟩ := hi.masterWrite a vs
  exact ⟨⟨⟨info', hi'⟩, h.device.list, h.device.bits⟩, h.channel, h.shown⟩

variable [HomeAssistant η]

theorem hasInfo_updateState (h : BinarySensorSystem.Tracks (d, bank) places shown)
    (hi : d.toEctoDevice.HasBlock .holdingRegisters 0 info) (e : Fin 10) (b : Bool) :
    ((SwitchBank.updateState e b).after (d, bank)).1.toEctoDevice.HasBlock
      .holdingRegisters 0 info := by
  refine hasInfo_after ?_ h hi
  exact SwitchBank.moves_updateState
    (R := fun d d' : EctoCH10BinarySensor σ =>
      EctoDevice.KeepsInfo 0x10 d.toEctoDevice d'.toEctoDevice)
    (fun _ => .refl _ _) (fun _ _ _ => .trans) EctoCH10BinarySensor.keepsInfo_setSwitchState e b

theorem shows_contacts_step (float : String → Except PyException PyFloat)
    (h : BinarySensorSystem.Tracks (d, bank) places shown)
    (hi : d.toEctoDevice.HasBlock .holdingRegisters 0 info) (a : Action) :
    Shows ((call float a).after (.binarySensor10ch d, bank))
      ((Panel.contacts info places shown).step float a) := by
  cases a with
  | addEntity e lastState =>
    have ht := BinarySensorSystem.step_tracks h (.addEntity e lastState)
    obtain ⟨hd, he⟩ := entities_after_addToHass e lastState (d, bank)
    refine Shows.contacts_of (after_onSwitchDevice_sensor ..) ⟨?_, ?_, ?_⟩ ?_
    · rw [hd]
      exact ht.device
    · rw [he]
      exact ht.channel
    · rw [he]
      exact ht.shown
    · rw [hd]
      exact hasInfo_addEntity h hi e lastState
  | turnOn e =>
    exact Shows.contacts_of (after_onSwitchDevice_sensor ..)
      (BinarySensorSystem.step_tracks h (.turnOn e)) (hasInfo_updateState h hi e true)
  | turnOff e =>
    exact Shows.contacts_of (after_onSwitchDevice_sensor ..)
      (BinarySensorSystem.step_tracks h (.turnOff e)) (hasInfo_updateState h hi e false)
  | stateChanged newState => exact .contacts h hi
  | masterWrite a ws =>
    rw [after_masterWrite]
    exact Shows.contacts_of rfl (tracks_masterWrite h a (requestValues ws))
      (hi.masterWrite a (requestValues ws))
  | poll => exact .contacts h hi

end

/-! ## Temperature sensors -/

variable [HomeAssistant η]

theorem shows_thermometer_step (float : String → Except PyException PyFloat)
    {d : EctoTemperatureSensor σ} {bank : SwitchBank η} {info : List ℤ} {tenths : ℤ}
    (h : d.toEctoDevice.HasInput 0x20 none info tenths) (a : Action) :
    Shows ((call float a).after (.temperatureSensor d, bank))
      ((Panel.thermometer info tenths).step float a) := by
  cases a with
  | addEntity e lastState => exact .thermometer h
  | turnOn e => exact .thermometer h
  | turnOff e => exact .thermometer h
  | stateChanged newState =>
    have hs : (call float (.stateChanged newState)).after (.temperatureSensor d, bank) =
        (.temperatureSensor ((EctoTemperatureSensor.history float).step d newState), bank) := by
      have hafter : (call float (.stateChanged newState)).after (.temperatureSensor d, bank) = _ :=
        after_asDevice .temperatureSensor d
          (first (EctoTemperatureSensor.stateChanged float newState))
          (.temperatureSensor d, bank)
      rw [hafter, after_first]
      rfl
    rw [hs, EctoTemperatureSensor.history_step, Panel.step, Panel.thermometerStep]
    cases EctoTemperatureSensor.finiteTemp float newState with
    | none => exact .thermometer h
    | some t => exact .thermometer (EctoTemperatureSensor.hasInput_store h _)
  | masterWrite a ws =>
    rw [after_masterWrite]
    exact .thermometer (h.requested a (requestValues ws))
  | poll => exact .thermometer h

/-! ## Any device -/

variable {s : State σ η} {p : Panel}

theorem shows_step_of_ne_poll (h : Shows s p) {a : Action} (ha : a ≠ .poll) :
    Shows ((call float a).after s) (p.step float a) := by
  rcases h with h | ⟨h, hi⟩ | h
  · exact shows_relay_step h ha
  · exact shows_contacts_step float h hi a
  · exact shows_thermometer_step float h a

theorem follows_step (float : String → Except PyException PyFloat) (h : Shows s p) (a : Action) :
    ∃ p', Shows ((call float a).after s) p' ∧ p.Follows float a p' := by
  by_cases ha : a = .poll
  · subst ha
    rcases h with h | ⟨h, hi⟩ | h
    · -- an exception may have kept the poll from some of the channels
      obtain ⟨q, hq⟩ := shows_relay_poll float h
      exact ⟨_, hq, Or.inr ⟨rfl, _, q, rfl, rfl⟩⟩
    · exact ⟨_, shows_contacts_step float h hi .poll, Or.inl rfl⟩
    · exact ⟨_, shows_thermometer_step float h .poll, Or.inl rfl⟩
  · exact ⟨_, shows_step_of_ne_poll h ha, Or.inl rfl⟩

theorem shows_poll_ok (float : String → Except PyException PyFloat)
    (hh : HomeAssistant.NeverRaises η) (h : Shows s p) :
    ∃ s', call float .poll s = .ok () s' ∧ Shows s' (p.step float .poll) := by
  rcases h with h | ⟨h, hi⟩ | h
  · exact shows_relay_poll_ok hh h
  · exact ⟨_, rfl, shows_contacts_step float h hi .poll⟩
  · exact ⟨_, rfl, shows_thermometer_step float h .poll⟩

theorem shows_step (hh : HomeAssistant.NeverRaises η) (h : Shows s p) (a : Action) :
    Shows ((call float a).after s) (p.step float a) := by
  by_cases ha : a = .poll
  · subst ha
    obtain ⟨s', hok, hs'⟩ := shows_poll_ok float hh h
    rwa [after_ok hok]
  · exact shows_step_of_ne_poll h ha

end NodeSystem
end Ecto
