import EctoModbus.Devices.RelayDefs
import EctoModbus.Devices.BinarySensorDefs

/-! `switch.py`: the ten switch entities of one device. An entity works with any device that has
`set_switch_state`; what else the device offers it finds out with `hasattr` and `isinstance`. -/

namespace Ecto
open Python

/-- What the entities ask of `self._device`. Callbacks are the bound methods
`_on_device_state_change`, one for each entity. -/
class SwitchDevice (δ : Type) where
  setSwitchState : ℤ → ℤ → PyM δ Unit
  setStateChangeCallback : Option (ℤ → Fin 10 → PyM δ Unit)
  getChannelState : Option (ℤ → δ → Option ℤ)
  isEctoRelay10CH : Bool

section
variable {σ : Type} [ModbusSlave σ]

instance : SwitchDevice (EctoRelay10CH σ (Fin 10)) where
  setSwitchState := EctoRelay10CH.setSwitchState
  setStateChangeCallback := some EctoRelay10CH.setStateChangeCallback
  getChannelState := some EctoRelay10CH.getChannelState
  isEctoRelay10CH := true

instance : SwitchDevice (EctoCH10BinarySensor σ) where
  setSwitchState := EctoCH10BinarySensor.setSwitchState
  setStateChangeCallback := none
  getChannelState := none
  isEctoRelay10CH := false

end

/-- Home Assistant, as far as an entity calls it: to write out its state. The call may raise. -/
class HomeAssistant (η : Type) where
  asyncScheduleUpdateHaState : Fin 10 → Bool → PyM η Unit

def HomeAssistant.NeverRaises (η : Type) [HomeAssistant η] : Prop :=
  ∀ e b (h : η), ∃ h', HomeAssistant.asyncScheduleUpdateHaState e b h = .ok () h'

abbrev StateLog := List (Fin 10 × Bool)

instance : HomeAssistant StateLog where
  asyncScheduleUpdateHaState e state := modify fun log => log ++ [(e, state)]

/-- `hass` is set by Home Assistant before it adds the entity; `ownHass` is `_hass`. -/
structure EctoChannelSwitch where
  channel : ℤ
  state : Bool
  hass : Bool
  ownHass : Bool
  deriving DecidableEq, Repr

def EctoChannelSwitch.init (channel : ℤ) : EctoChannelSwitch := ⟨channel, false, false, false⟩

def EctoChannelSwitch.isOn (self : EctoChannelSwitch) : Bool := self.state

structure SwitchBank (η : Type) where
  entities : Fin 10 → EctoChannelSwitch
  hass : η

def STATE_UNAVAILABLE : String := "unavailable"
def STATE_ON : String := "on"

namespace SwitchBank
variable {η δ : Type}

/-- The entities `async_setup_platform` creates for one device. -/
def fresh (hass : η) : SwitchBank η := ⟨fun c => EctoChannelSwitch.init c, hass⟩

def setEntity (e : Fin 10) (f : EctoChannelSwitch → EctoChannelSwitch) (bank : SwitchBank η) :
    SwitchBank η :=
  { bank with entities := Function.update bank.entities e (f (bank.entities e)) }

section
variable [HomeAssistant η]

def scheduleUpdate (e : Fin 10) : PyM (SwitchBank η) Unit := do
  let bank ← get
  PyM.zoom SwitchBank.hass (fun hass bank => { bank with hass := hass })
    (HomeAssistant.asyncScheduleUpdateHaState e (bank.entities e).state)

def onDeviceStateChange (e : Fin 10) (channel state : ℤ) : PyM (SwitchBank η) Unit := do
  let bank ← get
  if channel = (bank.entities e).channel then
    modify (setEntity e fun self => { self with state := truthy state })
    if (bank.entities e).ownHass then scheduleUpdate e else pure ()
  else
    pure ()

def invoke (call : Call (Fin 10)) : PyM (SwitchBank η) Unit :=
  onDeviceStateChange call.callback call.channel call.state

variable [SwitchDevice δ]

def updateState (e : Fin 10) (state : Bool) : PyM (δ × SwitchBank η) Unit := do
  let (_, bank) ← get
  let channel := (bank.entities e).channel
  if state then
    PyM.first (SwitchDevice.setSwitchState channel 1)
  else
    PyM.first (SwitchDevice.setSwitchState channel 0)
  PyM.second (modify (setEntity e fun self => { self with state := state }))
  if (bank.entities e).hass then PyM.second (scheduleUpdate e) else pure ()

def asyncTurnOn (e : Fin 10) : PyM (δ × SwitchBank η) Unit := updateState e true

def asyncTurnOff (e : Fin 10) : PyM (δ × SwitchBank η) Unit := updateState e false

end

section
variable [SwitchDevice δ]

/-- The branch of `async_internal_added_to_hass` without a previous state. -/
def syncFromDevice (e : Fin 10) : PyM (δ × SwitchBank η) Unit := do
  let (device, bank) ← get
  match (SwitchDevice.getChannelState : Option (ℤ → δ → Option ℤ)) with
  | some getChannelState =>
    match getChannelState (bank.entities e).channel device with
    | some deviceState =>
      PyM.second (modify (setEntity e fun self => { self with state := truthy deviceState }))
    | none => pure ()
  | none => pure ()

/-- The branch of `async_internal_added_to_hass` for devices whose state persists. `lastState` is
the state Home Assistant restores, if any; its text may be missing. -/
def restoreState (e : Fin 10) (channel : ℤ) : Option (Option String) → PyM (δ × SwitchBank η) Unit
  | some (some state) => do
    if state ≠ STATE_UNAVAILABLE then
      if state = STATE_ON then
        PyM.first (SwitchDevice.setSwitchState channel 1)
        PyM.second (modify (setEntity e fun self => { self with state := true }))
      else
        PyM.first (SwitchDevice.setSwitchState channel 0)
        PyM.second (modify (setEntity e fun self => { self with state := false }))
    else
      syncFromDevice e
  | _ => syncFromDevice e

def asyncInternalAddedToHass (e : Fin 10) (lastState : Option (Option String)) :
    PyM (δ × SwitchBank η) Unit := do
  PyM.second (modify (setEntity e fun self => { self with ownHass := self.hass }))
  let (_, bank) ← get
  let channel := (bank.entities e).channel
  match (SwitchDevice.setStateChangeCallback : Option (ℤ → Fin 10 → PyM δ Unit)) with
  | some setStateChangeCallback => PyM.first (setStateChangeCallback channel e)
  | none => pure ()
  if SwitchDevice.isEctoRelay10CH δ then
    PyM.second (modify (setEntity e fun self => { self with state := false }))
    PyM.first (SwitchDevice.setSwitchState channel 0)
  else
    restoreState e channel lastState

def addEntity (e : Fin 10) (lastState : Option (Option String)) : PyM (δ × SwitchBank η) Unit := do
  PyM.second (modify (setEntity e fun self => { self with hass := true }))
  asyncInternalAddedToHass e lastState

end
end SwitchBank
end Ecto
