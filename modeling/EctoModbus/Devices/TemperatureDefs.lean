import EctoModbus.Devices.Base

/-! `devices/temperature.py`: the temperature of a Home Assistant sensor, in tenths of a degree,
in input register 0x20. -/

namespace Ecto
open Python

/-- `hass` says whether `_hass` is set. -/
structure EctoTemperatureSensor (σ : Type) extends EctoDevice σ where
  entityId : Option String
  hass : Bool

namespace EctoTemperatureSensor
variable {σ : Type} [ModbusSlave σ]

def DEVICE_TYPE : ℕ := 0x22
def CHANNEL_COUNT : ℕ := 1

def init (addr : ℕ) (entityId : Option String) (slave : σ) :
    Except PyException (EctoTemperatureSensor σ) := do
  let self ← EctoDevice.init DEVICE_TYPE CHANNEL_COUNT addr slave
  let self ← self.addRegister .readInputRegisters 0x20 1 none
  return { toEctoDevice := self, entityId := entityId, hass := false }

/-- Returns the entity that is tracked from now on, if one is configured. -/
def asyncInit : PyM (EctoTemperatureSensor σ) (Option String) := do
  modify fun self => { self with hass := true }
  let self ← get
  match self.entityId with
  | some entityId => if entityId ≠ "" then return some entityId else return none
  | none => return none

/-- `int(float(new_state.state) * 10)`, for a state that may be missing, and so may its text. -/
def scaledValue (float : String → Except PyException PyFloat) :
    Option (Option String) → Except PyException ℤ
  | none => .error .attributeError
  | some none => .error .typeError
  | some (some text) => do
    let temp ← float text
    (temp.scale 10).toInt

/-- The exceptions that `_state_changed` logs and drops. -/
def Logged : PyException → Bool
  | .valueError => true
  | .attributeError => true
  | .typeError => true
  | _ => false

def stateChanged (float : String → Except PyException PyFloat)
    (newState : Option (Option String)) : PyM (EctoTemperatureSensor σ) Unit :=
  tryCatch
    (do
      let scaled ← PyM.ofExcept (scaledValue float newState)
      PyM.zoom EctoTemperatureSensor.toEctoDevice (fun d self => { self with toEctoDevice := d })
        (EctoDevice.setRegister 0x20 [scaled]))
    fun e => if Logged e then pure () else throw e

end EctoTemperatureSensor
end Ecto
