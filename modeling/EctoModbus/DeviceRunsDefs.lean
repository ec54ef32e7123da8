import EctoModbus.CoordinatorDefs
import EctoModbus.Library.Transition

/-! A device of any kind and everything that acts on it over its life: commands, timers,
temperatures, polls, and requests of the master. -/

namespace Ecto
open Python Transition BlockTable

namespace Device
variable {σ κ : Type}

def withBase (b : EctoDevice σ) : Device σ κ → Device σ κ
  | .relay10ch d => .relay10ch { d with toEctoDevice := b }
  | .binarySensor10ch d => .binarySensor10ch { d with toEctoDevice := b }
  | .temperatureSensor d => .temperatureSensor { d with toEctoDevice := b }

@[simp] theorem base_withBase (b : EctoDevice σ) (d : Device σ κ) : (d.withBase b).base = b := by
  cases d <;> rfl

end Device

namespace DeviceRuns
variable {σ κ W : Type} [ModbusSlave σ]

inductive Action where
  | setSwitchState (c : Fin 10) (state : ℤ)
  | setTimer (channel : ℤ) (initialState : Bool) (timeoutSeconds : ℚ)
  | stateChanged (newState : Option (Option String))
  | poll
  | masterWrite (a : ℕ) (ws : List (BitVec 16))

def Enabled : Device σ κ → Action → Prop
  | .relay10ch _, .stateChanged _ => False
  | .binarySensor10ch _, .setTimer _ _ _ => False
  | .binarySensor10ch _, .stateChanged _ => False
  | .temperatureSensor _, .setSwitchState _ _ => False
  | .temperatureSensor _, .setTimer _ _ _ => False
  | _, _ => True

def step (float : String → Except PyException PyFloat) (invoke : Call κ → PyM W Unit)
    (p : Device σ κ × W) : Action → Device σ κ × W
  | .setSwitchState c state =>
    match p.1 with
    | .relay10ch d => (.relay10ch ((EctoRelay10CH.setSwitchState c state).after d), p.2)
    | .binarySensor10ch d =>
      (.binarySensor10ch ((EctoCH10BinarySensor.setSwitchState c state).after d), p.2)
    | .temperatureSensor _ => p
  | .setTimer channel initialState timeoutSeconds =>
    match p.1 with
    | .relay10ch d =>
      (.relay10ch ((EctoRelay10CH.setTimer channel initialState timeoutSeconds).after d), p.2)
    | _ => p
  | .stateChanged newState =>
    match p.1 with
    | .temperatureSensor d =>
      (.temperatureSensor ((EctoTemperatureSensor.stateChanged float newState).after d), p.2)
    | _ => p
  | .poll => (EctoCoordinator.updateDevice invoke).after p
  | .masterWrite a ws =>
    (p.1.withBase ((EctoDevice.masterWrite a (requestValues ws)).after p.1.base), p.2)

/-- A device of some kind, set up on a fresh slave at an address the schema accepts. -/
inductive SetUp [LawfulModbusSlave σ] (addr : ℕ) : Device σ κ → Prop where
  | relay10ch {slave : σ} {d : EctoRelay10CH σ κ} : table slave = Table.empty →
      EctoRelay10CH.init addr slave = .ok d → SetUp addr (.relay10ch d)
  | binarySensor10ch {slave : σ} {d : EctoCH10BinarySensor σ} : table slave = Table.empty →
      EctoCH10BinarySensor.init addr slave = .ok d → SetUp addr (.binarySensor10ch d)
  | temperatureSensor {slave : σ} {entityId : Option String} {d : EctoTemperatureSensor σ} :
      table slave = Table.empty → EctoTemperatureSensor.init addr entityId slave = .ok d →
      SetUp addr (.temperatureSensor d)

def machine [LawfulModbusSlave σ] (float : String → Except PyException PyFloat)
    (invoke : Call κ → PyM W Unit) : Machine (Device σ κ × W) Action where
  Init p := ∃ addr, 3 ≤ addr ∧ addr ≤ 32 ∧ SetUp addr p.1
  Enabled p := Enabled p.1
  step := step float invoke

end DeviceRuns
end Ecto
