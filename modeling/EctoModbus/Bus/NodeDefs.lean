import EctoModbus.Entity.Platform
import EctoModbus.Entity.RelaySystemDefs
import EctoModbus.Entity.BinarySensorSystemDefs

/-! One device of the bus, of any kind, with the switch entities made for it: what Home Assistant,
the coordinator and a master do to it. -/

namespace Ecto
open Python Transition BlockTable

/-- What `async_setup` leaves of an entry: a device set up on a slave of its own, and told of
`hass` if it has an `async_init`. -/
def Device.InService {σ κ : Type} [ModbusSlave σ] [LawfulModbusSlave σ] (addr : ℕ)
    (d : Device σ κ) : Prop :=
  ∃ d₀ entityId, DeviceRuns.SetUp addr d₀ ∧ Device.asyncInit d₀ = .ok entityId d

/-- The entity whose changes `async_init` has asked for. -/
def Device.tracked {σ κ : Type} : Device σ κ → Option String
  | .temperatureSensor d => if d.hass then d.entityId.filter (· ≠ "") else none
  | _ => none

namespace NodeSystem
variable {σ η κ W α : Type}

abbrev State (σ η : Type) := Device σ (Fin 10) × SwitchBank η

inductive Action where
  | addEntity (e : Fin 10) (lastState : Option (Option String))
  | turnOn (e : Fin 10)
  | turnOff (e : Fin 10)
  | stateChanged (newState : Option (Option String))
  | masterWrite (a : ℕ) (ws : List (BitVec 16))
  | poll
  deriving DecidableEq, Repr

section
variable [ModbusSlave σ]

/-- Runs a call on the device that the state holds, which is of the kind that `put` makes. -/
def asDevice {δ : Type} (put : δ → Device σ κ) (d : δ) (m : PyM (δ × W) α) :
    PyM (Device σ κ × W) α := PyM.zoom (fun p => (d, p.2)) (fun q _ => (put q.1, q.2)) m

/-- A call of an entity; temperature sensors have none. -/
def onSwitchDevice (relay : PyM (EctoRelay10CH σ κ × W) Unit)
    (sensor : PyM (EctoCH10BinarySensor σ × W) Unit) : PyM (Device σ κ × W) Unit := fun p =>
  match p.1 with
  | .relay10ch d => asDevice .relay10ch d relay p
  | .binarySensor10ch d => asDevice .binarySensor10ch d sensor p
  | .temperatureSensor _ => .ok () p

def onTemperatureSensor (m : PyM (EctoTemperatureSensor σ × W) Unit) :
    PyM (Device σ κ × W) Unit := fun p =>
  match p.1 with
  | .temperatureSensor d => asDevice .temperatureSensor d m p
  | _ => .ok () p

def onBase (m : PyM (EctoDevice σ) α) : PyM (Device σ κ) α :=
  PyM.zoom Device.base Device.withBase m

variable [HomeAssistant η]

/-- Home Assistant writes the state of an entity out itself once it has added it. -/
def addToHass {δ : Type} [SwitchDevice δ] (e : Fin 10) (lastState : Option (Option String)) :
    PyM (δ × SwitchBank η) Unit := do
  SwitchBank.addEntity e lastState
  PyM.second (SwitchBank.scheduleUpdate e)

def call (float : String → Except PyException PyFloat) : Action → PyM (State σ η) Unit
  | .addEntity e lastState => onSwitchDevice (addToHass e lastState) (addToHass e lastState)
  | .turnOn e => onSwitchDevice (SwitchBank.asyncTurnOn e) (SwitchBank.asyncTurnOn e)
  | .turnOff e => onSwitchDevice (SwitchBank.asyncTurnOff e) (SwitchBank.asyncTurnOff e)
  | .stateChanged newState =>
    onTemperatureSensor (PyM.first (EctoTemperatureSensor.stateChanged float newState))
  | .masterWrite a ws => PyM.first (onBase (EctoDevice.masterWrite a (requestValues ws)))
  | .poll => EctoCoordinator.updateDevice SwitchBank.invoke

end
end NodeSystem

/-- A device and its entities, without the Home Assistant that all devices share. -/
structure Node (σ : Type) where
  device : Device σ (Fin 10)
  entities : Fin 10 → EctoChannelSwitch

/-- A Home Assistant that keeps nothing. -/
instance : HomeAssistant Unit where
  asyncScheduleUpdateHaState _ _ := pure ()

namespace Node
variable {σ : Type} [ModbusSlave σ]

def fresh (device : Device σ (Fin 10)) : Node σ := ⟨device, fun c => EctoChannelSwitch.init c⟩

def addr (n : Node σ) : ℕ := n.device.base.addr

/-- Home Assistant adds an entity once, and commands only entities it has added. -/
def Enabled (n : Node σ) : NodeSystem.Action → Prop
  | .addEntity e _ => Platform.isSwitchDevice n.device = true ∧ (n.entities e).hass = false
  | .turnOn e => (n.entities e).hass = true
  | .turnOff e => (n.entities e).hass = true
  | _ => True

instance (n : Node σ) (a : NodeSystem.Action) : Decidable (n.Enabled a) :=
  match a with
  | .addEntity _ _ => inferInstanceAs (Decidable (_ ∧ _))
  | .turnOn _ => inferInstanceAs (Decidable (_ = _))
  | .turnOff _ => inferInstanceAs (Decidable (_ = _))
  | .stateChanged _ => inferInstanceAs (Decidable True)
  | .masterWrite _ _ => inferInstanceAs (Decidable True)
  | .poll => inferInstanceAs (Decidable True)

def state {η : Type} (n : Node σ) (hass : η) : NodeSystem.State σ η :=
  (n.device, ⟨n.entities, hass⟩)

def ofState {η : Type} (p : NodeSystem.State σ η) : Node σ := ⟨p.1, p.2.entities⟩

/-- The node on a bus of its own. -/
def machine [LawfulModbusSlave σ] (float : String → Except PyException PyFloat) :
    Machine (Node σ) NodeSystem.Action where
  Init n := ∃ addr device, Device.InService addr device ∧ n = fresh device
  Enabled := Enabled
  step n a := ofState ((NodeSystem.call float a).after (n.state ()))

end Node
end Ecto
