import EctoModbus.Entity.Switch
import EctoModbus.Devices.BinarySensor
import EctoModbus.Library.Replay
import EctoModbus.Library.Transition

/-! One contact sensor with its ten entities. Only Home Assistant acts on it: a master cannot
write its input register. -/

namespace Ecto
open Python Transition BlockTable

namespace BinarySensorSystem

abbrev State (σ η : Type) := EctoCH10BinarySensor σ × SwitchBank η

inductive Action where
  | addEntity (e : Fin 10) (lastState : Option (Option String))
  | turnOn (e : Fin 10)
  | turnOff (e : Fin 10)
  deriving DecidableEq, Repr

/-- The `set_switch_state` an action makes. An entity is added with its last state, if Home
Assistant knows it. -/
def Action.command : Action → Option (Fin 10 × Bool)
  | .addEntity e (some (some state)) =>
    if state ≠ STATE_UNAVAILABLE then some (e, decide (state = STATE_ON)) else none
  | .addEntity _ _ => none
  | .turnOn e => some (e, true)
  | .turnOff e => some (e, false)

def commands (as : List Action) : List (Fin 10 × Bool) := as.filterMap Action.command

def stateText (on : Bool) : String := if on then STATE_ON else "off"

/-- Home Assistant adds the entities in some order, each with the state it saved. -/
def restore (saved : Fin 10 → Bool) (order : List (Fin 10)) : List Action :=
  order.map fun e => .addEntity e (some (some (stateText (saved e))))

variable {σ η : Type} [ModbusSlave σ] [HomeAssistant η]

def call : Action → PyM (State σ η) Unit
  | .addEntity e lastState => SwitchBank.addEntity e lastState
  | .turnOn e => SwitchBank.asyncTurnOn e
  | .turnOff e => SwitchBank.asyncTurnOff e

/-- Home Assistant adds an entity once, and commands only entities it has added. -/
def Enabled (s : State σ η) : Action → Prop
  | .addEntity e _ => (s.2.entities e).hass = false
  | .turnOn e => (s.2.entities e).hass = true
  | .turnOff e => (s.2.entities e).hass = true

instance (s : State σ η) (a : Action) : Decidable (Enabled s a) :=
  match a with
  | .addEntity _ _ => inferInstanceAs (Decidable (_ = _))
  | .turnOn _ => inferInstanceAs (Decidable (_ = _))
  | .turnOff _ => inferInstanceAs (Decidable (_ = _))

structure Init [LawfulModbusSlave σ] (s : State σ η) : Prop where
  sensor : ∃ addr slave, table slave = Table.empty ∧ EctoCH10BinarySensor.init addr slave = .ok s.1
  bank : ∃ hass, s.2 = SwitchBank.fresh hass

def machine (σ η : Type) [ModbusSlave σ] [LawfulModbusSlave σ] [HomeAssistant η] :
    Machine (State σ η) Action where
  Init := Init
  Enabled := Enabled
  step s a := (call a).after s

instance [LawfulModbusSlave σ] (s : State σ η) (a : Action) :
    Decidable ((machine σ η).Enabled s a) := inferInstanceAs (Decidable (Enabled s a))

def start : State RegTable StateLog := (EctoCH10BinarySensor.onTable 4, SwitchBank.fresh [])

theorem init_start : Init start where
  sensor := ⟨4, Table.empty, rfl, EctoCH10BinarySensor.init_onTable 4⟩
  bank := ⟨[], rfl⟩

def addAll : List Action := (List.finRange 10).map fun e => .addEntity e none

end BinarySensorSystem
end Ecto
