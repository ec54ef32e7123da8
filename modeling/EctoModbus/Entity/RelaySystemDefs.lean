import EctoModbus.Entity.Switch
import EctoModbus.Devices.Relay
import EctoModbus.Library.Transition

/-! One relay with its ten entities, and everything that acts on them: Home Assistant adds
entities and sends commands, a master stores words in register 0x10, and the register is read
back by the coordinator's poll or by the write hook. -/

namespace Ecto
open Python Transition BlockTable

namespace RelaySystem

abbrev State (σ η : Type) := EctoRelay10CH σ (Fin 10) × SwitchBank η

inductive Action where
  | addEntity (e : Fin 10) (lastState : Option (Option String))
  | turnOn (e : Fin 10)
  | turnOff (e : Fin 10)
  | masterWrite (w : BitVec 16)
  | registerWrite (w : ℤ)
  | poll
  deriving DecidableEq, Repr

/-- The `set_switch_state` an action makes: its channel and state. -/
def Action.command : Action → Option (Fin 10 × ℤ)
  | .addEntity e _ => some (e, 0)
  | .turnOn e => some (e, 1)
  | .turnOff e => some (e, 0)
  | _ => none

/-- Channel `c` is left to itself: no master write, none reported, no command on `c`. -/
def Action.Spares (c : Fin 10) : Action → Prop
  | .masterWrite _ => False
  | .registerWrite _ => False
  | a => ∀ b, a.command ≠ some (c, b)

variable {σ η : Type} [ModbusSlave σ] [HomeAssistant η]

def call : Action → PyM (State σ η) Unit
  | .addEntity e lastState => SwitchBank.addEntity e lastState
  | .turnOn e => SwitchBank.asyncTurnOn e
  | .turnOff e => SwitchBank.asyncTurnOff e
  | .masterWrite w =>
    PyM.first (EctoRelay10CH.onDevice (EctoDevice.masterWrite 0x10 [(w.toNat : ℤ)]))
  | .registerWrite w => EctoRelay10CH.onRegisterWrite SwitchBank.invoke 0x10 [w]
  | .poll => do
    let _ ← EctoRelay10CH.syncChannelsFromRegister SwitchBank.invoke
    pure ()

/-- Home Assistant adds an entity once, and commands only entities it has added. -/
def Enabled (s : State σ η) : Action → Prop
  | .addEntity e _ => (s.2.entities e).hass = false
  | .turnOn e => (s.2.entities e).hass = true
  | .turnOff e => (s.2.entities e).hass = true
  | _ => True

instance (s : State σ η) (a : Action) : Decidable (Enabled s a) :=
  match a with
  | .addEntity _ _ => inferInstanceAs (Decidable (_ = _))
  | .turnOn _ => inferInstanceAs (Decidable (_ = _))
  | .turnOff _ => inferInstanceAs (Decidable (_ = _))
  | .masterWrite _ => inferInstanceAs (Decidable True)
  | .registerWrite _ => inferInstanceAs (Decidable True)
  | .poll => inferInstanceAs (Decidable True)

structure Init [LawfulModbusSlave σ] (s : State σ η) : Prop where
  relay : ∃ addr slave, table slave = Table.empty ∧ EctoRelay10CH.init addr slave = .ok s.1
  bank : ∃ hass, s.2 = SwitchBank.fresh hass

/-- An action that raises keeps what it has done. -/
def machine (σ η : Type) [ModbusSlave σ] [LawfulModbusSlave σ] [HomeAssistant η] :
    Machine (State σ η) Action where
  Init := Init
  Enabled := Enabled
  step s a := (call a).after s

instance [LawfulModbusSlave σ] (s : State σ η) (a : Action) :
    Decidable ((machine σ η).Enabled s a) := inferInstanceAs (Decidable (Enabled s a))

def shadow [LawfulModbusSlave σ] (s : State σ η) : Shadow.Shadowed (Fin 10) ℤ :=
  ⟨decode s.1.word, s.1.channels⟩

def start : State RegTable StateLog := (EctoRelay10CH.onTable (Fin 10) 3, SwitchBank.fresh [])

theorem init_start : Init start where
  relay := ⟨3, Table.empty, rfl, EctoRelay10CH.init_onTable 3⟩
  bank := ⟨[], rfl⟩

def addAll : List Action := (List.finRange 10).map fun e => .addEntity e none

end RelaySystem
end Ecto
