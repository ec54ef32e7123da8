import EctoModbus.Bus.NodeDefs
import EctoModbus.Setup

/-! The whole integration after `async_setup`: all devices of the configuration on one bus, the
entities of all of them in one Home Assistant, one coordinator, and a master. -/

namespace Ecto
open Python Transition

/-- Home Assistant as all entities call it, each under its own `unique_id`. -/
class HassStates (η : Type) where
  asyncScheduleUpdateHaState : String → Bool → PyM η Unit

def HassStates.NeverRaises (η : Type) [HassStates η] : Prop :=
  ∀ id b (h : η), ∃ h', HassStates.asyncScheduleUpdateHaState id b h = .ok () h'

/-- What the entities rely on in Home Assistant: it takes every state they pass, stores the last one
under each `unique_id`, and still has it after a restart. -/
class LawfulHassStates (η : Type) [HassStates η] where
  stored : η → String → Option Bool
  restarted : η → η
  asyncScheduleUpdateHaState_stored (id : String) (state : Bool) (hass : η) :
    ∃ hass', HassStates.asyncScheduleUpdateHaState id state hass = .ok () hass' ∧
      stored hass' = Function.update (stored hass) id (some state)
  stored_restarted (hass : η) : stored (restarted hass) = stored hass

theorem LawfulHassStates.neverRaises (η : Type) [HassStates η] [LawfulHassStates η] :
    HassStates.NeverRaises η := by
  intro id state hass
  obtain ⟨hass', hok, _⟩ := asyncScheduleUpdateHaState_stored id state hass
  exact ⟨hass', hok⟩

/-- The least that will do: the stored states, and nothing else of Home Assistant. -/
abbrev Display := String → Option Bool

instance : HassStates Display where
  asyncScheduleUpdateHaState id state := modify fun stored => Function.update stored id (some state)

instance : LawfulHassStates Display where
  stored display := display
  restarted display := display
  asyncScheduleUpdateHaState_stored _ _ _ := ⟨_, rfl, rfl⟩
  stored_restarted _ := rfl

theorem display_neverRaises : HassStates.NeverRaises Display := LawfulHassStates.neverRaises Display

/-- Home Assistant as the entities of one device call it. -/
structure HassOf (η : Type) where
  addr : ℕ
  hass : η

instance {η : Type} [HassStates η] : HomeAssistant (HassOf η) where
  asyncScheduleUpdateHaState e state := do
    let self ← get
    PyM.zoom HassOf.hass (fun hass self => { self with hass := hass })
      (HassStates.asyncScheduleUpdateHaState (Platform.idText (self.addr, e)) state)

structure Bus (σ η : Type) where
  nodes : List (Node σ)
  hass : η

namespace BusSystem
variable {σ η : Type}

/-- Home Assistant calls entities by device and channel, and tells of the states of other entities.
A master's request is for one slave, or for all of them if it is for unit 0. -/
inductive Action where
  | addEntity (addr : ℕ) (e : Fin 10) (lastState : Option (Option String))
  | turnOn (addr : ℕ) (e : Fin 10)
  | turnOff (addr : ℕ) (e : Fin 10)
  | stateChanged (entityId : String) (newState : Option (Option String))
  | masterWrite (unit a : ℕ) (ws : List (BitVec 16))
  | poll
  deriving DecidableEq, Repr

/-- The part of an action that is done to the device at `addr`, which tracks an entity or not. -/
def route (addr : ℕ) (tracked : Option String) : Action → Option NodeSystem.Action
  | .addEntity addr' e lastState => if addr' = addr then some (.addEntity e lastState) else none
  | .turnOn addr' e => if addr' = addr then some (.turnOn e) else none
  | .turnOff addr' e => if addr' = addr then some (.turnOff e) else none
  | .stateChanged entityId newState =>
    if tracked = some entityId then some (.stateChanged newState) else none
  | .masterWrite unit a ws => if unit = 0 ∨ unit = addr then some (.masterWrite a ws) else none
  | .poll => some .poll

end BusSystem

def Node.route {σ : Type} (n : Node σ) : BusSystem.Action → Option NodeSystem.Action :=
  BusSystem.route n.addr n.device.tracked

namespace BusSystem
variable {σ η : Type} [ModbusSlave σ] [HassStates η]

def onNode (float : String → Except PyException PyFloat) (a : NodeSystem.Action) :
    PyM (Node σ × η) Unit :=
  PyM.zoom (fun p => p.1.state (⟨p.1.addr, p.2⟩ : HassOf η))
    (fun s _ => (Node.ofState s, s.2.hass.hass)) (NodeSystem.call float a)

def onRouted (float : String → Except PyException PyFloat) (b : Action) :
    PyM (Node σ × η) Unit := fun p =>
  match p.1.route b with
  | some a => onNode float a p
  | none => .ok () p

/-- The coordinator goes through the devices in one call, which an exception ends. What else comes
to several devices comes to each on its own. -/
def call (float : String → Except PyException PyFloat) : Action → PyM (List (Node σ) × η) Unit
  | .poll => PyM.each (onNode float .poll)
  | b => PyM.each (PyM.asTask (onRouted float b))

variable [LawfulModbusSlave σ]

/-- Devices in service at different addresses, none of whose entities has been added. -/
structure Init (b : Bus σ η) : Prop where
  nodes : ∀ n ∈ b.nodes, ∃ addr device, Device.InService addr device ∧ n = Node.fresh device
  nodup : (b.nodes.map Node.addr).Nodup

def Enabled (b : Bus σ η) (x : Action) : Prop := ∀ n ∈ b.nodes, ∀ a ∈ n.route x, n.Enabled a

instance (b : Bus σ η) (x : Action) : Decidable (Enabled b x) :=
  inferInstanceAs (Decidable (∀ n ∈ b.nodes, ∀ a ∈ n.route x, n.Enabled a))

def machine (η : Type) [HassStates η] (float : String → Except PyException PyFloat) :
    Machine (Bus σ η) Action where
  Init := Init
  Enabled := Enabled
  step b x :=
    let p := (call float x).after (b.nodes, b.hass)
    ⟨p.1, p.2⟩

instance (float : String → Except PyException PyFloat) (b : Bus σ η) (x : Action) :
    Decidable ((machine η float).Enabled b x) := inferInstanceAs (Decidable (Enabled b x))

/-- The bus of the devices that the loop of `async_setup` left, before the switch platform has
passed their entities to Home Assistant. -/
def ofSetup {ς : Type} (s : Setup ς σ (Fin 10)) (hass : η) : Bus σ η :=
  ⟨s.ectoDevices.map Node.fresh, hass⟩

/-! ## A configuration -/

def confs₃ : List DeviceConf :=
  [⟨.relay10ch, 3, none⟩, ⟨.binarySensor10ch, 4, none⟩,
    ⟨.temperatureSensor, 5, some "sensor.outside"⟩]

def start : Setup SlaveIds RegTable (Fin 10) := ⟨[], [], [], fun _ => none⟩

theorem fresh_start : Setup.Fresh start := ⟨rfl, rfl⟩

def setup₃ : Setup SlaveIds RegTable (Fin 10) := (Setup.setupDevices confs₃).after start

theorem setup_start : Setup.setupDevices confs₃ start = .ok () setup₃ := by
  have haddr : ∀ conf ∈ confs₃, DeviceConf.AddrInRange conf.addr := by
    simp [confs₃, DeviceConf.AddrInRange]
  obtain ⟨s', h⟩ := Setup.setupDevices_ok (s := start) haddr (by decide)
  rw [h, setup₃, PyM.after_ok h]

def bus₃ : Bus RegTable Display := ofSetup setup₃ fun _ => none

def evening (e : Fin 10) : List Action :=
  [.poll, .addEntity 3 e none, .addEntity 4 e (some (some "on")), .masterWrite 3 0x10 [0x0200#16],
    .stateChanged "sensor.outside" (some (some "-3.19")), .poll, .turnOn 3 e]

end BusSystem
end Ecto
