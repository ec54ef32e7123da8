import EctoModbus.ConfigDefs
import EctoModbus.CoordinatorDefs
import EctoModbus.SerialWrapperDefs

/-! `async_setup` in `__init__.py`, from the configuration to what it leaves in Home Assistant. -/

namespace Ecto
open Python Schema Config

/-- How a port is asked for; times are in milliseconds. -/
inductive PortSpec where
  | rs485 (port baudrate : Yaml) (interByteTimeout : ℕ)
  | serial (port baudrate : Yaml) (timeout : ℕ)

/-- The constructors of `pyserial` and of `modbus_rtu.RtuServer`, which are not part of this
repository. -/
structure Libraries (ρ V ς : Type) where
  openPort : PortSpec → Except PyException (Port ρ V)
  rtuServer : LoggingSerialWrapper ρ V → Except PyException ς

/-- A new server has no slaves. -/
def Libraries.Lawful {ρ V ς σ : Type} [RtuServer ς σ] [ModbusSlave σ] [LawfulModbusSlave σ]
    [LawfulRtuServer ς] (lib : Libraries ρ V ς) : Prop :=
  ∀ wrapper server, lib.rtuServer wrapper = .ok server → slaveIds server = []

/-- What `async_setup` changes: the hooks of `modbus_tk`, the ports that were opened, the server
that was started, the states that are tracked, `_DEVICE_REGISTRY`, `hass.data[DOMAIN]`, the timer of
the coordinator, and the platforms. -/
structure Integration (ς σ : Type) where
  hooks : List String
  ports : List PortSpec
  server : Option ς
  trackedEntities : List String
  deviceRegistry : ℕ → Option (Device σ (Fin 10))
  data : Option (List (Device σ (Fin 10)) × ς)
  intervals : ℕ
  platforms : List String

def getList (v : Yaml) (key : String) : Except PyException (List Yaml) := do
  match ← getItem v key with
  | .list ys => return ys
  | _ => throw .typeError

namespace Integration
variable {ρ V ς σ : Type} [ModbusSlave σ] [RtuServer ς σ]

def setupEntries {κ : Type} (ys : List Yaml) : PyM (Setup ς σ κ) Unit := ys.forM fun y => do
  let conf ← PyM.ofExcept (deviceConf y)
  Setup.setupDevice conf

/-- The loop over the devices, on the server that is running already. -/
def setupLoop (server : ς) (ys : List Yaml) :
    PyM (Integration ς σ) (List (Device σ (Fin 10)) × ς) :=
  PyM.zoom (fun self => ⟨server, [], self.trackedEntities, self.deviceRegistry⟩)
    (fun (s : Setup ς σ (Fin 10)) self => { self with
      server := some s.server
      trackedEntities := s.trackedEntities
      deviceRegistry := s.deviceRegistry })
    (do
      setupEntries ys
      let s ← get
      return (s.ectoDevices, s.server))

/-- `coordinator.async_refresh()`, which logs what a poll raises. No entity has been added yet. -/
def asyncRefresh (devices : List (Device σ (Fin 10))) : List (Device σ (Fin 10)) :=
  ((EctoCoordinator.asyncUpdateData fun _ : Call (Fin 10) => (pure () : PyM Unit Unit)).after
    (devices, ())).1

def portSpec (portType port baudrate : Yaml) : PortSpec :=
  match portType with
  | .str portType =>
    if portType = PORT_TYPE_RS485 then .rs485 port baudrate 2 else .serial port baudrate 2
  | _ => .serial port baudrate 2

/-- What follows the loop: the coordinator and its timer, `hass.data[DOMAIN]`, the switches. -/
def installDevices (ectoDevices : List (Device σ (Fin 10))) (server : ς) :
    PyM (Integration ς σ) Bool := do
  let ectoDevices := asyncRefresh ectoDevices
  modify fun self => { self with
    intervals := self.intervals + 1
    data := some (ectoDevices, server)
    platforms := self.platforms ++ ["switch"] }
  return true

def asyncSetup (lib : Libraries ρ V ς) (config : Yaml) : PyM (Integration ς σ) Bool := do
  let conf ← PyM.ofExcept (getItem config DOMAIN)
  modify fun self => { self with hooks := self.hooks ++ ["modbus.Databank.on_error"] }
  let port ← PyM.ofExcept (get conf "port" .null)
  let portType ← PyM.ofExcept (get conf "port_type" (.str PORT_TYPE_RS485))
  let baudrate ← PyM.ofExcept (get conf "baudrate" (.int DEFAULT_BAUDRATE))
  let port485Main ← PyM.ofExcept (lib.openPort (portSpec portType port baudrate))
  modify fun self => { self with ports := self.ports ++ [portSpec portType port baudrate] }
  let server ← PyM.ofExcept (lib.rtuServer (LoggingSerialWrapper.init port485Main))
  modify fun self => { self with server := some server }
  let ys ← PyM.ofExcept (getList conf "devices")
  let (ectoDevices, server) ← setupLoop server ys
  installDevices ectoDevices server

end Integration
end Ecto
