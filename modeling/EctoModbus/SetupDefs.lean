import EctoModbus.Devices.Device
import EctoModbus.Transport.RtuServer

/-! `__init__.py`: what the configuration schema asks of the devices, and the loop of
`async_setup` that sets them up on one server. -/

namespace Ecto
open Python

/-- An entry of `devices` in the configuration. -/
structure DeviceConf where
  type : DeviceClass
  addr : ℕ
  entityId : Option String
  deriving DecidableEq, Repr

namespace DeviceConf

def AddrInRange (addr : ℕ) : Prop := 3 ≤ addr ∧ addr ≤ 32

/-- One of the two alternatives of `CONFIG_SCHEMA` accepts the entry; `validEntityId` is what
`cv.entity_id` accepts. Entries are looked at one by one. -/
def Accepted (validEntityId : String → Prop) (conf : DeviceConf) : Prop :=
  (conf.type = .temperatureSensor ∧ AddrInRange conf.addr ∧
    ∃ entityId, conf.entityId = some entityId ∧ validEntityId entityId) ∨
  (conf.type ∈ [DeviceClass.binarySensor10ch, .relay10ch] ∧ AddrInRange conf.addr ∧
    conf.entityId = none)

end DeviceConf

section
variable {σ κ : Type} [ModbusSlave σ]

/-- `DEVICE_CLASSES[device_type](device_conf, server)`, on the slave the server added. -/
def DeviceConf.construct (conf : DeviceConf) (slave : σ) : Except PyException (Device σ κ) :=
  match conf.type with
  | .binarySensor10ch => do
    let device ← EctoCH10BinarySensor.init conf.addr slave
    return .binarySensor10ch device
  | .relay10ch => do
    let device ← EctoRelay10CH.init conf.addr slave
    return .relay10ch device
  | .temperatureSensor => do
    let device ← EctoTemperatureSensor.init conf.addr conf.entityId slave
    return .temperatureSensor device

/-- Only temperature sensors have an `async_init`. Returns the entity that is tracked, if any. -/
def Device.asyncInit : PyM (Device σ κ) (Option String) := fun device =>
  match device with
  | .temperatureSensor d =>
    match EctoTemperatureSensor.asyncInit d with
    | .ok entityId d => .ok entityId (.temperatureSensor d)
    | .error e d => .error e (.temperatureSensor d)
  | device => .ok none device

end

/-- The server and the lists of `async_setup`, and the global `_DEVICE_REGISTRY`. -/
structure Setup (ς σ κ : Type) where
  server : ς
  ectoDevices : List (Device σ κ)
  trackedEntities : List String
  deviceRegistry : ℕ → Option (Device σ κ)

namespace Setup
variable {ς σ κ : Type} [ModbusSlave σ] [RtuServer ς σ]

/-- One round of the loop. -/
def setupDevice (conf : DeviceConf) : PyM (Setup ς σ κ) Unit := do
  let self ← get
  let (slave, server) ← PyM.ofExcept (RtuServer.addSlave conf.addr self.server)
  set { self with server := server }
  let device ← PyM.ofExcept (conf.construct slave)
  let (entityId, device) ← PyM.onValue device Device.asyncInit
  modify fun self => { self with
    ectoDevices := self.ectoDevices ++ [device]
    trackedEntities := self.trackedEntities ++ entityId.toList
    deviceRegistry := Function.update self.deviceRegistry conf.addr (some device) }

def setupDevices (confs : List DeviceConf) : PyM (Setup ς σ κ) Unit := confs.forM setupDevice

end Setup
end Ecto
