import EctoModbus.Devices.RelayDefs
import EctoModbus.Devices.BinarySensorDefs
import EctoModbus.Devices.TemperatureDefs

/-! The devices `DEVICE_CLASSES` names. -/

namespace Ecto

/-- The keys of `DEVICE_CLASSES`. -/
inductive DeviceClass where
  | binarySensor10ch
  | relay10ch
  | temperatureSensor
  deriving DecidableEq, Repr

namespace DeviceClass

def deviceType : DeviceClass → ℕ
  | .binarySensor10ch => EctoCH10BinarySensor.DEVICE_TYPE
  | .relay10ch => EctoRelay10CH.DEVICE_TYPE
  | .temperatureSensor => EctoTemperatureSensor.DEVICE_TYPE

def channelCount : DeviceClass → ℕ
  | .binarySensor10ch => EctoCH10BinarySensor.CHANNEL_COUNT
  | .relay10ch => EctoRelay10CH.CHANNEL_COUNT
  | .temperatureSensor => EctoTemperatureSensor.CHANNEL_COUNT

end DeviceClass

inductive Device (σ κ : Type) where
  | relay10ch (d : EctoRelay10CH σ κ)
  | binarySensor10ch (d : EctoCH10BinarySensor σ)
  | temperatureSensor (d : EctoTemperatureSensor σ)

def Device.base {σ κ : Type} : Device σ κ → EctoDevice σ
  | .relay10ch d => d.toEctoDevice
  | .binarySensor10ch d => d.toEctoDevice
  | .temperatureSensor d => d.toEctoDevice

def Device.deviceClass {σ κ : Type} : Device σ κ → DeviceClass
  | .relay10ch _ => .relay10ch
  | .binarySensor10ch _ => .binarySensor10ch
  | .temperatureSensor _ => .temperatureSensor

end Ecto
