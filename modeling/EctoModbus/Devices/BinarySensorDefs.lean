import EctoModbus.Devices.Base
import EctoModbus.Library.Bits

/-! `devices/binary_sensor.py`: the ten-channel contact sensor, whose states go to input
register 0x10 from a list of eight. -/

namespace Ecto
open Python

structure EctoCH10BinarySensor (σ : Type) extends EctoDevice σ where
  switch : Fin 8 → ℤ

namespace EctoCH10BinarySensor
variable {σ : Type} [ModbusSlave σ]

def DEVICE_TYPE : ℕ := 0x59
def CHANNEL_COUNT : ℕ := 10

def init (addr : ℕ) (slave : σ) : Except PyException (EctoCH10BinarySensor σ) := do
  let self ← EctoDevice.init DEVICE_TYPE CHANNEL_COUNT addr slave
  let self ← self.addRegister .readInputRegisters 0x10 1 (some .onRegisterRead)
  return { toEctoDevice := self, switch := fun _ => 0 }

def setValue (value : ℤ) : PyM (EctoCH10BinarySensor σ) Unit :=
  PyM.zoom EctoCH10BinarySensor.toEctoDevice (fun d self => { self with toEctoDevice := d })
    (EctoDevice.setRegister 0x10 [value])

/-- The list is kept in reverse, so the index is `7 - num`; Python takes a negative one from the
end of the list. -/
def setSwitchState (num state : ℤ) : PyM (EctoCH10BinarySensor σ) Unit := do
  let self ← get
  let i ← PyM.ofOption .indexError (index 8 (7 - num))
  if state ≠ self.switch i then
    let switch := Function.update self.switch i (oneIf state)
    set { self with switch := switch }
    let value := Bits.shiftAdd (List.ofFn switch)
    setValue (value <<< (8 : ℕ))
  else
    pure ()

end EctoCH10BinarySensor
end Ecto
