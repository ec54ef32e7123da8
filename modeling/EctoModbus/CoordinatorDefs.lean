import EctoModbus.Devices.Device

/-! `EctoCoordinator` in `__init__.py`: the poll that brings relays up to date with their
registers. -/

namespace Ecto
open Python

namespace EctoCoordinator
variable {σ κ W : Type} [ModbusSlave σ]

/-- Only relays have the method that `hasattr` looks for. -/
def updateDevice (invoke : Call κ → PyM W Unit) : PyM (Device σ κ × W) Unit := fun p =>
  match p.1 with
  | .relay10ch d =>
    match EctoRelay10CH.syncChannelsFromRegister invoke (d, p.2) with
    | .ok _ q => .ok () (.relay10ch q.1, q.2)
    | .error e q => .error e (.relay10ch q.1, q.2)
  | .binarySensor10ch _ => .ok () p
  | .temperatureSensor _ => .ok () p

theorem after_updateDevice_relay (invoke : Call κ → PyM W Unit) (d : EctoRelay10CH σ κ) (w : W) :
    (updateDevice invoke).after (.relay10ch d, w) =
      let q := (EctoRelay10CH.syncChannelsFromRegister invoke).after (d, w)
      (.relay10ch q.1, q.2) := by
  simp only [PyM.after, updateDevice]
  cases EctoRelay10CH.syncChannelsFromRegister invoke (d, w) <;> rfl

def asyncUpdateData (invoke : Call κ → PyM W Unit) : PyM (List (Device σ κ) × W) Bool := do
  -- an exception of one device ends the poll
  PyM.each (updateDevice invoke)
  return true

end EctoCoordinator
end Ecto
