import EctoModbus.Transport.ModbusSlave
import EctoModbus.Library.PyM
import EctoModbus.Library.Decimal

/-! `transport/modBusRTU.py`: one register block of a slave, reached through its name. -/

namespace Ecto
open Python

/-- The name `ModBusRegisterSensor` gives its block. -/
def blockName (addr : ℕ) : String := "val-x" ++ toString addr

theorem blockName_inj {a b : ℕ} : blockName a = blockName b ↔ a = b :=
  (String.append_right_inj "val-x").trans Decimal.toString_inj

/-- `ρ` is the type of read callbacks. -/
structure ModBusRegisterSensor (ρ : Type) where
  blockName : String
  addr : ℕ
  regType : RegType
  regSize : ℕ
  readCallback : Option ρ

namespace ModBusRegisterSensor
variable {σ ρ W : Type} [ModbusSlave σ]

def init (slave : σ) (regType : RegType) (addr regSize : ℕ) (readCallback : Option ρ) :
    Except PyException (ModBusRegisterSensor ρ × σ) := do
  let slave ← ModbusSlave.addBlock (Ecto.blockName addr) regType addr regSize slave
  return (⟨Ecto.blockName addr, addr, regType, regSize, readCallback⟩, slave)

def setRawValue (self : ModBusRegisterSensor ρ) (rawValue : List ℤ) (slave : σ) :
    Except PyException σ :=
  ModbusSlave.setValues self.blockName self.addr rawValue slave

/-- `get_values`; `invoke` runs a read callback on whatever world the callbacks act on. -/
def getValues (self : ModBusRegisterSensor ρ) (invoke : ρ → ℕ → List ℤ → PyM W Unit)
    (slave : σ) : PyM W (List ℤ) := do
  let values ← PyM.ofExcept (ModbusSlave.getValues self.blockName self.addr self.regSize slave)
  match self.readCallback with
  | some callback =>
    invoke callback self.addr values
    return values
  | none => return values

theorem init_ok [LawfulModbusSlave σ] {slave : σ} {regType : RegType} {addr regSize : ℕ}
    (h : (table slave).Fits ⟨Ecto.blockName addr, regType, addr, List.replicate regSize 0⟩)
    (hsize : 0 < regSize) (readCallback : Option ρ) :
    ∃ slave', init slave regType addr regSize readCallback =
        .ok (⟨Ecto.blockName addr, addr, regType, regSize, readCallback⟩, slave') ∧
      table slave' = (table slave).append _ h := by
  have ht : (table slave).add? (Ecto.blockName addr) regType addr regSize 0 =
      some ((table slave).append _ h) := dif_pos h
  obtain ⟨slave', hok, hst⟩ := addBlock_ok ht hsize
  refine ⟨slave', ?_, hst⟩
  simp only [init, hok, bind, Except.bind, pure, Except.pure]

end ModBusRegisterSensor
end Ecto
