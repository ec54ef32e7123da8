import EctoModbus.Library.BlockTable
import EctoModbus.Library.Python

/-! The slave objects of `modbus_tk`, which is not part of this repository: the calls the
integration makes on them, and what it relies on about them. -/

namespace Ecto
open Python BlockTable

inductive RegType where
  | coils
  | discreteInputs
  | holdingRegisters
  | readInputRegisters
  deriving DecidableEq, Repr

/-- Registers hold Python integers; nothing confines them to 16 bits. -/
abbrev RegTable := Table RegType ℤ

/-- What fits in a 16-bit register; a read of anything else raises in the slave. -/
def IsWord (v : ℤ) : Prop := 0 ≤ v ∧ v ≤ 0xFFFF

instance (v : ℤ) : Decidable (IsWord v) := inferInstanceAs (Decidable (_ ∧ _))

theorem isWord_natCast {n : ℕ} (h : n < 2 ^ 16) : IsWord n := by
  unfold IsWord
  omega

def requestValues (ws : List (BitVec 16)) : List ℤ := ws.map fun w => (w.toNat : ℤ)

theorem length_requestValues (ws : List (BitVec 16)) : (requestValues ws).length = ws.length :=
  List.length_map ..

theorem isWord_requestValues (ws : List (BitVec 16)) : ∀ v ∈ requestValues ws, IsWord v := by
  intro v hv
  obtain ⟨w, _, rfl⟩ := List.mem_map.1 hv
  exact isWord_natCast w.isLt

/-- `writeRegisters` is a master's write request; the others are called by the devices. -/
class ModbusSlave (σ : Type) where
  addBlock : String → RegType → ℕ → ℕ → σ → Except PyException σ
  setValues : String → ℕ → List ℤ → σ → Except PyException σ
  getValues : String → ℕ → ℕ → σ → Except PyException (List ℤ)
  writeRegisters : ℕ → List ℤ → σ → Except PyException σ

/-- A slave keeps a table of named blocks, none of which is empty. The operations act on it
unchecked, apart from names and address ranges, and raise where they would leave it. A write request
reaches the holding registers, within one block. -/
class LawfulModbusSlave (σ : Type) [ModbusSlave σ] where
  table : σ → RegTable
  addBlock_table : ∀ name kind start n s, 0 < n →
    (ModbusSlave.addBlock name kind start n s).toOption.map table =
      (table s).add? name kind start n 0
  setValues_table : ∀ name a vs s,
    (ModbusSlave.setValues name a vs s).toOption.map table = (table s).setValues? name a vs
  getValues_table : ∀ name a n s,
    (ModbusSlave.getValues name a n s).toOption = (table s).getValues? name a n
  writeRegisters_table : ∀ a vs s,
    (ModbusSlave.writeRegisters a vs s).toOption.map table =
      (table s).write? .holdingRegisters a vs

export LawfulModbusSlave (table)

section Laws
variable {σ : Type} [ModbusSlave σ] [LawfulModbusSlave σ]

theorem exists_ok_of_map {x : Except PyException σ} {t : RegTable}
    (h : x.toOption.map table = some t) : ∃ s, x = .ok s ∧ table s = t := by
  cases x with
  | ok s => exact ⟨s, rfl, Option.some.inj h⟩
  | error e => cases h

theorem exists_error_of_map {x : Except PyException σ} (h : x.toOption.map table = none) :
    ∃ e, x = .error e := by
  cases x with
  | ok s => cases h
  | error e => exact ⟨e, rfl⟩

theorem addBlock_ok {name : String} {kind : RegType} {start n : ℕ} {s : σ} {t : RegTable}
    (h : (table s).add? name kind start n 0 = some t) (hn : 0 < n) :
    ∃ s', ModbusSlave.addBlock name kind start n s = .ok s' ∧ table s' = t :=
  exists_ok_of_map ((LawfulModbusSlave.addBlock_table name kind start n s hn).trans h)

theorem setValues_ok {name : String} {a : ℕ} {vs : List ℤ} {s : σ} {t : RegTable}
    (h : (table s).setValues? name a vs = some t) :
    ∃ s', ModbusSlave.setValues name a vs s = .ok s' ∧ table s' = t :=
  exists_ok_of_map ((LawfulModbusSlave.setValues_table ..).trans h)

theorem getValues_ok {name : String} {a n : ℕ} {s : σ} {vs : List ℤ}
    (h : (table s).getValues? name a n = some vs) :
    ModbusSlave.getValues name a n s = .ok vs := by
  have hl := (LawfulModbusSlave.getValues_table name a n s).trans h
  cases hx : ModbusSlave.getValues name a n s with
  | ok ws =>
    rw [hx] at hl
    exact congrArg _ (Option.some.inj hl)
  | error e =>
    rw [hx] at hl
    cases hl

theorem writeRegisters_ok {a : ℕ} {vs : List ℤ} {s : σ} {t : RegTable}
    (h : (table s).write? .holdingRegisters a vs = some t) :
    ∃ s', ModbusSlave.writeRegisters a vs s = .ok s' ∧ table s' = t :=
  exists_ok_of_map ((LawfulModbusSlave.writeRegisters_table ..).trans h)

theorem writeRegisters_error {a : ℕ} {vs : List ℤ} {s : σ}
    (h : (table s).write? .holdingRegisters a vs = none) :
    ∃ e, ModbusSlave.writeRegisters a vs s = .error e :=
  exists_error_of_map ((LawfulModbusSlave.writeRegisters_table ..).trans h)

end Laws

/-! ## The table as a slave -/

def raiseNone {α : Type} : Option α → Except PyException α
  | some a => .ok a
  | none => .error (.other "ModbusError")

theorem toOption_raiseNone {α : Type} (o : Option α) : (raiseNone o).toOption = o := by
  cases o <;> rfl

instance : ModbusSlave RegTable where
  addBlock name kind start n t := raiseNone (t.add? name kind start n 0)
  setValues name a vs t := raiseNone (t.setValues? name a vs)
  getValues name a n t := raiseNone (t.getValues? name a n)
  writeRegisters a vs t := raiseNone (t.write? .holdingRegisters a vs)

instance : LawfulModbusSlave RegTable where
  table t := t
  addBlock_table _ _ _ _ _ _ := by
    rw [ModbusSlave.addBlock, instModbusSlaveRegTable, toOption_raiseNone, Option.map_id']
  setValues_table _ _ _ _ := by
    rw [ModbusSlave.setValues, instModbusSlaveRegTable, toOption_raiseNone, Option.map_id']
  getValues_table _ _ _ _ := toOption_raiseNone _
  writeRegisters_table _ _ _ := by
    rw [ModbusSlave.writeRegisters, instModbusSlaveRegTable, toOption_raiseNone, Option.map_id']

end Ecto
