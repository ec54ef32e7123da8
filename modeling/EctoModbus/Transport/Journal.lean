import EctoModbus.Devices.Base
import EctoModbus.Library.Replay

/-! A slave that also keeps a journal of the stores made through its block names. A device cannot
tell it from the slave inside, and the journal tells what the device stored. -/

namespace Ecto
open Python BlockTable

/-- A store is filed under the name and the address it was made with. -/
structure Journaled (σ : Type) where
  slave : σ
  stores : List ((String × ℕ) × List ℤ)

namespace Journaled
variable {σ : Type}

def start (slave : σ) : Journaled σ := ⟨slave, []⟩

/-- What was stored at the start of the block at `reg`, in order. -/
def written (reg : ℕ) (j : Journaled σ) : List (List ℤ) :=
  Replay.writesTo (blockName reg, reg) j.stores

instance [ModbusSlave σ] : ModbusSlave (Journaled σ) where
  addBlock name kind start n j :=
    (ModbusSlave.addBlock name kind start n j.slave).map fun slave => { j with slave := slave }
  setValues name a vs j :=
    (ModbusSlave.setValues name a vs j.slave).map fun slave =>
      ⟨slave, j.stores ++ [((name, a), vs)]⟩
  getValues name a n j := ModbusSlave.getValues name a n j.slave
  writeRegisters a vs j :=
    (ModbusSlave.writeRegisters a vs j.slave).map fun slave => { j with slave := slave }

variable [ModbusSlave σ]

theorem toOption_map_table [LawfulModbusSlave σ] (x : Except PyException σ)
    {f : σ → Journaled σ} (hf : ∀ slave, (f slave).slave = slave) :
    ((x.map f).toOption.map fun j => table j.slave) = x.toOption.map table := by
  cases x with
  | ok slave => exact congrArg (fun s => some (table s)) (hf slave)
  | error e => rfl

instance [LawfulModbusSlave σ] : LawfulModbusSlave (Journaled σ) where
  table j := table j.slave
  addBlock_table name kind start n j hn :=
    (toOption_map_table _ fun _ => rfl).trans
      (LawfulModbusSlave.addBlock_table name kind start n j.slave hn)
  setValues_table name a vs j :=
    (toOption_map_table _ fun _ => rfl).trans (LawfulModbusSlave.setValues_table name a vs j.slave)
  getValues_table name a n j := LawfulModbusSlave.getValues_table name a n j.slave
  writeRegisters_table a vs j :=
    (toOption_map_table _ fun _ => rfl).trans (LawfulModbusSlave.writeRegisters_table a vs j.slave)

variable {name : String} {a : ℕ} {vs : List ℤ} {j j' : Journaled σ}

theorem stores_setValues (h : ModbusSlave.setValues name a vs j = .ok j') :
    j'.stores = j.stores ++ [((name, a), vs)] := by
  obtain ⟨slave, _, rfl⟩ := map_eq_ok h
  rfl

theorem stores_addBlock {kind : RegType} {n : ℕ}
    (h : ModbusSlave.addBlock name kind a n j = .ok j') :
    j'.stores = j.stores := by
  obtain ⟨slave, _, rfl⟩ := map_eq_ok h
  rfl

end Journaled

/-! ## Devices on a journaled slave -/

namespace EctoDevice
open Journaled
variable {σ : Type} [ModbusSlave σ] {d d' : EctoDevice (Journaled σ)} {reg : ℕ}

theorem stores_init {deviceType channelCount addr : ℕ} {slave : Journaled σ}
    (h : init deviceType channelCount addr slave = .ok d) :
    d.slave.stores = slave.stores ++
      [((blockName 0, 0), uidData deviceType channelCount addr)] := by
  obtain ⟨⟨sensor, slave₁⟩, h₁, h⟩ := bind_eq_ok h
  obtain ⟨slave₀, h₀, hs⟩ := bind_eq_ok h₁
  obtain ⟨slave₂, h₂, h⟩ := bind_eq_ok h
  cases hs
  cases h
  have hset := stores_setValues h₂
  rw [hset, stores_addBlock h₀]

theorem stores_addRegister {kind : RegType} {n : ℕ} {callback : Option ReadCallback}
    (h : d.addRegister kind reg n callback = .ok d') : d'.slave.stores = d.slave.stores := by
  obtain ⟨⟨sensor, slave₁⟩, h₁, h⟩ := bind_eq_ok h
  obtain ⟨slave₀, h₀, hs⟩ := bind_eq_ok h₁
  cases hs
  cases h
  exact stores_addBlock h₀

variable [LawfulModbusSlave σ]

theorem written_setRegister {vs ws : List ℤ} (h : d.HasRegister reg vs)
    (hw : ws.length = vs.length) :
    ((setRegister reg ws).after d).slave.written reg = d.slave.written reg ++ [ws] := by
  obtain ⟨⟨kind, callback, hs⟩, _⟩ := id h
  obtain ⟨slave', hok, _⟩ := setRegister_ok h hw
  have hset : ModbusSlave.setValues (blockName reg) reg ws d.slave = .ok slave' := by
    unfold setRegister at hok
    rw [PyM.get_bind, hs, PyM.ofOption_some, pure_bind, ModBusRegisterSensor.setRawValue] at hok
    cases hx : ModbusSlave.setValues (blockName reg) reg ws d.slave with
    | ok s =>
      simp only [sensor, hx, PyM.ofExcept_ok, pure_bind, PyM.set_run, EStateM.Result.ok.injEq,
        true_and] at hok
      have hslave := congrArg EctoDevice.slave hok
      exact congrArg Except.ok hslave
    | error e =>
      simp only [sensor, hx] at hok
      cases hok
  rw [PyM.after_ok hok, written, stores_setValues hset, Replay.writesTo_append]
  simp [written, Replay.writesTo]

end EctoDevice
end Ecto
