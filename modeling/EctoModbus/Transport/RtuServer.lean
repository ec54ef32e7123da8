import EctoModbus.Transport.ModbusSlave

/-! The server object of `modbus_tk` that the slaves belong to, as far as the integration uses it:
to add a slave. -/

namespace Ecto
open Python BlockTable

class RtuServer (ς : Type) (σ : outParam Type) where
  addSlave : ℕ → ς → Except PyException (σ × ς)

/-- A server makes a new empty slave for an identifier that it does not have yet. -/
class LawfulRtuServer (ς : Type) {σ : outParam Type} [ModbusSlave σ] [LawfulModbusSlave σ]
    [RtuServer ς σ] where
  slaveIds : ς → List ℕ
  addSlave_dup : ∀ {id : ℕ} {s : ς}, id ∈ slaveIds s → ∃ e, RtuServer.addSlave id s = .error e
  addSlave_new : ∀ {id : ℕ} {s : ς}, id ∉ slaveIds s → 0 < id → id ≤ 255 →
    ∃ p, RtuServer.addSlave id s = .ok p
  addSlave_ok : ∀ {id : ℕ} {s s' : ς} {slave : σ}, RtuServer.addSlave id s = .ok (slave, s') →
    table slave = Table.empty ∧ slaveIds s' = slaveIds s ++ [id]

export LawfulRtuServer (slaveIds)

/-! ## The identifiers as a server -/

abbrev SlaveIds := List ℕ

instance : RtuServer SlaveIds RegTable where
  addSlave id ids :=
    if id ∈ ids then .error (.other "DuplicatedKeyError")
    else if 0 < id ∧ id ≤ 255 then .ok (Table.empty, ids ++ [id])
    else .error (.other "Exception")

instance : LawfulRtuServer SlaveIds where
  slaveIds ids := ids
  addSlave_dup h := ⟨_, if_pos h⟩
  addSlave_new h h₀ h₁ := ⟨_, (if_neg h).trans (if_pos ⟨h₀, h₁⟩)⟩
  addSlave_ok h := by
    unfold RtuServer.addSlave instRtuServerSlaveIdsRegTable at h
    simp only at h
    split_ifs at h
    cases h
    exact ⟨rfl, rfl⟩

end Ecto
