import EctoModbus.Transport.ModBusRTU

/-! `devices/base.py`: the slave of a device, its identity registers, and its named blocks. -/

namespace Ecto
open Python BlockTable

inductive ReadCallback where
  | onRegisterRead
  deriving DecidableEq, Repr

structure EctoDevice (σ : Type) where
  addr : ℕ
  slave : σ
  uid : ℤ
  registers : ℕ → Option (ModBusRegisterSensor ReadCallback)

namespace EctoDevice
variable {σ : Type} [ModbusSlave σ]

def UID_BASE : ℤ := 0x800000

def uidData (deviceType channelCount addr : ℕ) : List ℤ :=
  [0x80, (addr : ℤ) - 3, addr, ((deviceType <<< 8 ||| channelCount : ℕ) : ℤ)]

theorem isWord_uidData {deviceType channelCount addr : ℕ} (h3 : 3 ≤ addr) (h32 : addr ≤ 32)
    (ht : deviceType <<< 8 ||| channelCount < 2 ^ 16) :
    ∀ v ∈ uidData deviceType channelCount addr, IsWord v := by
  simp only [uidData, List.mem_cons, List.not_mem_nil, or_false, IsWord]
  rintro v (rfl | rfl | rfl | rfl) <;> omega

/-- `__init__` of the base class, on the slave that `server.add_slave(addr)` returned. -/
def init (deviceType channelCount addr : ℕ) (slave : σ) : Except PyException (EctoDevice σ) := do
  let (reg, slave) ← ModBusRegisterSensor.init slave .holdingRegisters 0 4 none
  let slave ← reg.setRawValue (uidData deviceType channelCount addr) slave
  return {
    addr := addr
    slave := slave
    uid := UID_BASE + ((addr : ℤ) - 3)
    registers := Function.update (fun _ => none) 0 (some reg) }

/-- `self.registers[addr] = ModBusRegisterSensor(self.slave, ...)`. -/
def addRegister (self : EctoDevice σ) (regType : RegType) (addr regSize : ℕ)
    (readCallback : Option ReadCallback) : Except PyException (EctoDevice σ) := do
  let (reg, slave) ← ModBusRegisterSensor.init self.slave regType addr regSize readCallback
  return { self with slave := slave, registers := Function.update self.registers addr (some reg) }

def onRead : ReadCallback → ℕ → List ℤ → PyM (EctoDevice σ) Unit
  | .onRegisterRead, _, _ => pure ()

/-- `self.registers[reg].set_raw_value(raw_value)`. -/
def setRegister (reg : ℕ) (rawValue : List ℤ) : PyM (EctoDevice σ) Unit := do
  let self ← get
  let sensor ← PyM.ofOption .keyError (self.registers reg)
  let slave ← PyM.ofExcept (sensor.setRawValue rawValue self.slave)
  set { self with slave := slave }

/-- `self.registers[reg].get_values()`. -/
def getRegister (reg : ℕ) : PyM (EctoDevice σ) (List ℤ) := do
  let self ← get
  let sensor ← PyM.ofOption .keyError (self.registers reg)
  sensor.getValues onRead self.slave

/-- A master's write request to the slave; a rejected request changes nothing. -/
def masterWrite (a : ℕ) (vs : List ℤ) : PyM (EctoDevice σ) Unit := do
  let self ← get
  let slave ← PyM.ofExcept (ModbusSlave.writeRegisters a vs self.slave)
  set { self with slave := slave }

omit [ModbusSlave σ] in
theorem after_storeSlave (m : Except PyException σ) (d : EctoDevice σ) :
    ((PyM.ofExcept m >>= fun slave => set { d with slave := slave }) :
      PyM (EctoDevice σ) PUnit).after d =
      match m with
      | .ok slave => { d with slave := slave }
      | .error _ => d := by
  cases m <;> rfl

theorem after_getRegister (reg : ℕ) (d : EctoDevice σ) : (getRegister reg).after d = d := by
  unfold getRegister
  rw [PyM.after_get_bind]
  cases d.registers reg with
  | none => rfl
  | some sensor =>
    rw [PyM.ofOption_some, pure_bind, ModBusRegisterSensor.getValues]
    cases ModbusSlave.getValues sensor.blockName sensor.addr sensor.regSize d.slave with
    | error e => rfl
    | ok vs =>
      rw [PyM.ofExcept_ok, pure_bind]
      cases sensor.readCallback with
      | none => rfl
      | some callback => cases callback; rfl

/-! ## A register that is in place -/

def sensor (regType : RegType) (addr regSize : ℕ) (readCallback : Option ReadCallback) :
    ModBusRegisterSensor ReadCallback :=
  ⟨blockName addr, addr, regType, regSize, readCallback⟩

variable [LawfulModbusSlave σ]

/-- Register `reg` of the device reaches a block of its slave that holds `vs`. -/
structure HasRegister (d : EctoDevice σ) (reg : ℕ) (vs : List ℤ) : Prop where
  sensor : ∃ kind callback, d.registers reg = some (sensor kind reg vs.length callback)
  block : ∃ kind, (table d.slave).find? (blockName reg) = some ⟨blockName reg, kind, reg, vs⟩

theorem addRegister_ok {d : EctoDevice σ} (regType : RegType) (addr : ℕ) {regSize : ℕ}
    (hsize : 0 < regSize) (readCallback : Option ReadCallback)
    (h : (table d.slave).Fits ⟨blockName addr, regType, addr, List.replicate regSize 0⟩) :
    ∃ d', addRegister d regType addr regSize readCallback = .ok d' ∧
      (table d'.slave).blocks = (table d.slave).blocks ++
        [⟨blockName addr, regType, addr, List.replicate regSize 0⟩] ∧
      d'.registers = Function.update d.registers addr
        (some (sensor regType addr regSize readCallback)) ∧
      d'.addr = d.addr ∧ d'.uid = d.uid := by
  obtain ⟨slave', hok, hst⟩ := ModBusRegisterSensor.init_ok h hsize readCallback
  refine ⟨{ d with
    slave := slave'
    registers := Function.update d.registers addr
      (some (sensor regType addr regSize readCallback)) },
    ?_, ?_, rfl, rfl, rfl⟩
  · simp only [addRegister, hok, bind, Except.bind, pure, Except.pure]
    rfl
  · rw [hst]
    rfl

theorem setRegister_ok {d : EctoDevice σ} {reg : ℕ} {vs ws : List ℤ}
    (h : d.HasRegister reg vs) (hw : ws.length = vs.length) :
    ∃ slave', setRegister reg ws d = .ok () { d with slave := slave' } ∧
      table slave' = (table d.slave).put (blockName reg) reg ws := by
  obtain ⟨⟨kind, callback, hs⟩, kind', hb⟩ := h
  have hc : (⟨blockName reg, kind', reg, vs⟩ : Block RegType ℤ).Contains reg ws.length :=
    ⟨le_rfl, by simp only [hw, le_refl]⟩
  obtain ⟨slave', hok, hst⟩ := setValues_ok (Table.setValues?_of_find? hb hc)
  refine ⟨slave', ?_, hst⟩
  unfold setRegister
  rw [PyM.get_bind, hs, PyM.ofOption_some, pure_bind]
  simp only [ModBusRegisterSensor.setRawValue, sensor, hok, PyM.ofExcept_ok, pure_bind, PyM.set_run]

theorem getRegister_ok {d : EctoDevice σ} {reg : ℕ} {vs : List ℤ} (h : d.HasRegister reg vs) :
    getRegister reg d = .ok vs d := by
  obtain ⟨⟨kind, callback, hs⟩, kind', hb⟩ := h
  have hc : (⟨blockName reg, kind', reg, vs⟩ : Block RegType ℤ).Contains reg vs.length :=
    ⟨le_rfl, le_rfl⟩
  have ht := Table.getValues?_of_find? hb hc
  rw [Block.load, Nat.sub_self, List.drop_zero, List.take_length] at ht
  unfold getRegister
  rw [PyM.get_bind, hs, PyM.ofOption_some, pure_bind]
  simp only [ModBusRegisterSensor.getValues, sensor, getValues_ok ht, PyM.ofExcept_ok, pure_bind]
  cases callback with
  | none => rfl
  | some c => cases c; rfl

theorem init_ok (deviceType channelCount addr : ℕ) {slave : σ} (hs : table slave = Table.empty) :
    ∃ d, init deviceType channelCount addr slave = .ok d ∧
      (table d.slave).blocks =
        [⟨blockName 0, .holdingRegisters, 0, uidData deviceType channelCount addr⟩] ∧
      d.registers = Function.update (fun _ => none) 0 (some (sensor .holdingRegisters 0 4 none)) ∧
      d.addr = addr ∧ d.uid = UID_BASE + ((addr : ℤ) - 3) := by
  have hf : (table slave).Fits ⟨blockName 0, .holdingRegisters, 0, List.replicate 4 0⟩ := by
    rw [hs]
    exact ⟨fun b hb => absurd hb List.not_mem_nil, fun b hb => absurd hb List.not_mem_nil⟩
  obtain ⟨slave₁, h₁, ht₁⟩ :=
    ModBusRegisterSensor.init_ok hf (Nat.succ_pos 3) (none : Option ReadCallback)
  -- the block was made with four registers
  have hset : (table slave₁).setValues? (blockName 0) 0 (uidData deviceType channelCount addr) =
      some ((table slave₁).put (blockName 0) 0 (uidData deviceType channelCount addr)) := by
    simp [ht₁, hs, Table.append, Table.empty, Table.setValues?, Table.find?,
      Block.Contains, uidData]
  obtain ⟨slave₂, h₂, ht₂⟩ := setValues_ok hset
  refine ⟨{
    addr := addr
    slave := slave₂
    uid := UID_BASE + ((addr : ℤ) - 3)
    registers := Function.update (fun _ => none) 0 (some (sensor .holdingRegisters 0 4 none)) },
    ?_, ?_, rfl, rfl, rfl⟩
  · simp only [init, h₁, bind, Except.bind, pure, Except.pure, ModBusRegisterSensor.setRawValue,
      sensor, h₂]
  · simp [ht₂, ht₁, hs, Table.append, Table.empty, Table.put, Block.put, Block.Contains, uidData,
      splice]

theorem masterWrite_ok {d : EctoDevice σ} {a : ℕ} {vs : List ℤ} {t : RegTable}
    (h : (table d.slave).write? .holdingRegisters a vs = some t) :
    ∃ slave', masterWrite a vs d = .ok () { d with slave := slave' } ∧ table slave' = t := by
  obtain ⟨slave', hok, hst⟩ := writeRegisters_ok h
  refine ⟨slave', ?_, hst⟩
  simp only [masterWrite, PyM.get_bind, hok, PyM.ofExcept_ok, pure_bind, PyM.set_run]

theorem masterWrite_rejected {d : EctoDevice σ} {a : ℕ} {vs : List ℤ}
    (h : (table d.slave).write? .holdingRegisters a vs = none) :
    (masterWrite a vs).after d = d := by
  obtain ⟨e, he⟩ := writeRegisters_error h
  simp only [masterWrite, PyM.after, PyM.get_bind, he, PyM.ofExcept]
  rfl

/-! ## Registers that may be missing -/

variable {P : ℤ → Prop} {d : EctoDevice σ}

/-- A store does nothing, or stores into the block its sensor names. -/
theorem setRegister_cases (reg : ℕ) (vs : List ℤ) (d : EctoDevice σ) :
    (setRegister reg vs).after d = d ∨
      ∃ sensor slave', d.registers reg = some sensor ∧
        (table d.slave).setValues? sensor.blockName sensor.addr vs = some (table slave') ∧
        (setRegister reg vs).after d = { d with slave := slave' } := by
  unfold setRegister
  rw [PyM.after_get_bind]
  cases d.registers reg with
  | none => exact Or.inl rfl
  | some sensor =>
    rw [PyM.ofOption_some, pure_bind, after_storeSlave]
    have ht := LawfulModbusSlave.setValues_table sensor.blockName sensor.addr vs d.slave
    cases hm : sensor.setRawValue vs d.slave with
    | error e => exact Or.inl rfl
    | ok slave =>
      rw [ModBusRegisterSensor.setRawValue] at hm
      rw [hm] at ht
      exact Or.inr ⟨sensor, slave, rfl, ht.symm, rfl⟩

theorem masterWrite_cases (a : ℕ) (vs : List ℤ) (d : EctoDevice σ) :
    ((table d.slave).write? .holdingRegisters a vs = none ∧ (masterWrite a vs).after d = d) ∨
      ∃ slave', (table d.slave).write? .holdingRegisters a vs = some (table slave') ∧
        (masterWrite a vs).after d = { d with slave := slave' } := by
  cases hw : (table d.slave).write? .holdingRegisters a vs with
  | none => exact Or.inl ⟨rfl, masterWrite_rejected hw⟩
  | some t =>
    obtain ⟨slave', hok, rfl⟩ := masterWrite_ok hw
    exact Or.inr ⟨slave', rfl, PyM.after_ok hok⟩

theorem all_setRegister (h : (table d.slave).All P) (reg : ℕ) {vs : List ℤ} (hv : ∀ v ∈ vs, P v) :
    (table ((setRegister reg vs).after d).slave).All P := by
  rcases setRegister_cases reg vs d with hd | ⟨sensor, slave', _, ht, hd⟩
  · rwa [hd]
  · rw [hd]
    exact h.setValues hv ht

theorem all_masterWrite (h : (table d.slave).All P) (a : ℕ) {vs : List ℤ} (hv : ∀ v ∈ vs, P v) :
    (table ((masterWrite a vs).after d).slave).All P := by
  rcases masterWrite_cases a vs d with ⟨_, hd⟩ | ⟨slave', ht, hd⟩
  · rwa [hd]
  · rw [hd]
    exact h.write hv ht

end EctoDevice
end Ecto
