import EctoModbus.Devices.Base

/-! What calls on a device leave in one block of its slave. A store goes to the block of its own
register and no other; a request of the master reaches the holding block it lies in. -/

namespace Ecto
open Python BlockTable

namespace EctoDevice
variable {σ : Type} {d : EctoDevice σ} {kind : RegType} {reg : ℕ} {vs : List ℤ}

/-- The sensor under `reg` in the dictionary stores into the block of that name. -/
def Named (d : EctoDevice σ) (reg : ℕ) : Prop :=
  ∀ sensor, d.registers reg = some sensor → sensor.blockName = blockName reg

theorem named_of_sensor {n : ℕ} {callback : Option ReadCallback}
    (h : d.registers reg = some (sensor kind reg n callback)) : d.Named reg := by
  intro s hs
  rw [h] at hs
  rw [← Option.some.inj hs]
  rfl

/-- The words of a holding block at `reg` after a request to store `ws` from `a` on. -/
def requested (reg : ℕ) (vs : List ℤ) (a : ℕ) (ws : List ℤ) : List ℤ :=
  if reg ≤ a ∧ a + ws.length ≤ reg + vs.length then splice vs (a - reg) ws else vs

theorem length_requested (reg : ℕ) (vs : List ℤ) (a : ℕ) (ws : List ℤ) :
    (requested reg vs a ws).length = vs.length := by
  unfold requested
  split_ifs with h
  · exact length_splice (by omega)
  · rfl

theorem put_eq_requested (reg : ℕ) (vs : List ℤ) (a : ℕ) (ws : List ℤ) :
    (⟨blockName reg, .holdingRegisters, reg, vs⟩ : Block RegType ℤ).put a ws =
      ⟨blockName reg, .holdingRegisters, reg, requested reg vs a ws⟩ := by
  unfold requested
  split_ifs with h
  · exact if_pos h
  · exact if_neg h

variable [ModbusSlave σ]

theorem init_fields {deviceType channelCount addr : ℕ} {slave : σ}
    (h : init deviceType channelCount addr slave = .ok d) :
    d.addr = addr ∧ d.uid = UID_BASE + ((addr : ℤ) - 3) := by
  obtain ⟨_, _, h⟩ := bind_eq_ok h
  obtain ⟨_, _, h⟩ := bind_eq_ok h
  cases h
  exact ⟨rfl, rfl⟩

theorem addRegister_fields {d' : EctoDevice σ} {n : ℕ} {callback : Option ReadCallback}
    (h : d.addRegister kind reg n callback = .ok d') : d'.addr = d.addr ∧ d'.uid = d.uid := by
  obtain ⟨_, _, h⟩ := bind_eq_ok h
  cases h
  exact ⟨rfl, rfl⟩

theorem init_addRegister_fields {d' : EctoDevice σ} {deviceType channelCount addr n : ℕ} {slave : σ}
    {callback : Option ReadCallback} (h₀ : init deviceType channelCount addr slave = .ok d)
    (h : d.addRegister kind reg n callback = .ok d') :
    d'.addr = addr ∧ d'.uid = UID_BASE + ((addr : ℤ) - 3) := by
  obtain ⟨ha₀, hu₀⟩ := init_fields h₀
  obtain ⟨ha, hu⟩ := addRegister_fields h
  exact ⟨ha.trans ha₀, hu.trans hu₀⟩

variable [LawfulModbusSlave σ]

def HasBlock (d : EctoDevice σ) (kind : RegType) (reg : ℕ) (vs : List ℤ) : Prop :=
  (table d.slave).find? (blockName reg) = some ⟨blockName reg, kind, reg, vs⟩

theorem hasBlock_of_mem
    (h : (⟨blockName reg, kind, reg, vs⟩ : Block RegType ℤ) ∈ (table d.slave).blocks) :
    d.HasBlock kind reg vs := Table.find?_of_mem h

theorem HasBlock.cell (h : d.HasBlock kind reg vs) {i : ℕ} (hi : i < vs.length) :
    (table d.slave).cell? kind (reg + i) = vs[i]? := by
  have hc : (⟨blockName reg, kind, reg, vs⟩ : Block RegType ℤ).Contains (reg + i) 1 :=
    ⟨Nat.le_add_right reg i, by show reg + i + 1 ≤ reg + vs.length; omega⟩
  have hcell := Table.cell?_of_find? h hc
  rwa [Nat.add_sub_cancel_left] at hcell

/-! ## Frames -/

theorem setRegister_slave (reg : ℕ) (vs : List ℤ) (d : EctoDevice σ) :
    ∃ slave', (setRegister reg vs).after d = { d with slave := slave' } := by
  rcases setRegister_cases reg vs d with hd | ⟨_, slave', _, _, hd⟩
  · exact ⟨d.slave, hd⟩
  · exact ⟨slave', hd⟩

theorem masterWrite_slave (a : ℕ) (vs : List ℤ) (d : EctoDevice σ) :
    ∃ slave', (masterWrite a vs).after d = { d with slave := slave' } := by
  rcases masterWrite_cases a vs d with ⟨_, hd⟩ | ⟨slave', _, hd⟩
  · exact ⟨d.slave, hd⟩
  · exact ⟨slave', hd⟩

theorem blocks_masterWrite (a : ℕ) (ws : List ℤ) (d : EctoDevice σ) :
    (table ((masterWrite a ws).after d).slave).blocks = (table d.slave).blocks.map fun b =>
      if b.kind = .holdingRegisters then b.put a ws else b := by
  rcases masterWrite_cases a ws d with ⟨ht, hd⟩ | ⟨slave', ht, hd⟩
  · have hsame : ∀ b ∈ (table d.slave).blocks,
        (if b.kind = .holdingRegisters then b.put a ws else b) = b := by
      intro b hb
      split_ifs with hk
      · rw [← hk] at ht
        exact Table.put_of_write?_eq_none (Table.find?_of_mem hb) ht
      · rfl
    rw [hd, List.map_congr_left hsame, List.map_id']
  · rw [hd]
    exact Table.blocks_write ht

theorem HasBlock.setRegister_of_ne (h : d.HasBlock kind reg vs) {reg' : ℕ} (hn : d.Named reg')
    (hr : reg ≠ reg') (ws : List ℤ) : ((setRegister reg' ws).after d).HasBlock kind reg vs := by
  rcases setRegister_cases reg' ws d with hd | ⟨sensor, slave', hs, ht, hd⟩
  · rwa [hd]
  · have hname : blockName reg ≠ sensor.blockName := by
      rw [hn sensor hs]
      exact fun he => hr (blockName_inj.1 he)
    rw [hd]
    unfold HasBlock
    rwa [Table.find?_setValues_of_ne hname ht]

theorem HasBlock.setRegister (h : d.HasBlock kind reg vs) {kind' : RegType}
    {callback : Option ReadCallback}
    (hs : d.registers reg = some (sensor kind' reg vs.length callback)) {ws : List ℤ}
    (hw : ws.length = vs.length) :
    ((EctoDevice.setRegister reg ws).after d).HasBlock kind reg ws := by
  obtain ⟨slave', hok, ht⟩ := setRegister_ok ⟨⟨kind', callback, hs⟩, kind, h⟩ hw
  have hput : (⟨blockName reg, kind, reg, vs⟩ : Block RegType ℤ).put reg ws =
      ⟨blockName reg, kind, reg, ws⟩ := by
    have hc : (⟨blockName reg, kind, reg, vs⟩ : Block RegType ℤ).Contains reg ws.length :=
      ⟨le_rfl, by rw [hw]⟩
    rw [Block.put, if_pos hc, Nat.sub_self, splice_all hw]
  rw [PyM.after_ok hok, HasBlock, ht, ← hput]
  exact Table.find?_put_self h reg ws

theorem HasBlock.masterWrite (h : d.HasBlock .holdingRegisters reg vs) (a : ℕ) (ws : List ℤ) :
    ((EctoDevice.masterWrite a ws).after d).HasBlock .holdingRegisters reg
      (requested reg vs a ws) := by
  let b : Block RegType ℤ := ⟨blockName reg, .holdingRegisters, reg, vs⟩
  have hput : b.put a ws = ⟨blockName reg, .holdingRegisters, reg, requested reg vs a ws⟩ :=
    put_eq_requested ..
  rcases masterWrite_cases a ws d with ⟨ht, hd⟩ | ⟨slave', ht, hd⟩
  · have hsame : b.put a ws = b := Table.put_of_write?_eq_none h ht
    rw [hd, HasBlock, ← hput, hsame]
    exact h
  · have hw := Table.find?_write h ht
    rw [if_pos rfl] at hw
    rw [hd, HasBlock, ← hput]
    exact hw

end EctoDevice
end Ecto
