import EctoModbus.Devices.Base

/-! Devices whose only register besides the identity is one input register. A master can write
the identity block, which is a holding block, but never the input register. -/

namespace Ecto
open Python BlockTable

namespace EctoDevice
variable {σ : Type} [ModbusSlave σ] [LawfulModbusSlave σ]

/-- The device has four identity words and input register `reg`, which holds `x`. -/
structure HasInput (d : EctoDevice σ) (reg : ℕ) (readCallback : Option ReadCallback)
    (info : List ℤ) (x : ℤ) : Prop where
  blocks : (table d.slave).blocks = [⟨blockName 0, .holdingRegisters, 0, info⟩,
    ⟨blockName reg, .readInputRegisters, reg, [x]⟩]
  registered : d.registers reg = some (sensor .readInputRegisters reg 1 readCallback)
  info_length : info.length = 4
  pos : 0 < reg

def input (d : EctoDevice σ) (a : ℕ) : ℤ :=
  ((table d.slave).cell? .readInputRegisters a).getD 0

variable {d : EctoDevice σ} {reg : ℕ} {readCallback : Option ReadCallback} {info : List ℤ} {x : ℤ}

theorem HasInput.input_eq (h : HasInput d reg readCallback info x) : d.input reg = x := by
  simp [input, Table.cell?, Table.read?, Table.owner?, h.blocks, Block.Contains, Block.load]

theorem HasInput.hasRegister (h : HasInput d reg readCallback info x) : d.HasRegister reg [x] where
  sensor := ⟨.readInputRegisters, readCallback, h.registered⟩
  block := ⟨.readInputRegisters, by
    simp [Table.find?, h.blocks, blockName_inj, h.pos.ne]⟩

theorem HasInput.setRegister (h : HasInput d reg readCallback info x) (y : ℤ) :
    ∃ slave', EctoDevice.setRegister reg [y] d = .ok () { d with slave := slave' } ∧
      HasInput { d with slave := slave' } reg readCallback info y := by
  obtain ⟨slave', hok, ht⟩ := setRegister_ok h.hasRegister (rfl : [y].length = 1)
  refine ⟨slave', hok, ?_, h.registered, h.info_length, h.pos⟩
  simp [ht, Table.put, h.blocks, blockName_inj, h.pos.ne, Block.put, Block.Contains, splice]

theorem HasInput.all_iff (h : HasInput d reg readCallback info x) {P : ℤ → Prop} :
    (table d.slave).All P ↔ (∀ v ∈ info, P v) ∧ P x := by
  simp [Table.All, h.blocks]

theorem HasInput.masterWrite (h : HasInput d reg readCallback info x) (a : ℕ) (vs : List ℤ) :
    ∃ info', HasInput ((EctoDevice.masterWrite a vs).after d) reg readCallback info' x := by
  cases hw : (table d.slave).write? .holdingRegisters a vs with
  | none =>
    rw [masterWrite_rejected hw]
    exact ⟨info, h⟩
  | some t =>
    obtain ⟨slave', hok, ht⟩ := masterWrite_ok hw
    rw [PyM.after_ok hok]
    obtain ⟨b, hb, rfl⟩ := Option.map_eq_some_iff.1 hw
    -- of the two blocks only the identity words are holding registers
    have hb' : b = ⟨blockName 0, .holdingRegisters, 0, info⟩ := by
      have hm := List.mem_of_find?_eq_some hb
      have hk := List.find?_some hb
      rw [h.blocks] at hm
      simp only [List.mem_cons, List.not_mem_nil, or_false] at hm
      rcases hm with rfl | rfl
      · rfl
      · simp at hk
    subst hb'
    refine ⟨((⟨blockName 0, .holdingRegisters, 0, info⟩ : Block RegType ℤ).put a vs).values, ?_,
      h.registered, (Block.put_length ..).trans h.info_length, h.pos⟩
    rw [ht]
    simpa [Table.put, h.blocks, blockName_inj, h.pos.ne'] using Block.put_eq _ a vs

theorem init_input_ok (deviceType channelCount addr : ℕ) {slave : σ}
    (hs : table slave = Table.empty) (hreg : 0 < reg) (readCallback : Option ReadCallback) :
    ∃ d₀ d : EctoDevice σ, EctoDevice.init deviceType channelCount addr slave = .ok d₀ ∧
      d₀.addRegister .readInputRegisters reg 1 readCallback = .ok d ∧
      HasInput d reg readCallback (uidData deviceType channelCount addr) 0 := by
  obtain ⟨d₀, h₀, hb₀, _⟩ := init_ok deviceType channelCount addr hs
  have hf : (table d₀.slave).Fits
      ⟨blockName reg, .readInputRegisters, reg, List.replicate 1 0⟩ := by
    simp [Table.Fits, hb₀, blockName_inj, Block.Apart, hreg.ne]
  obtain ⟨d, h, hb, hr, _⟩ := addRegister_ok .readInputRegisters reg Nat.one_pos readCallback hf
  refine ⟨d₀, d, h₀, h, ?_, ?_, rfl, hreg⟩
  · rw [hb, hb₀]
    rfl
  · rw [hr, Function.update_self]

end EctoDevice
end Ecto
