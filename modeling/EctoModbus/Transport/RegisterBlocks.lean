import EctoModbus.Transport.ModBusRTU
import EctoModbus.Library.Replay

/-! Families of register blocks on one slave. A block is reached through its name, and the name
says where the block starts but not which registers it holds: blocks of two types are kept apart
only if they start at different addresses. -/

namespace Ecto
open Python BlockTable

namespace RegisterBlocks

/-- What a `ModBusRegisterSensor` is constructed with. -/
structure Spec (ρ : Type) where
  regType : RegType
  addr : ℕ
  regSize : ℕ
  readCallback : Option ρ
  regSize_pos : 0 < regSize

namespace Spec
variable {ρ : Type} (s : Spec ρ)

def sensor : ModBusRegisterSensor ρ :=
  ⟨blockName s.addr, s.addr, s.regType, s.regSize, s.readCallback⟩

def block : Block RegType ℤ :=
  ⟨blockName s.addr, s.regType, s.addr, List.replicate s.regSize 0⟩

/-- Two blocks of different types, or without a common address. -/
def Apart (s t : Spec ρ) : Prop :=
  s.regType = t.regType → s.addr + s.regSize ≤ t.addr ∨ t.addr + t.regSize ≤ s.addr

theorem apart_block {s t : Spec ρ} : s.block.Apart t.block ↔ s.Apart t := by
  simp only [Block.Apart, block, List.length_replicate, Apart]

end Spec

section
variable {σ ρ : Type} [ModbusSlave σ]

def initAll : List (Spec ρ) → σ → Except PyException (List (ModBusRegisterSensor ρ) × σ)
  | [], slave => .ok ([], slave)
  | s :: specs, slave => do
    let (sensor, slave) ←
      ModBusRegisterSensor.init slave s.regType s.addr s.regSize s.readCallback
    let (sensors, slave) ← initAll specs slave
    return (sensor :: sensors, slave)

/-- `set_raw_value` on one of the sensors after another. -/
def setAll (specs : List (Spec ρ)) (writes : List (Fin specs.length × List ℤ)) (slave : σ) :
    Except PyException σ :=
  writes.foldlM (fun slave w => (specs.get w.1).sensor.setRawValue w.2 slave) slave

end

section
variable {ρ : Type}

/-- The positions of the blocks, and the values the calls write to them in order. -/
def cellWrites {n : ℕ} (writes : List (Fin n × List ℤ)) : List ((Fin n × ℕ) × ℤ) :=
  writes.flatMap fun w => Replay.writesFrom (fun k => (w.1, k)) w.2

def cells {n : ℕ} (size : ℕ) (f : Fin n × ℕ → ℤ) (i : Fin n) : List ℤ :=
  (List.range size).map fun k => f (i, k)

/-- What is last written at each position of a sensor, 0 where nothing was. -/
def lastWritten (specs : List (Spec ρ)) (writes : List (Fin specs.length × List ℤ))
    (i : Fin specs.length) : List ℤ :=
  cells (specs.get i).regSize (Replay.last (fun _ => 0) (cellWrites writes)) i

/-- `get_values` that returns `values`, after passing them to the callback if there is one. -/
def reading {W : Type} (s : Spec ρ) (invoke : ρ → ℕ → List ℤ → PyM W Unit) (values : List ℤ) :
    PyM W (List ℤ) :=
  match s.readCallback with
  | some callback => do
    invoke callback s.addr values
    return values
  | none => return values

/-- All sensors can be constructed, and each reads what was written through it. -/
def Isolated {σ : Type} [ModbusSlave σ] (specs : List (Spec ρ)) (slave : σ) : Prop :=
  ∃ slave', initAll specs slave = .ok (specs.map Spec.sensor, slave') ∧
    ∀ writes : List (Fin specs.length × List ℤ),
      (∀ w ∈ writes, w.2.length ≤ (specs.get w.1).regSize) →
      ∃ slave'', setAll specs writes slave' = .ok slave'' ∧
        ∀ (i : Fin specs.length) (W : Type) (invoke : ρ → ℕ → List ℤ → PyM W Unit),
          (specs.get i).sensor.getValues invoke slave'' =
            reading (specs.get i) invoke (lastWritten specs writes i)

end

/-! ## Construction -/

variable {σ ρ : Type} [ModbusSlave σ] [LawfulModbusSlave σ]
variable {specs : List (Spec ρ)} {slave slave' : σ}

theorem fits_of_init {s : Spec ρ} {sensor : ModBusRegisterSensor ρ}
    (h : ModBusRegisterSensor.init slave s.regType s.addr s.regSize s.readCallback =
      .ok (sensor, slave')) :
    (table slave).Fits s.block ∧ (table slave').blocks = (table slave).blocks ++ [s.block] := by
  obtain ⟨slave₁, h₁, hs⟩ := bind_eq_ok h
  cases hs
  have ht := LawfulModbusSlave.addBlock_table (blockName s.addr) s.regType s.addr s.regSize slave
    s.regSize_pos
  rw [h₁] at ht
  have hadd : some (table slave') = (table slave).add? (blockName s.addr) s.regType s.addr
      s.regSize 0 := ht
  unfold Table.add? at hadd
  split_ifs at hadd with hf
  refine ⟨hf, ?_⟩
  rw [Option.some.inj hadd]
  rfl

theorem blocks_initAll {sensors : List (ModBusRegisterSensor ρ)}
    (h : initAll specs slave = .ok (sensors, slave')) :
    (table slave').blocks = (table slave).blocks ++ specs.map Spec.block := by
  induction specs generalizing slave sensors with
  | nil =>
    cases h
    rw [List.map_nil, List.append_nil]
  | cons s specs ih =>
    obtain ⟨⟨sensor, slave₁⟩, h₁, h⟩ := bind_eq_ok h
    obtain ⟨⟨sensors', slave₂⟩, h₂, h⟩ := bind_eq_ok h
    cases h
    rw [ih h₂, (fits_of_init h₁).2, List.append_assoc, List.map_cons, List.singleton_append]

/-- The table after the construction is well formed, so the names that were added are new. -/
theorem nodup_of_initAll {sensors : List (ModBusRegisterSensor ρ)}
    (h : initAll specs slave = .ok (sensors, slave')) :
    (specs.map Spec.addr).Nodup ∧ ∀ s ∈ specs, (table slave).Fits s.block := by
  have hblocks := blocks_initAll h
  have hnames := (table slave').nodup
  have hapart := (table slave').apart
  rw [hblocks, List.map_append, List.nodup_append] at hnames
  rw [hblocks, List.pairwise_append] at hapart
  obtain ⟨_, hnew, hdisjoint⟩ := hnames
  constructor
  · -- blocks are named after their addresses
    have hmap : (specs.map Spec.block).map Block.name = (specs.map Spec.addr).map blockName := by
      rw [List.map_map, List.map_map]
      rfl
    rw [hmap] at hnew
    exact hnew.of_map
  · intro s hs
    have hmem : s.block ∈ specs.map Spec.block := List.mem_map_of_mem hs
    constructor
    · intro b hb
      exact hdisjoint _ (List.mem_map_of_mem hb) _ (List.mem_map_of_mem hmem)
    · intro b hb
      exact hapart.2.2 b hb s.block hmem

theorem initAll_ok (hapart : specs.Pairwise Spec.Apart) (haddr : (specs.map Spec.addr).Nodup)
    (hfits : ∀ s ∈ specs, (table slave).Fits s.block) :
    ∃ slave', initAll specs slave = .ok (specs.map Spec.sensor, slave') := by
  induction specs generalizing slave with
  | nil => exact ⟨slave, rfl⟩
  | cons s specs ih =>
    obtain ⟨hs, hrest⟩ := List.pairwise_cons.1 hapart
    rw [List.map_cons, List.nodup_cons] at haddr
    obtain ⟨slave₁, h₁, ht₁⟩ :=
      ModBusRegisterSensor.init_ok (hfits s List.mem_cons_self) s.regSize_pos s.readCallback
    -- the new block is apart from those that are still to come
    have hfits₁ : ∀ t ∈ specs, (table slave₁).Fits t.block := by
      intro t ht
      have hold := hfits t (List.mem_cons_of_mem s ht)
      have hne : s.addr ≠ t.addr := fun he => haddr.1 (he ▸ List.mem_map_of_mem ht)
      rw [ht₁]
      constructor
      · intro b hb
        rcases List.mem_append.1 hb with hb | hb
        · exact hold.1 b hb
        · rw [List.mem_singleton.1 hb]
          exact fun he => hne (blockName_inj.1 he)
      · intro b hb
        rcases List.mem_append.1 hb with hb | hb
        · exact hold.2 b hb
        · rw [List.mem_singleton.1 hb]
          exact Spec.apart_block.2 (hs t ht)
    obtain ⟨slave₂, h₂⟩ := ih hrest haddr.2 hfits₁
    refine ⟨slave₂, ?_⟩
    simp only [initAll, h₁, h₂, bind, Except.bind, pure, Except.pure, List.map_cons]
    rfl

/-! ## Writes -/

/-- The slave holds the blocks of the sensors, with the values `f`. -/
def Shows (specs : List (Spec ρ)) (slave : σ) (f : Fin specs.length × ℕ → ℤ) : Prop :=
  ∀ i, (table slave).find? (blockName (specs.get i).addr) = some ⟨blockName (specs.get i).addr,
    (specs.get i).regType, (specs.get i).addr, cells (specs.get i).regSize f i⟩

theorem getElem?_cells {n : ℕ} (size : ℕ) (f : Fin n × ℕ → ℤ) (i : Fin n) (k : ℕ) :
    (cells size f i)[k]? = if k < size then some (f (i, k)) else none := by
  unfold cells
  rw [List.getElem?_map]
  split_ifs with hk
  · rw [List.getElem?_range hk, Option.map_some]
  · rw [List.getElem?_eq_none (by rw [List.length_range]; omega), Option.map_none]

theorem length_cells {n : ℕ} (size : ℕ) (f : Fin n × ℕ → ℤ) (i : Fin n) :
    (cells size f i).length = size := by
  rw [cells, List.length_map, List.length_range]

theorem splice_cells {n size : ℕ} (f : Fin n × ℕ → ℤ) (i : Fin n) {vs : List ℤ}
    (hv : vs.length ≤ size) : splice (cells size f i) 0 vs =
      cells size (Replay.replay f (Replay.writesFrom (fun k => (i, k)) vs)) i := by
  have hlen : 0 + vs.length ≤ (cells size f i).length := by
    rw [length_cells]
    omega
  have hinj : ∀ j < vs.length, ∀ k < vs.length, (i, j) = (i, k) → j = k :=
    fun _ _ _ _ h => congrArg Prod.snd h
  refine List.ext_getElem? fun k => ?_
  rw [getElem?_splice hlen, getElem?_cells, getElem?_cells]
  by_cases hk : k < vs.length
  · have hw := Replay.replay_writesFrom hinj f hk
    rw [if_pos ⟨Nat.zero_le k, by omega⟩, if_pos (hk.trans_le hv), hw, Nat.sub_zero,
      List.getElem?_eq_getElem hk]
  · have hne : ∀ j < vs.length, (i, j) ≠ (i, k) := by
      intro j hj he
      obtain rfl : j = k := congrArg Prod.snd he
      exact hk hj
    rw [if_neg (by omega), Replay.replay_writesFrom_of_ne hne f]

theorem cells_of_ne {n size : ℕ} (f : Fin n × ℕ → ℤ) {i j : Fin n} (hij : j ≠ i) (vs : List ℤ) :
    cells size (Replay.replay f (Replay.writesFrom (fun k => (i, k)) vs)) j = cells size f j := by
  apply List.map_congr_left
  intro k _
  exact Replay.replay_writesFrom_of_ne (fun l _ he => hij (congrArg Prod.fst he).symm) f

theorem Shows.setRawValue {f : Fin specs.length × ℕ → ℤ} (h : Shows specs slave f)
    (haddr : (specs.map Spec.addr).Nodup) (i : Fin specs.length) {vs : List ℤ}
    (hv : vs.length ≤ (specs.get i).regSize) :
    ∃ slave', (specs.get i).sensor.setRawValue vs slave = .ok slave' ∧
      Shows specs slave' (Replay.replay f (Replay.writesFrom (fun k => (i, k)) vs)) := by
  let b : Block RegType ℤ := ⟨blockName (specs.get i).addr, (specs.get i).regType,
    (specs.get i).addr, cells (specs.get i).regSize f i⟩
  have hc : b.Contains (specs.get i).addr vs.length := by
    refine ⟨le_rfl, ?_⟩
    rw [length_cells]
    exact Nat.add_le_add_left hv _
  obtain ⟨slave', hok, hst⟩ := setValues_ok (Table.setValues?_of_find? (h i) hc)
  refine ⟨slave', hok, fun j => ?_⟩
  rw [hst]
  by_cases hij : j = i
  · subst hij
    have hput : b.put (specs.get j).addr vs = { b with
        values := cells (specs.get j).regSize
          (Replay.replay f (Replay.writesFrom (fun k => (j, k)) vs)) j } := by
      rw [Block.put, if_pos hc, Nat.sub_self, splice_cells f j hv]
    rw [Table.find?_put_self (h j), hput]
  · have hne : blockName (specs.get j).addr ≠ blockName (specs.get i).addr := by
      intro he
      have hget : (specs.map Spec.addr)[j.val]? = (specs.map Spec.addr)[i.val]? := by
        simpa using blockName_inj.1 he
      have hlt : j.val < (specs.map Spec.addr).length := by
        rw [List.length_map]
        exact j.isLt
      exact hij (Fin.ext (List.getElem?_inj hlt haddr |>.1 hget))
    rw [Table.find?_put_of_ne hne, h j, cells_of_ne f hij]

theorem Shows.setAll {f : Fin specs.length × ℕ → ℤ} (h : Shows specs slave f)
    (haddr : (specs.map Spec.addr).Nodup) {writes : List (Fin specs.length × List ℤ)}
    (hw : ∀ w ∈ writes, w.2.length ≤ (specs.get w.1).regSize) :
    ∃ slave', setAll specs writes slave = .ok slave' ∧
      Shows specs slave' (Replay.replay f (cellWrites writes)) := by
  induction writes generalizing slave f with
  | nil => exact ⟨slave, rfl, h⟩
  | cons w writes ih =>
    obtain ⟨slave₁, h₁, hs₁⟩ := h.setRawValue haddr w.1 (hw w List.mem_cons_self)
    obtain ⟨slave₂, h₂, hs₂⟩ := ih hs₁ fun v hv => hw v (List.mem_cons_of_mem w hv)
    refine ⟨slave₂, ?_, ?_⟩
    · unfold RegisterBlocks.setAll at h₂ ⊢
      rw [List.foldlM_cons, h₁]
      exact h₂
    · rwa [cellWrites, List.flatMap_cons, Replay.replay_append]

theorem Shows.getValues {f : Fin specs.length × ℕ → ℤ} (h : Shows specs slave f)
    (i : Fin specs.length) {W : Type} (invoke : ρ → ℕ → List ℤ → PyM W Unit) :
    (specs.get i).sensor.getValues invoke slave =
      reading (specs.get i) invoke (cells (specs.get i).regSize f i) := by
  let b : Block RegType ℤ := ⟨blockName (specs.get i).addr, (specs.get i).regType,
    (specs.get i).addr, cells (specs.get i).regSize f i⟩
  have hc : b.Contains (specs.get i).addr (specs.get i).regSize := by
    refine ⟨le_rfl, ?_⟩
    rw [length_cells]
  have hload : b.load (specs.get i).addr (specs.get i).regSize =
      cells (specs.get i).regSize f i := by
    rw [Block.load, Nat.sub_self, List.drop_zero]
    exact List.take_of_length_le (length_cells ..).le
  have hget := Table.getValues?_of_find? (h i) hc
  rw [hload] at hget
  have hread : ModbusSlave.getValues (specs.get i).sensor.blockName (specs.get i).sensor.addr
      (specs.get i).sensor.regSize slave = .ok (cells (specs.get i).regSize f i) :=
    getValues_ok hget
  unfold ModBusRegisterSensor.getValues reading
  rw [hread, PyM.ofExcept_ok, pure_bind]
  rfl

theorem shows_initAll {sensors : List (ModBusRegisterSensor ρ)}
    (h : initAll specs slave = .ok (sensors, slave')) : Shows specs slave' fun _ => 0 := by
  intro i
  have hmem : (specs.get i).block ∈ (table slave').blocks := by
    rw [blocks_initAll h]
    exact List.mem_append_right _ (List.mem_map_of_mem (List.get_mem specs i))
  have hzero : cells (specs.get i).regSize (fun _ => (0 : ℤ)) i =
      List.replicate (specs.get i).regSize 0 := by
    rw [cells, List.map_const', List.length_range]
  rw [hzero]
  exact Table.find?_of_mem hmem

/-- Blocks that do not overlap are isolated exactly if they start at different addresses, whatever
their types, and suit the blocks that the slave has already. -/
theorem isolated_iff (hapart : specs.Pairwise Spec.Apart) :
    Isolated specs slave ↔
      (specs.map Spec.addr).Nodup ∧ ∀ s ∈ specs, (table slave).Fits s.block := by
  constructor
  · rintro ⟨slave', h, _⟩
    exact nodup_of_initAll h
  · rintro ⟨haddr, hfits⟩
    obtain ⟨slave', h⟩ := initAll_ok hapart haddr hfits
    refine ⟨slave', h, fun writes hw => ?_⟩
    obtain ⟨slave'', hset, hshows⟩ := (shows_initAll h).setAll haddr hw
    refine ⟨slave'', hset, fun i W invoke => ?_⟩
    rw [hshows.getValues i invoke, Replay.replay_eq_last]
    rfl

def blockAt (regType : RegType) (addr : ℕ) : Spec Unit := ⟨regType, addr, 1, none, Nat.one_pos⟩

theorem same_address_is_rejected :
    let specs := [blockAt .holdingRegisters 0x20, blockAt .readInputRegisters 0x20]
    specs.Pairwise Spec.Apart ∧ ¬ Isolated specs (Table.empty : RegTable) := by
  intro specs
  refine ⟨by simp [specs, Spec.Apart, blockAt], ?_⟩
  rintro ⟨slave', h, _⟩
  have hnodup := (nodup_of_initAll h).1
  simp [specs, blockAt] at hnodup

theorem three_blocks_are_isolated :
    Isolated [⟨.holdingRegisters, 0, 4, none, by decide⟩, blockAt .readInputRegisters 0x10,
      blockAt .readInputRegisters 0x20] (Table.empty : RegTable) := by
  have hapart : [⟨.holdingRegisters, 0, 4, none, by decide⟩, blockAt .readInputRegisters 0x10,
      blockAt .readInputRegisters 0x20].Pairwise Spec.Apart := by simp [Spec.Apart, blockAt]
  refine (isolated_iff hapart).2 ⟨by simp [blockAt], fun s _ => ?_⟩
  exact ⟨fun b hb => absurd hb List.not_mem_nil, fun b hb => absurd hb List.not_mem_nil⟩

end RegisterBlocks
end Ecto
