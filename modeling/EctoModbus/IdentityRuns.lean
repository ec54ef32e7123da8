import EctoModbus.DeviceRunsDefs
import EctoModbus.Devices.Blocks
import EctoModbus.Devices.Relay
import EctoModbus.Devices.BinarySensor
import EctoModbus.Devices.Temperature

/-! The identity of a device over whole runs. No call of a device touches holding registers
0x0000-0x0003, but they are holding registers, so a master can store into them. -/

namespace Ecto
open Python Transition BlockTable

/-- The common information structure at 0x0000. -/
structure DeviceInfo where
  uid : ℤ
  addr : ℤ
  deviceType : ℤ
  channelCount : ℤ
  deriving DecidableEq, Repr

/-- Eight bytes, high byte first: reserved, three of the uid, reserved, address, type, channels. -/
def DeviceInfo.decode : List ℤ → Option DeviceInfo
  | [w₀, w₁, w₂, w₃] => some
    { uid := w₀ % 2 ^ 8 * 2 ^ 16 + w₁
      addr := w₂ % 2 ^ 8
      deviceType := w₃ / 2 ^ 8
      channelCount := w₃ % 2 ^ 8 }
  | _ => none

theorem decode_uidData {addr : ℕ} (h3 : 3 ≤ addr) (h32 : addr ≤ 32) {deviceType channelCount : ℕ}
    (hc : channelCount < 2 ^ 8) :
    DeviceInfo.decode (EctoDevice.uidData deviceType channelCount addr) = some
      { uid := EctoDevice.UID_BASE + ((addr : ℤ) - 3)
        addr := addr
        deviceType := deviceType
        channelCount := channelCount } := by
  have hw : deviceType <<< 8 ||| channelCount = deviceType * 2 ^ 8 + channelCount := by
    rw [Nat.shiftLeft_eq, Nat.mul_comm, ← Nat.two_pow_add_eq_or_of_lt hc]
  simp only [EctoDevice.uidData, DeviceInfo.decode, hw, EctoDevice.UID_BASE]
  congr 2 <;> omega

namespace DeviceRuns
variable {σ κ W : Type} [ModbusSlave σ]
variable {float : String → Except PyException PyFloat} {invoke : Call κ → PyM W Unit}

/-- The registers that the methods of a device store to. -/
def storesTo : DeviceClass → List ℕ
  | .relay10ch => [0x10, 0x20]
  | .binarySensor10ch => [0x10]
  | .temperatureSensor => [0x20]

/-! ## What a step does to the slave -/

theorem request_or_own (a : Action) :
    (∃ start ws, a = .masterWrite start ws) ∨ ∀ start ws, a ≠ .masterWrite start ws := by
  cases a <;> simp

/-- What a device does by itself stores to one of its own registers at most. -/
theorem step_base (float : String → Except PyException PyFloat) (invoke : Call κ → PyM W Unit)
    (p : Device σ κ × W) {a : Action} (ha : ∀ start ws, a ≠ .masterWrite start ws) :
    (step float invoke p a).1.base = p.1.base ∨ ∃ reg ∈ storesTo p.1.deviceClass, ∃ vs,
      (step float invoke p a).1.base = (EctoDevice.setRegister reg vs).after p.1.base := by
  obtain ⟨d, w⟩ := p
  cases a with
  | masterWrite start ws => exact absurd rfl (ha start ws)
  | setSwitchState c state =>
    cases d with
    | relay10ch d =>
      simp only [step, EctoRelay10CH.after_setSwitchState]
      split_ifs
      · exact Or.inr ⟨0x10, by simp [Device.deviceClass, storesTo], _, rfl⟩
      · exact Or.inl rfl
    | binarySensor10ch d =>
      simp only [step, EctoCH10BinarySensor.after_setSwitchState]
      split_ifs
      · exact Or.inr ⟨0x10, by simp [Device.deviceClass, storesTo], _, rfl⟩
      · exact Or.inl rfl
    | temperatureSensor d => exact Or.inl rfl
  | setTimer channel initialState t =>
    cases d with
    | relay10ch d =>
      cases hc : EctoRelay10CH.channel? channel with
      | none =>
        -- a channel out of range is refused before anything is stored
        have hd : (EctoRelay10CH.setTimer channel initialState t).after d = d :=
          PyM.after_ok (EctoRelay10CH.setTimer_out_of_range hc ..)
        simp only [step, hd]
        exact Or.inl trivial
      | some c =>
        simp only [step, EctoRelay10CH.after_setTimer hc]
        exact Or.inr ⟨0x20, by simp [Device.deviceClass, storesTo], _, rfl⟩
    | binarySensor10ch d => exact Or.inl rfl
    | temperatureSensor d => exact Or.inl rfl
  | stateChanged newState =>
    cases d with
    | relay10ch d => exact Or.inl rfl
    | binarySensor10ch d => exact Or.inl rfl
    | temperatureSensor d =>
      simp only [step, EctoTemperatureSensor.after_stateChanged]
      cases EctoTemperatureSensor.scaledValue float newState with
      | ok v => exact Or.inr ⟨0x20, by simp [Device.deviceClass, storesTo], _, rfl⟩
      | error e => exact Or.inl rfl
  | poll =>
    apply Or.inl
    cases d with
    | relay10ch d =>
      -- a poll reads the register, and stores to none
      simp only [step, EctoCoordinator.after_updateDevice_relay]
      exact (EctoRelay10CH.after_sync_frame invoke (d, w)).1
    | binarySensor10ch d => rfl
    | temperatureSensor d => rfl

theorem step_deviceClass (float : String → Except PyException PyFloat)
    (invoke : Call κ → PyM W Unit) (p : Device σ κ × W) (a : Action) :
    (step float invoke p a).1.deviceClass = p.1.deviceClass := by
  obtain ⟨d, w⟩ := p
  cases a with
  | poll =>
    cases d with
    | relay10ch d =>
      simp only [step, EctoCoordinator.after_updateDevice_relay]
      rfl
    | binarySensor10ch d => rfl
    | temperatureSensor d => rfl
  | _ => cases d <;> rfl

variable [LawfulModbusSlave σ]

theorem step_slave (float : String → Except PyException PyFloat) (invoke : Call κ → PyM W Unit)
    (p : Device σ κ × W) (a : Action) :
    ∃ slave', (step float invoke p a).1.base = { p.1.base with slave := slave' } := by
  rcases request_or_own a with ⟨start, ws, rfl⟩ | ha
  · have hb : (step float invoke p (.masterWrite start ws)).1.base =
        (EctoDevice.masterWrite start (requestValues ws)).after p.1.base := Device.base_withBase ..
    rw [hb]
    exact EctoDevice.masterWrite_slave ..
  · rcases step_base float invoke p ha with hb | ⟨reg, _, vs, hb⟩
    · exact ⟨p.1.base.slave, hb⟩
    · rw [hb]
      exact EctoDevice.setRegister_slave ..

/-! ## The identity -/

/-- A master reads the identity of the device. -/
def readInfo (d : Device σ κ) : Option (List ℤ) :=
  (table d.base.slave).read? .holdingRegisters 0 4

def infoAfter (info : List ℤ) : Action → List ℤ
  | .masterWrite start ws => EctoDevice.requested 0 info start (requestValues ws)
  | _ => info

/-- The device has its identity block, which no method of its own stores to. -/
structure HasInfo (d : Device σ κ) (info : List ℤ) : Prop where
  block : d.base.HasBlock .holdingRegisters 0 info
  named : ∀ reg ∈ storesTo d.deviceClass, d.base.Named reg
  length : info.length = 4

theorem pos_of_mem_storesTo {reg : ℕ} {c : DeviceClass} (h : reg ∈ storesTo c) : 0 ≠ reg := by
  cases c <;> simp only [storesTo, List.mem_cons, List.not_mem_nil, or_false] at h <;> omega

theorem HasInfo.step {p : Device σ κ × W} {info : List ℤ} (h : HasInfo p.1 info) (a : Action) :
    HasInfo (step float invoke p a).1 (infoAfter info a) := by
  obtain ⟨slave', hs⟩ := step_slave float invoke p a
  have hnamed : ∀ reg ∈ storesTo (DeviceRuns.step float invoke p a).1.deviceClass,
      (DeviceRuns.step float invoke p a).1.base.Named reg := by
    rw [step_deviceClass, hs]
    exact h.named
  rcases request_or_own a with ⟨start, ws, rfl⟩ | ha
  · have hb : (DeviceRuns.step float invoke p (.masterWrite start ws)).1.base =
        (EctoDevice.masterWrite start (requestValues ws)).after p.1.base := Device.base_withBase ..
    refine ⟨?_, hnamed, ?_⟩
    · rw [hb]
      exact h.block.masterWrite start (requestValues ws)
    · rw [infoAfter, EctoDevice.length_requested, h.length]
  · have hinfo : infoAfter info a = info := by
      cases a with
      | masterWrite start ws => exact absurd rfl (ha start ws)
      | _ => rfl
    rw [hinfo]
    -- a device stores to its own registers, which start above the identity words
    refine ⟨?_, hnamed, h.length⟩
    rcases step_base float invoke p ha with hb | ⟨reg, hr, vs, hb⟩
    · rw [hb]
      exact h.block
    · rw [hb]
      exact h.block.setRegister_of_ne (h.named reg hr) (pos_of_mem_storesTo hr) vs

theorem HasInfo.readInfo {d : Device σ κ} {info : List ℤ} (h : HasInfo d info) :
    readInfo d = some info := by
  have hc : (⟨blockName 0, .holdingRegisters, 0, info⟩ : Block RegType ℤ).Contains 0 4 :=
    ⟨le_rfl, by rw [h.length]⟩
  have hr := Table.read?_of_find? h.block (by decide) hc
  have hl : info.take 4 = info := List.take_of_length_le h.length.le
  rw [Block.load, Nat.sub_self, List.drop_zero, hl] at hr
  exact hr

theorem setUp_fields {addr : ℕ} {d : Device σ κ} (h : SetUp addr d) :
    d.base.addr = addr ∧ d.base.uid = EctoDevice.UID_BASE + ((addr : ℤ) - 3) := by
  cases h with
  | relay10ch hs hd =>
    obtain ⟨d₀, h₀, hd⟩ := bind_eq_ok hd
    obtain ⟨d₁, h₁, hd⟩ := bind_eq_ok hd
    obtain ⟨d₂, h₂, hd⟩ := bind_eq_ok hd
    cases hd
    obtain ⟨ha₁, hu₁⟩ := EctoDevice.init_addRegister_fields h₀ h₁
    obtain ⟨ha₂, hu₂⟩ := EctoDevice.addRegister_fields h₂
    exact ⟨ha₂.trans ha₁, hu₂.trans hu₁⟩
  | binarySensor10ch hs hd =>
    obtain ⟨d₀, h₀, hd⟩ := bind_eq_ok hd
    obtain ⟨d₁, h₁, hd⟩ := bind_eq_ok hd
    cases hd
    exact EctoDevice.init_addRegister_fields h₀ h₁
  | temperatureSensor hs hd =>
    obtain ⟨d₀, h₀, hd⟩ := bind_eq_ok hd
    obtain ⟨d₁, h₁, hd⟩ := bind_eq_ok hd
    cases hd
    exact EctoDevice.init_addRegister_fields h₀ h₁

/-- The four words `__init__` stores. -/
def infoAt (addr : ℕ) (d : Device σ κ) : List ℤ :=
  EctoDevice.uidData d.deviceClass.deviceType d.deviceClass.channelCount addr

theorem hasInfo_of_input {d : Device σ κ} {reg : ℕ} {callback : Option ReadCallback}
    {info : List ℤ} {x : ℤ} (h : d.base.HasInput reg callback info x)
    (hr : storesTo d.deviceClass = [reg]) : HasInfo d info := by
  refine ⟨EctoDevice.hasBlock_of_mem ?_, ?_, h.info_length⟩
  · rw [h.blocks]
    exact List.mem_cons_self
  · intro reg' hreg'
    rw [hr] at hreg'
    rw [List.mem_singleton.1 hreg']
    exact EctoDevice.named_of_sensor h.registered

theorem hasInfo_setUp {addr : ℕ} {d : Device σ κ} (h : SetUp addr d) :
    HasInfo d (infoAt addr d) := by
  cases h with
  | relay10ch hs hd =>
    have hm := EctoRelay10CH.models_of_init hs hd
    refine ⟨EctoDevice.hasBlock_of_mem ?_, ?_, rfl⟩
    · rw [Device.base, hm.blocks]
      exact List.mem_cons_self
    · -- both registers that a relay stores to have blocks of their own names
      have hstores : ∀ reg ∈ [0x10, 0x20], ∃ n,
          EctoRelay10CH.relayRegisters reg =
            some (EctoDevice.sensor .holdingRegisters reg n none) := by
        simp only [List.mem_cons, List.not_mem_nil, or_false]
        rintro reg (rfl | rfl)
        · exact ⟨1, rfl⟩
        · exact ⟨10, rfl⟩
      intro reg hr
      obtain ⟨n, hsensor⟩ := hstores reg hr
      rw [← hm.registers] at hsensor
      exact EctoDevice.named_of_sensor hsensor
  | binarySensor10ch hs hd =>
    exact hasInfo_of_input (EctoCH10BinarySensor.input_of_init hs hd).2 rfl
  | temperatureSensor hs hd =>
    exact hasInfo_of_input (EctoTemperatureSensor.input_of_init hs hd) rfl

/-! ## Runs -/

/-- A read request, of any address space. -/
structure ReadRequest where
  kind : RegType
  start : ℕ
  count : ℕ

/-- The four words read as `info`, which decodes to what the device is. -/
structure Identified (info : List ℤ) (d : Device σ κ) : Prop where
  words : readInfo d = some info
  decoded : DeviceInfo.decode info =
    some ⟨d.base.uid, d.base.addr, d.deviceClass.deviceType, d.deviceClass.channelCount⟩

/-- A write request within the structure brings the words that are there anyway. -/
def SparesInfo (info : List ℤ) : Action ⊕ ReadRequest → Prop
  | .inl (.masterWrite start ws) =>
    start + ws.length ≤ 4 → requestValues ws = (info.drop start).take ws.length
  | _ => True

theorem infoAfter_eq_iff {info : List ℤ} (h : info.length = 4) (a : Action) :
    infoAfter info a = info ↔ SparesInfo info (.inl a) := by
  cases a with
  | masterWrite start ws =>
    simp only [infoAfter, SparesInfo, EctoDevice.requested, h, Nat.zero_le, true_and, Nat.zero_add,
      Nat.sub_zero, length_requestValues]
    split_ifs with hin
    · rw [splice_eq_self_iff, length_requestValues]
      exact (imp_iff_right hin).symm
    · exact iff_of_true rfl fun hin' => absurd hin' hin
  | _ => exact iff_of_true rfl trivial

/-- The device is what `__init__` made it, identity included. -/
structure Original (addr : ℕ) (c : DeviceClass) (d : Device σ κ) : Prop where
  info : HasInfo d (EctoDevice.uidData c.deviceType c.channelCount addr)
  class_eq : d.deviceClass = c
  addr_eq : d.base.addr = addr
  uid_eq : d.base.uid = EctoDevice.UID_BASE + ((addr : ℤ) - 3)

variable {addr : ℕ} {c : DeviceClass}

theorem original_setUp {d : Device σ κ} (h : SetUp addr d) : Original addr d.deviceClass d := by
  obtain ⟨ha, hu⟩ := setUp_fields h
  exact ⟨hasInfo_setUp h, rfl, ha, hu⟩

theorem Original.identified {d : Device σ κ} (h : Original addr c d) (h3 : 3 ≤ addr)
    (h32 : addr ≤ 32) : Identified (EctoDevice.uidData c.deviceType c.channelCount addr) d := by
  have hc : c.channelCount < 2 ^ 8 := by cases c <;> decide
  refine ⟨h.info.readInfo, ?_⟩
  rw [decode_uidData h3 h32 hc, h.class_eq, h.addr_eq, h.uid_eq]

theorem Original.step {p : Device σ κ × W} (h : Original addr c p.1) {a : Action}
    (ha : infoAfter (EctoDevice.uidData c.deviceType c.channelCount addr) a =
      EctoDevice.uidData c.deviceType c.channelCount addr) :
    Original addr c (step float invoke p a).1 := by
  obtain ⟨slave', hs⟩ := step_slave float invoke p a
  have hinfo : HasInfo (DeviceRuns.step float invoke p a).1 _ := h.info.step a
  rw [ha] at hinfo
  refine ⟨hinfo, ?_, ?_, ?_⟩
  · rw [step_deviceClass, h.class_eq]
  · rw [hs]
    exact h.addr_eq
  · rw [hs]
    exact h.uid_eq

theorem identified_step_iff (h3 : 3 ≤ addr) (h32 : addr ≤ 32) {p : Device σ κ × W}
    (h : Original addr c p.1) (e : Action ⊕ ReadRequest) :
    let info := EctoDevice.uidData c.deviceType c.channelCount addr
    let M := (machine float invoke).withQueries ReadRequest
    (Identified info (M.step p e).1 ↔ SparesInfo info e) ∧
      (Identified info (M.step p e).1 → Original addr c (M.step p e).1) := by
  intro info M
  cases e with
  | inr r => exact ⟨iff_of_true (h.identified h3 h32) trivial, fun _ => h⟩
  | inl a =>
    have hinfo : HasInfo (M.step p (.inl a)).1 (infoAfter info a) := h.info.step a
    -- the words that are read determine the block
    have hkeep : Identified info (M.step p (.inl a)).1 → infoAfter info a = info := by
      intro hid
      have hw := hinfo.readInfo
      rw [hid.words] at hw
      exact (Option.some.inj hw).symm
    have horig : infoAfter info a = info → Original addr c (M.step p (.inl a)).1 := h.step
    refine ⟨?_, fun hid => horig (hkeep hid)⟩
    rw [← infoAfter_eq_iff rfl]
    exact ⟨hkeep, fun ha => (horig ha).identified h3 h32⟩

/-- A device of any kind keeps its identity throughout a run exactly if no write request of the
run brings new words for it. -/
theorem identity_run_iff (h3 : 3 ≤ addr) (h32 : addr ≤ 32) {p : Device σ κ × W}
    (hp : SetUp addr p.1) {es : List (Action ⊕ ReadRequest)}
    (h : ((machine float invoke).withQueries ReadRequest).IsRun p es) :
    let info := infoAt addr p.1
    let M := (machine float invoke).withQueries ReadRequest
    Identified info p.1 ∧
      (M.EveryStep (fun q e => Identified info (M.step q e).1) p es ↔
        ∀ e ∈ es, SparesInfo info e) := by
  intro info M
  have horig := original_setUp hp
  refine ⟨horig.identified h3 h32, ?_⟩
  have hI : M.Preserves fun _ => True := fun _ _ _ _ => trivial
  rw [← Machine.everyStep_const_iff (M := M) (s := p)]
  have hstep : ∀ q e, Original addr p.1.deviceClass q.1 →
      (Identified info (M.step q e).1 ↔ SparesInfo info e) ∧
        (Identified info (M.step q e).1 → Original addr p.1.deviceClass (M.step q e).1) :=
    fun q e hq => identified_step_iff h3 h32 hq e
  exact hI.everyStep_congr_of_good
    (fun q e _ (hq : Original addr p.1.deviceClass q.1) _ => (hstep q e hq).1)
    (fun q e _ hq _ hid => (hstep q e hq).2 hid) trivial horig h

def contactSensor : Device RegTable Empty × Unit :=
  (.binarySensor10ch (EctoCH10BinarySensor.onTable 4), ())

theorem setUp_contactSensor : SetUp 4 contactSensor.1 :=
  .binarySensor10ch rfl (EctoCH10BinarySensor.init_onTable 4)

theorem masterWrite_changes_identity :
    let M := (machine (fun _ => .error .valueError) fun _ : Call Empty =>
      (pure () : PyM Unit Unit)).withQueries ReadRequest
    let newAddress : List (Action ⊕ ReadRequest) := [.inl (.masterWrite 2 [7])]
    SetUp 4 contactSensor.1 ∧ M.IsRun contactSensor newAddress ∧
      readInfo contactSensor.1 = some [0x80, 1, 4, 0x590A] ∧
      readInfo (M.run contactSensor newAddress).1 = some [0x80, 1, 7, 0x590A] := by
  refine ⟨setUp_contactSensor, ⟨trivial, trivial⟩, ?_, ?_⟩ <;> decide +kernel

theorem rejected_writes_keep_identity :
    let M := (machine (fun _ => .error .valueError) fun _ : Call Empty =>
      (pure () : PyM Unit Unit)).withQueries ReadRequest
    let info := infoAt 4 contactSensor.1
    M.EveryStep (fun q e => Identified info (M.step q e).1) contactSensor
      [.inl (.setSwitchState 3 1), .inl (.masterWrite 3 [1, 2]), .inr ⟨.holdingRegisters, 0, 4⟩,
        .inl (.masterWrite 2 [4])] := by
  intro M info
  have hrun : M.IsRun contactSensor [.inl (.setSwitchState 3 1), .inl (.masterWrite 3 [1, 2]),
      .inr ⟨.holdingRegisters, 0, 4⟩, .inl (.masterWrite 2 [4])] :=
    ⟨trivial, trivial, trivial, trivial, trivial⟩
  apply (identity_run_iff (by decide) (by decide) setUp_contactSensor hrun).2.2
  simp only [List.mem_cons, List.not_mem_nil, or_false]
  rintro e (rfl | rfl | rfl | rfl)
  · trivial
  · exact fun hin => absurd hin (by decide)
  · trivial
  · exact fun _ => rfl

end DeviceRuns
end Ecto
