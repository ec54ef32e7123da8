import EctoModbus.Devices.RelayWord
import EctoModbus.Library.Shadow

/-! What each method of the relay does to its registers and fields. The slave's table is always
the same three blocks, so a relay is described by an image without names and blocks. -/

namespace Ecto
open Python BlockTable

/-- The registers and fields of a relay. -/
structure RelayImage (κ : Type) where
  info : List ℤ
  word : ℤ
  timerRegs : List ℤ
  channels : Fin 10 → ℤ
  timers : Fin 10 → ℤ
  callbacks : Fin 10 → Option κ
  info_length : info.length = 4
  timerRegs_length : timerRegs.length = 10

namespace RelayImage
variable {κ : Type}

def blocks (v : RelayImage κ) : List (Block RegType ℤ) :=
  [⟨blockName 0, .holdingRegisters, 0, v.info⟩,
    ⟨blockName 0x10, .holdingRegisters, 0x10, [v.word]⟩,
    ⟨blockName 0x20, .holdingRegisters, 0x20, v.timerRegs⟩]

def fresh (addr : ℕ) : RelayImage κ where
  info := EctoDevice.uidData EctoRelay10CH.DEVICE_TYPE EctoRelay10CH.CHANNEL_COUNT addr
  word := 0
  timerRegs := List.replicate 10 0
  channels := fun _ => 0
  timers := fun _ => 0
  callbacks := fun _ => none
  info_length := rfl
  timerRegs_length := List.length_replicate

def command (c : Fin 10) (s : ℤ) (v : RelayImage κ) : RelayImage κ :=
  if s = v.channels c then v
  else { v with
    channels := Function.update v.channels c (oneIf s)
    word := EctoRelay10CH.finalValue (Function.update v.channels c (oneIf s)) }

def setWord (w : ℤ) (v : RelayImage κ) : RelayImage κ := { v with word := w }

def setChannels (channels : Fin 10 → ℤ) (v : RelayImage κ) : RelayImage κ :=
  { v with channels := channels }

def setCallback (c : Fin 10) (k : κ) (v : RelayImage κ) : RelayImage κ :=
  { v with callbacks := Function.update v.callbacks c (some k) }

def registerCallback (channel : ℤ) (k : κ) (v : RelayImage κ) : RelayImage κ :=
  match EctoRelay10CH.channel? channel with
  | some c => v.setCallback c k
  | none => v

def storeTimers (k : ℕ) (vs : List ℤ) (h : k + vs.length ≤ 10) (v : RelayImage κ) : RelayImage κ :=
  { v with
    timerRegs := splice v.timerRegs k vs
    timerRegs_length := (length_splice (v.timerRegs_length.symm ▸ h)).trans v.timerRegs_length }

@[simp] theorem setCallback_self (c : Fin 10) (k : κ) (v : RelayImage κ) :
    (v.setCallback c k).callbacks c = some k := Function.update_self ..

@[simp] theorem setCallback_of_ne {c i : Fin 10} (h : i ≠ c) (k : κ) (v : RelayImage κ) :
    (v.setCallback c k).callbacks i = v.callbacks i := Function.update_of_ne h ..

theorem command_of_eq {c : Fin 10} {s : ℤ} {v : RelayImage κ} (h : s = v.channels c) :
    v.command c s = v := if_pos h

@[simp] theorem command_callbacks (c : Fin 10) (s : ℤ) (v : RelayImage κ) :
    (v.command c s).callbacks = v.callbacks := by
  unfold command
  split_ifs <;> rfl

/-- The register as the channels' cells, which a master writes too, and the cached channels. -/
def shadow (v : RelayImage κ) : Shadow.Shadowed (Fin 10) ℤ := ⟨decode v.word, v.channels⟩

theorem command_of_ne {c : Fin 10} {b : ℤ} {v : RelayImage κ} (h : b ≠ v.channels c)
    (hb : b = 0 ∨ b = 1) :
    v.command c b = { v with
      channels := Function.update v.channels c b
      word := EctoRelay10CH.finalValue (Function.update v.channels c b) } := by
  have ho : oneIf b = b := by rcases hb with rfl | rfl <;> rfl
  rw [command, if_neg h, ho]

@[simp] theorem command_channels {c : Fin 10} {b : ℤ} (hb : b = 0 ∨ b = 1) (v : RelayImage κ) :
    (v.command c b).channels = Function.update v.channels c b := by
  by_cases h : b = v.channels c
  · rw [command_of_eq h, h, Function.update_eq_self]
  · rw [command_of_ne h hb]

theorem shadow_command {v : RelayImage κ} (h : ∀ c, v.channels c = 0 ∨ v.channels c = 1)
    (c : Fin 10) {b : ℤ} (hb : b = 0 ∨ b = 1) : (v.command c b).shadow = v.shadow.command c b := by
  by_cases hc : b = v.channels c
  · rw [command_of_eq hc, Shadow.Shadowed.command_of_eq hc]
  · have hbits : ∀ i, Function.update v.channels c b i = 0 ∨ Function.update v.channels c b i = 1 :=
      bits_update h c hb
    have hword := EctoRelay10CH.decode_finalValue_of_bits hbits
    rw [command_of_ne hc hb, Shadow.Shadowed.command_of_ne hc]
    exact Shadow.Shadowed.ext hword rfl

@[simp] theorem registerCallback_word (channel : ℤ) (k : κ) (v : RelayImage κ) :
    (v.registerCallback channel k).word = v.word := by
  unfold registerCallback
  split <;> rfl

@[simp] theorem registerCallback_channels (channel : ℤ) (k : κ) (v : RelayImage κ) :
    (v.registerCallback channel k).channels = v.channels := by
  unfold registerCallback
  split <;> rfl

theorem registerCallback_shadow (channel : ℤ) (k : κ) (v : RelayImage κ) :
    (v.registerCallback channel k).shadow = v.shadow := by
  simp only [shadow, registerCallback_word, registerCallback_channels]

end RelayImage

namespace EctoRelay10CH
variable {σ κ W : Type} {d : EctoRelay10CH σ κ} {invoke : Call κ → PyM W Unit} {w : W}

/-! ## Frames -/

theorem after_onDevice {α : Type} (m : PyM (EctoDevice σ) α) (d : EctoRelay10CH σ κ) :
    (onDevice m).after d = { d with toEctoDevice := m.after d.toEctoDevice } :=
  PyM.after_zoom ..

theorem onRegisterWrite_other {regAddr : ℕ} (hr : regAddr ≠ 0x10) (values : List ℤ)
    (p : EctoRelay10CH σ κ × W) : onRegisterWrite invoke regAddr values p = .ok () p := by
  simp only [onRegisterWrite, ne_eq, hr, not_false_eq_true, if_true, PyM.pure_run]

theorem after_onRegisterWrite (invoke : Call κ → PyM W Unit) (value : ℤ) (rest : List ℤ)
    (p : EctoRelay10CH σ κ × W) :
    (onRegisterWrite invoke 0x10 (value :: rest)).after p = (parse invoke value).after p := by
  simp only [onRegisterWrite, ne_eq, not_true_eq_false, if_false]
  exact PyM.after_bind_pure ..

variable [ModbusSlave σ]

theorem setTimer_out_of_range {channel : ℤ} (hc : channel? channel = none) (initialState : Bool)
    (timeoutSeconds : ℚ) : setTimer channel initialState timeoutSeconds d = .ok () d := by
  simp only [setTimer, hc, PyM.pure_run]

theorem after_setSwitchState (c : Fin 10) (s : ℤ) (d : EctoRelay10CH σ κ) :
    (setSwitchState (c : ℤ) s).after d =
      if s ≠ d.channels c then
        let channels := Function.update d.channels c (oneIf s)
        { d with
          channels := channels
          toEctoDevice :=
            (EctoDevice.setRegister 0x10 [(finalValue channels : ℤ)]).after d.toEctoDevice }
      else d := by
  simp only [setSwitchState, PyM.after_get_bind, index_fin, PyM.ofOption_some, pure_bind]
  split_ifs
  · rw [PyM.after_set_bind, after_onDevice]
  · rfl

theorem after_setTimer {channel : ℤ} {c : Fin 10} (hc : channel? channel = some c)
    (initialState : Bool) (timeoutSeconds : ℚ) (d : EctoRelay10CH σ κ) :
    (setTimer channel initialState timeoutSeconds).after d =
      let timers := Function.update d.timers c (timerValue initialState timeoutSeconds)
      { d with
        timers := timers
        toEctoDevice :=
          (EctoDevice.setRegister 0x20 ((List.finRange 10).map timers)).after d.toEctoDevice } := by
  simp only [setTimer, hc, PyM.after_get_bind, PyM.after_set_bind]
  exact after_onDevice ..

theorem after_sync_frame (invoke : Call κ → PyM W Unit) (p : EctoRelay10CH σ κ × W) :
    ((syncChannelsFromRegister invoke).after p).1.toEctoDevice = p.1.toEctoDevice ∧
      ((syncChannelsFromRegister invoke).after p).1.timers = p.1.timers := by
  -- what neither the read nor the parse touches
  let R (p q : EctoRelay10CH σ κ × W) : Prop :=
    q.1.toEctoDevice = p.1.toEctoDevice ∧ q.1.timers = p.1.timers
  have hread : PyM.Moves R (PyM.first (onDevice (EctoDevice.getRegister 0x10))) := by
    intro p
    rw [PyM.after_first, after_onDevice, EctoDevice.after_getRegister]
    exact ⟨rfl, rfl⟩
  have hparse : ∀ value, PyM.Moves R (parse invoke value) := by
    intro value p
    have hp : (parse invoke value).after p = _ :=
      PyM.after_zoom _ _ (parseValue invoke p.1.stateChangeCallbacks value) p
    rw [hp]
    exact ⟨rfl, rfl⟩
  have htrans : ∀ p q r, R p q → R q r → R p r :=
    fun _ _ _ h h' => ⟨h'.1.trans h.1, h'.2.trans h.2⟩
  refine PyM.Moves.bind htrans hread ?_ p
  intro values
  cases values with
  | nil => exact PyM.Moves.pure (fun _ => ⟨rfl, rfl⟩) false
  | cons value rest => exact hparse value

/-! ## The image of a relay -/

variable [LawfulModbusSlave σ]

def relayRegisters : ℕ → Option (ModBusRegisterSensor ReadCallback) :=
  Function.update (Function.update (Function.update (fun _ => none)
    0 (some (EctoDevice.sensor .holdingRegisters 0 4 none)))
    0x10 (some (EctoDevice.sensor .holdingRegisters 0x10 1 none)))
    0x20 (some (EctoDevice.sensor .holdingRegisters 0x20 10 none))

/-- The relay's slave, dictionary and fields are those of the image. -/
structure Models (d : EctoRelay10CH σ κ) (v : RelayImage κ) : Prop where
  blocks : (table d.slave).blocks = v.blocks
  registers : d.registers = relayRegisters
  channels : d.channels = v.channels
  timers : d.timers = v.timers
  callbacks : d.stateChangeCallbacks = v.callbacks

def holding (d : EctoRelay10CH σ κ) (a : ℕ) : ℤ :=
  ((table d.slave).cell? .holdingRegisters a).getD 0

def word (d : EctoRelay10CH σ κ) : ℤ := d.holding 0x10

variable {v : RelayImage κ}

theorem Models.word_eq (h : Models d v) : d.word = v.word := by
  simp [word, holding, Table.cell?, Table.read?, Table.owner?, h.blocks, RelayImage.blocks,
    Block.Contains, Block.load, v.info_length]

/-! ## Blocks -/

theorem Models.find_word (h : Models d v) : (table d.slave).find? (blockName 0x10) =
    some ⟨blockName 0x10, .holdingRegisters, 0x10, [v.word]⟩ := by
  simp [Table.find?, h.blocks, RelayImage.blocks, blockName_inj]

theorem Models.find_timers (h : Models d v) : (table d.slave).find? (blockName 0x20) =
    some ⟨blockName 0x20, .holdingRegisters, 0x20, v.timerRegs⟩ := by
  simp [Table.find?, h.blocks, RelayImage.blocks, blockName_inj]

theorem Models.hasRegister_word (h : Models d v) :
    d.toEctoDevice.HasRegister 0x10 [v.word] where
  sensor := ⟨.holdingRegisters, none, by rw [h.registers]; rfl⟩
  block := ⟨_, h.find_word⟩

theorem put_word_blocks (h : Models d v) (x : ℤ) :
    ((table d.slave).put (blockName 0x10) 0x10 [x]).blocks = (v.setWord x).blocks := by
  simp [Table.put, h.blocks, RelayImage.blocks, RelayImage.setWord, blockName_inj, Block.put,
    Block.Contains, splice]

theorem put_timers_blocks (h : Models d v) {k : ℕ} {vs : List ℤ} (hk : k + vs.length ≤ 10) :
    ((table d.slave).put (blockName 0x20) (0x20 + k) vs).blocks =
      (v.storeTimers k vs hk).blocks := by
  have hc : (0x20 + k) + vs.length ≤ 0x20 + v.timerRegs.length := by
    rw [v.timerRegs_length]
    omega
  simp [Table.put, h.blocks, RelayImage.blocks, RelayImage.storeTimers, blockName_inj, Block.put,
    Block.Contains, hc]

theorem write_word (h : Models d v) (x : ℤ) :
    (table d.slave).write? .holdingRegisters 0x10 [x] =
      some ((table d.slave).put (blockName 0x10) 0x10 [x]) := by
  simp [Table.write?, Table.owner?, h.blocks, RelayImage.blocks, Block.Contains, v.info_length]

theorem write_timers (h : Models d v) {k : ℕ} {vs : List ℤ} (hk : k + vs.length ≤ 10) :
    (table d.slave).write? .holdingRegisters (0x20 + k) vs =
      some ((table d.slave).put (blockName 0x20) (0x20 + k) vs) := by
  have h1 : ¬ 0x20 + k + vs.length ≤ 4 := by omega
  have h2 : ¬ 0x20 + k + vs.length ≤ 0x11 := by omega
  have h3 : 0x20 + k + vs.length ≤ 0x20 + 10 := by omega
  simp [Table.write?, Table.owner?, h.blocks, RelayImage.blocks, Block.Contains, v.info_length,
    v.timerRegs_length, h1, h2, h3]

/-! ## Methods -/

theorem Models.setChannels (h : Models d v) (ch : Fin 10 → ℤ) :
    Models { d with channels := ch } (v.setChannels ch) :=
  ⟨h.blocks, h.registers, rfl, h.timers, h.callbacks⟩

theorem onDevice_setRegister_word (h : Models d v) (x : ℤ) :
    ∃ d', onDevice (EctoDevice.setRegister 0x10 [x]) d = .ok () d' ∧ Models d' (v.setWord x) := by
  obtain ⟨slave', hok, ht⟩ := EctoDevice.setRegister_ok h.hasRegister_word (rfl : [x].length = 1)
  refine ⟨_, PyM.zoom_ok hok, ?_, h.registers, h.channels, h.timers, h.callbacks⟩
  rw [← put_word_blocks h x, ← ht]

theorem setSwitchState_models (h : Models d v) (c : Fin 10) (s : ℤ) :
    ∃ d', setSwitchState (c : ℤ) s d = .ok () d' ∧ Models d' (v.command c s) := by
  simp only [setSwitchState, PyM.get_bind, index_fin, PyM.ofOption_some, pure_bind, h.channels]
  by_cases hs : s = v.channels c
  · rw [RelayImage.command_of_eq hs]
    exact ⟨d, by simp [hs], h⟩
  · have hch := h.setChannels (Function.update v.channels c (oneIf s))
    obtain ⟨d', hok, hm⟩ := onDevice_setRegister_word hch
      (finalValue (Function.update v.channels c (oneIf s)))
    refine ⟨d', ?_, ?_⟩
    · rw [if_pos hs]
      exact hok
    · rw [RelayImage.command, if_neg hs]
      exact hm

@[simp] theorem channel?_fin (c : Fin 10) : channel? (c : ℤ) = some c := by
  have h : (0 : ℤ) ≤ (c : ℤ) ∧ (c : ℤ) < (CHANNEL_COUNT : ℤ) := by
    simp only [CHANNEL_COUNT]
    omega
  simp only [channel?, dif_pos h, Int.toNat_natCast]

theorem setStateChangeCallback_models (h : Models d v) (channel : ℤ) (k : κ) :
    ∃ d', setStateChangeCallback channel k d = .ok () d' ∧
      Models d' (v.registerCallback channel k) := by
  unfold setStateChangeCallback RelayImage.registerCallback
  cases channel? channel with
  | none => exact ⟨d, rfl, h⟩
  | some c => exact ⟨_, rfl, h.blocks, h.registers, h.channels, h.timers,
      congrArg (Function.update · c (some k)) h.callbacks⟩

theorem init_models (addr : ℕ) (slave : σ) (hs : table slave = Table.empty) :
    ∃ d : EctoRelay10CH σ κ, init addr slave = .ok d ∧ Models d (RelayImage.fresh addr) := by
  obtain ⟨d₀, h₀, hb₀, hr₀, _, _⟩ := EctoDevice.init_ok DEVICE_TYPE CHANNEL_COUNT addr hs
  have hf₁ : (table d₀.slave).Fits
      ⟨blockName 0x10, .holdingRegisters, 0x10, List.replicate 1 0⟩ := by
    simp [Table.Fits, hb₀, blockName_inj, Block.Apart, EctoDevice.uidData]
  obtain ⟨d₁, h₁, hb₁, hr₁, _, _⟩ :=
    EctoDevice.addRegister_ok .holdingRegisters 0x10 Nat.one_pos none hf₁
  have hf₂ : (table d₁.slave).Fits
      ⟨blockName 0x20, .holdingRegisters, 0x20, List.replicate 10 0⟩ := by
    simp [Table.Fits, hb₁, hb₀, blockName_inj, Block.Apart, EctoDevice.uidData]
  obtain ⟨d₂, h₂, hb₂, hr₂, _, _⟩ :=
    EctoDevice.addRegister_ok .holdingRegisters 0x20 (Nat.succ_pos 9) none hf₂
  refine ⟨{
    toEctoDevice := d₂
    channels := fun _ => 0
    timers := fun _ => 0
    stateChangeCallbacks := fun _ => none }, ?_, ?_, ?_, rfl, rfl, rfl⟩
  · simp only [init, h₀, h₁, h₂, bind, Except.bind, pure, Except.pure]
  · rw [hb₂, hb₁, hb₀]
    rfl
  · simp only [hr₂, hr₁, hr₀, relayRegisters]

theorem models_of_init {addr : ℕ} {slave : σ} (hs : table slave = Table.empty)
    {d : EctoRelay10CH σ κ} (hd : init addr slave = .ok d) : Models d (RelayImage.fresh addr) :=
  (exists_ok_iff hd).1 (init_models addr slave hs)

theorem init_isSome (addr : ℕ) :
    (init addr (Table.empty : RegTable) : Except _ (EctoRelay10CH RegTable κ)).toOption.isSome := by
  obtain ⟨d, hd, _⟩ := init_models (κ := κ) addr (Table.empty : RegTable) rfl
  exact isSome_of_ok hd

def onTable (κ : Type) (addr : ℕ) : EctoRelay10CH RegTable κ :=
  (init addr Table.empty).toOption.get (init_isSome addr)

theorem init_onTable (addr : ℕ) : init addr Table.empty = .ok (onTable κ addr) :=
  eq_ok_get (init_isSome addr)

/-! ## Master requests -/

theorem masterWrite_word (h : Models d v) (x : ℤ) :
    ∃ d', onDevice (EctoDevice.masterWrite 0x10 [x]) d = .ok () d' ∧ Models d' (v.setWord x) := by
  obtain ⟨slave', hok, ht⟩ := EctoDevice.masterWrite_ok (write_word h x)
  refine ⟨_, PyM.zoom_ok hok, ?_, h.registers, h.channels, h.timers, h.callbacks⟩
  rw [← put_word_blocks h x, ← ht]

theorem masterWrite_timers (h : Models d v) {k : ℕ} {vs : List ℤ} (hk : k + vs.length ≤ 10) :
    ∃ d', onDevice (EctoDevice.masterWrite (0x20 + k) vs) d = .ok () d' ∧
      Models d' (v.storeTimers k vs hk) := by
  obtain ⟨slave', hok, ht⟩ := EctoDevice.masterWrite_ok (write_timers h hk)
  refine ⟨_, PyM.zoom_ok hok, ?_, h.registers, h.channels, h.timers, h.callbacks⟩
  rw [← put_timers_blocks h hk, ← ht]

/-! ## Synchronisation -/

/-- The ten rounds of a parse, on the channels and the world of the callbacks. -/
def rounds (invoke : Call κ → PyM W Unit) (v : RelayImage κ) (value : ℤ) (w : W) :
    EStateM.Result PyException ((Fin 10 → ℤ) × W) Bool :=
  updateChannels invoke v.callbacks (decode value) (List.finRange 10) false (v.channels, w)

theorem parse_ok (h : Models d v) {value : ℤ} {c : Bool} {ch : Fin 10 → ℤ} {w' : W}
    (hu : rounds invoke v value w = .ok c (ch, w')) :
    parse invoke value (d, w) = .ok c ({ d with channels := ch }, w') := by
  refine PyM.zoom_ok (t := (ch, w')) ?_
  rw [parseValue_eq, h.channels, h.callbacks]
  exact hu

theorem parse_error (h : Models d v) {value : ℤ} {e : PyException} {ch : Fin 10 → ℤ} {w' : W}
    (hu : rounds invoke v value w = .error e (ch, w')) :
    parse invoke value (d, w) = .error e ({ d with channels := ch }, w') := by
  refine PyM.zoom_error (t := (ch, w')) ?_
  rw [parseValue_eq, h.channels, h.callbacks]
  exact hu

theorem syncChannelsFromRegister_eq (h : Models d v) (invoke : Call κ → PyM W Unit) (w : W) :
    syncChannelsFromRegister invoke (d, w) = parse invoke v.word (d, w) := by
  have hread := EctoDevice.getRegister_ok h.hasRegister_word
  have hr : PyM.first (onDevice (EctoDevice.getRegister 0x10)) (d, w) = .ok [v.word] (d, w) :=
    PyM.first_ok (PyM.zoom_ok hread)
  exact PyM.bind_ok hr

theorem after_parse (h : Models d v) (invoke : Call κ → PyM W Unit) (value : ℤ) (w : W) :
    (parse invoke value).after (d, w) =
      let q := (updateChannels invoke v.callbacks (decode value)
        (List.finRange 10) false).after (v.channels, w)
      ({ d with channels := q.1 }, q.2) := by
  rw [← parseValue_eq, ← h.channels, ← h.callbacks]
  exact PyM.after_zoom _ _ (parseValue invoke d.stateChangeCallbacks value) (d, w)

theorem after_syncChannelsFromRegister (h : Models d v) (invoke : Call κ → PyM W Unit) (w : W) :
    (syncChannelsFromRegister invoke).after (d, w) = (parse invoke v.word).after (d, w) := by
  simp only [PyM.after, syncChannelsFromRegister_eq h]

theorem parse_idle (h : Models d v) {value : ℤ} (hv : v.channels = decode value) (w : W) :
    parse invoke value (d, w) = .ok false (d, w) := by
  have hsame : ∀ i ∈ List.finRange 10, v.channels i = decode value i := by
    intro i _
    rw [hv]
  have hu : rounds invoke v value w = .ok false (v.channels, w) :=
    updateChannels_idle hsame false w
  rw [parse_ok h hu, ← h.channels]

theorem parse_returns (h : Models d v) (hi : ∀ call w, ∃ w', invoke call w = .ok () w') (value : ℤ)
    (w : W) :
    ∃ c w', parse invoke value (d, w) = .ok c ({ d with channels := decode value }, w') := by
  obtain ⟨c, ⟨ch, w'⟩, hu⟩ := updateChannels_returns hi v.callbacks (decode value)
    (List.finRange 10) false (v.channels, w)
  rw [updateChannels_ok hu, setAll_finRange] at hu
  exact ⟨c, w', parse_ok h hu⟩

end EctoRelay10CH
end Ecto
