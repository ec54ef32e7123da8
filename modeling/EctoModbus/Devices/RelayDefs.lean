import EctoModbus.Devices.Base
import EctoModbus.Library.Bits

/-! `devices/relay.py`: ten channels kept as one word in holding register 0x10, ten timers in
0x20-0x29, and callbacks for changes that a master made. `κ` is the type of callbacks. -/

namespace Ecto
open Python

/-- What `self._state_change_callbacks[channel](channel, state)` is called with. -/
structure Call (κ : Type) where
  callback : κ
  channel : ℤ
  state : ℤ
  deriving DecidableEq, Repr

structure EctoRelay10CH (σ κ : Type) extends EctoDevice σ where
  channels : Fin 10 → ℤ
  timers : Fin 10 → ℤ
  stateChangeCallbacks : Fin 10 → Option κ

namespace EctoRelay10CH
variable {σ κ W : Type}

def DEVICE_TYPE : ℕ := 0xC1
def CHANNEL_COUNT : ℕ := 10

/-- The guard `0 <= channel < self.CHANNEL_COUNT`. -/
def channel? (channel : ℤ) : Option (Fin 10) :=
  if h : 0 ≤ channel ∧ channel < CHANNEL_COUNT then
    some ⟨channel.toNat, by simp only [CHANNEL_COUNT] at h; omega⟩
  else none

/-- Channels 0-7, the loop over the high byte. -/
def msbChannel (i : Fin 8) : Fin 10 := i.castAdd 2

/-- Channels 8 and 9, the loop over the low byte. -/
def lsbChannel (i : Fin 2) : Fin 10 := i.natAdd 8

/-! ## The state word -/

def finalValue (channels : Fin 10 → ℤ) : ℕ :=
  let msb := Bits.orBits fun i => truthy (channels (msbChannel i))
  let lsb := 0
  let lsb := if truthy (channels 8) then lsb ||| (1 <<< 0) else lsb
  let lsb := if truthy (channels 9) then lsb ||| (1 <<< 1) else lsb
  (msb <<< 8) ||| lsb

/-- One round of the decoding loops: store a state that differs and notify. -/
def updateChannel (invoke : Call κ → PyM W Unit) (callbacks : Fin 10 → Option κ) (i : Fin 10)
    (newState : ℤ) : PyM ((Fin 10 → ℤ) × W) Bool := do
  let (channels, _) ← get
  if channels i ≠ newState then
    modify fun p => (Function.update p.1 i newState, p.2)
    match callbacks i with
    | some callback =>
      PyM.second (invoke ⟨callback, i, newState⟩)
      return true
    | none => return true
  else
    return false

/-- The two decoding loops that `sync_channels_from_register` and `on_register_write` share;
returns `changed`. -/
def parseValue (invoke : Call κ → PyM W Unit) (callbacks : Fin 10 → Option κ) (value : ℤ) :
    PyM ((Fin 10 → ℤ) × W) Bool := do
  let msb := Int.land (value >>> (8 : ℕ)) 0xFF
  let changed ← (List.finRange 8).foldlM (fun changed i => do
    let c ← updateChannel invoke callbacks (msbChannel i) (Int.land (msb >>> i.val) 1)
    return changed || c) false
  let lsb := Int.land value 0xFF
  (List.finRange 2).foldlM (fun changed i => do
    let c ← updateChannel invoke callbacks (lsbChannel i) (Int.land (lsb >>> i.val) 1)
    return changed || c) changed

/-! ## Methods -/

section Methods
variable [ModbusSlave σ]

def init (addr : ℕ) (slave : σ) : Except PyException (EctoRelay10CH σ κ) := do
  let self ← EctoDevice.init DEVICE_TYPE CHANNEL_COUNT addr slave
  let self ← self.addRegister .holdingRegisters 0x10 1 none
  let self ← self.addRegister .holdingRegisters 0x20 10 none
  return {
    toEctoDevice := self
    channels := fun _ => 0
    timers := fun _ => 0
    stateChangeCallbacks := fun _ => none }

def onDevice {α : Type} (m : PyM (EctoDevice σ) α) : PyM (EctoRelay10CH σ κ) α :=
  PyM.zoom EctoRelay10CH.toEctoDevice (fun d self => { self with toEctoDevice := d }) m

def setSwitchState (num state : ℤ) : PyM (EctoRelay10CH σ κ) Unit := do
  let self ← get
  let i ← PyM.ofOption .indexError (index 10 num)
  if state ≠ self.channels i then
    let channels := Function.update self.channels i (oneIf state)
    set { self with channels := channels }
    onDevice (EctoDevice.setRegister 0x10 [(finalValue channels : ℤ)])
  else
    pure ()

/-- The word `set_timer` stores: bit 15 the initial state, below it the 500 ms units. -/
def timerValue (initialState : Bool) (timeoutSeconds : ℚ) : ℤ :=
  let timeoutUnits := trunc (timeoutSeconds * 2)
  Int.lor (if initialState then ((1 <<< 15 : ℕ) : ℤ) else 0) (Int.land timeoutUnits 0x7FFF)

def setTimer (channel : ℤ) (initialState : Bool) (timeoutSeconds : ℚ) :
    PyM (EctoRelay10CH σ κ) Unit := do
  match channel? channel with
  | none => pure ()
  | some i =>
    let self ← get
    let timers := Function.update self.timers i (timerValue initialState timeoutSeconds)
    set { self with timers := timers }
    onDevice (EctoDevice.setRegister 0x20 ((List.finRange 10).map timers))

def getChannelState (channel : ℤ) (self : EctoRelay10CH σ κ) : Option ℤ :=
  (channel? channel).map self.channels

def getTimer (channel : ℤ) (self : EctoRelay10CH σ κ) : Option ℤ :=
  (channel? channel).map self.timers

def setStateChangeCallback (channel : ℤ) (callback : κ) : PyM (EctoRelay10CH σ κ) Unit := do
  match channel? channel with
  | none => pure ()
  | some i =>
    modify fun self => { self with
      stateChangeCallbacks := Function.update self.stateChangeCallbacks i (some callback) }

def parse (invoke : Call κ → PyM W Unit) (value : ℤ) : PyM (EctoRelay10CH σ κ × W) Bool := fun p =>
  PyM.zoom (fun p => (p.1.channels, p.2)) (fun q p => ({ p.1 with channels := q.1 }, q.2))
    (parseValue invoke p.1.stateChangeCallbacks value) p

def syncChannelsFromRegister (invoke : Call κ → PyM W Unit) : PyM (EctoRelay10CH σ κ × W) Bool := do
  let values ← PyM.first (onDevice (EctoDevice.getRegister 0x10))
  match values with
  | [] => return false
  | value :: _ => parse invoke value

def onRegisterWrite (invoke : Call κ → PyM W Unit) (regAddr : ℕ) (values : List ℤ) :
    PyM (EctoRelay10CH σ κ × W) Unit := do
  if regAddr ≠ 0x10 then
    pure ()
  else
    match values with
    | [] => pure ()
    | value :: _ =>
      let _ ← parse invoke value
      pure ()

end Methods
end EctoRelay10CH
end Ecto
