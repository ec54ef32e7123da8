import EctoModbus.Devices.Relay
import EctoModbus.Library.Delivery
import EctoModbus.Library.Replay
import EctoModbus.Library.Transition

/-! One relay over whole runs of commands, master writes and polls. What a master wrote reaches
the cached channels either at once, through `on_register_write`, or by the next
`sync_channels_from_register`; called after each write, both come to the same. Where no master
writes, the register is made by the commands alone. -/

namespace Ecto
open Python Transition BlockTable Delivery Shadow

namespace RelaySync
open EctoRelay10CH
variable {σ κ W : Type} [ModbusSlave σ]

inductive Mode where
  | push
  | pull
  deriving DecidableEq, Repr

inductive Action (κ : Type) where
  | setSwitchState (c : Fin 10) (on : Bool)
  | setStateChangeCallback (channel : ℤ) (callback : κ)
  | masterWrite (a : ℕ) (ws : List (BitVec 16))
  | poll

abbrev State (σ κ W : Type) := EctoRelay10CH σ κ × List (Call κ) × W

def call (mode : Mode) (handle : Call κ → PyM W Unit) : Action κ → PyM (State σ κ W) Unit
  | .setSwitchState c on => PyM.first (setSwitchState c on.toInt)
  | .setStateChangeCallback channel callback =>
    PyM.first (setStateChangeCallback channel callback)
  | .masterWrite a ws => do
    PyM.first (onDevice (EctoDevice.masterWrite a (requestValues ws)))
    match mode with
    | .push => onRegisterWrite (traced handle) a (requestValues ws)
    | .pull =>
      let _ ← syncChannelsFromRegister (traced handle)
      pure ()
  | .poll => do
    let _ ← syncChannelsFromRegister (traced handle)
    pure ()

/-- Register 0x10, or a run of timer registers. -/
def Owned (a n : ℕ) : Prop := a = 0x10 ∧ n = 1 ∨ 0x20 ≤ a ∧ 0 < n ∧ a + n ≤ 0x2A

def Enabled : Action κ → Prop
  | .masterWrite a ws => Owned a ws.length
  | _ => True

def Fresh [LawfulModbusSlave σ] (d : EctoRelay10CH σ κ) : Prop :=
  ∃ addr slave, table slave = Table.empty ∧ EctoRelay10CH.init addr slave = .ok d

def machine [LawfulModbusSlave σ] (mode : Mode) (handle : Call κ → PyM W Unit) :
    Machine (State σ κ W) (Action κ) where
  Init s := Fresh s.1 ∧ s.2.1 = []
  Enabled _ := Enabled
  step s a := (call mode handle a).after s

variable {handle : Call κ → PyM W Unit} {mode : Mode} {a : ℕ} {ws : List (BitVec 16)}

/-! ## Calls -/

theorem after_push {s : State σ κ W} {d : EctoRelay10CH σ κ}
    (h : onDevice (EctoDevice.masterWrite a (requestValues ws)) s.1 = .ok () d) :
    (call .push handle (.masterWrite a ws)).after s =
      (onRegisterWrite (traced handle) a (requestValues ws)).after (d, s.2) :=
  PyM.after_bind_ok (PyM.first_ok h)

theorem after_pull {s : State σ κ W} {d : EctoRelay10CH σ κ}
    (h : onDevice (EctoDevice.masterWrite a (requestValues ws)) s.1 = .ok () d) :
    (call .pull handle (.masterWrite a ws)).after s =
      (syncChannelsFromRegister (traced handle)).after (d, s.2) := by
  have hwrite : PyM.first (onDevice (EctoDevice.masterWrite a (requestValues ws))) s =
      .ok () (d, s.2) := PyM.first_ok h
  have hcall := PyM.after_bind_ok (f := fun _ => do
    let _ ← syncChannelsFromRegister (traced handle)
    pure ()) hwrite
  rw [PyM.after_bind_pure] at hcall
  exact hcall

variable [LawfulModbusSlave σ]

theorem step_poll (mode : Mode) (handle : Call κ → PyM W Unit) (s : State σ κ W) :
    (machine mode handle).step s .poll = (syncChannelsFromRegister (traced handle)).after s :=
  PyM.after_bind_pure ..

/-! ## Relays in step -/

/-- The relay is that of the image, whose cached channels are those of its word. -/
structure InStep (d : EctoRelay10CH σ κ) (v : RelayImage κ) : Prop where
  models : Models d v
  bits : ∀ c, v.channels c = 0 ∨ v.channels c = 1
  inSync : v.shadow.InSync

theorem inStep_fresh {d : EctoRelay10CH σ κ} (h : Fresh d) :
    ∃ addr, InStep d (RelayImage.fresh addr) := by
  obtain ⟨addr, slave, hs, hd⟩ := h
  exact ⟨addr, models_of_init hs hd, fun _ => Or.inl rfl, decode_zero⟩

variable {d : EctoRelay10CH σ κ} {v : RelayImage κ} {w : List (Call κ) × W}

theorem InStep.command (h : InStep d v) (c : Fin 10) (on : Bool) :
    ∃ d', setSwitchState (c : ℤ) on.toInt d = .ok () d' ∧ InStep d' (v.command c on.toInt) := by
  obtain ⟨d', hok, hm⟩ := setSwitchState_models h.models c on.toInt
  refine ⟨d', hok, hm, ?_, ?_⟩
  · rw [RelayImage.command_channels (toInt_bit on)]
    exact bits_update h.bits c (toInt_bit on)
  · rw [RelayImage.shadow_command h.bits c (toInt_bit on)]
    exact h.inSync.command c on.toInt

theorem InStep.poll (h : InStep d v) (handle : Call κ → PyM W Unit) (w : List (Call κ) × W) :
    syncChannelsFromRegister (traced handle) (d, w) = .ok false (d, w) := by
  rw [syncChannelsFromRegister_eq h.models]
  exact parse_idle h.models h.inSync.symm w

theorem InStep.setStateChangeCallback (h : InStep d v) (channel : ℤ) (k : κ) :
    ∃ d', EctoRelay10CH.setStateChangeCallback channel k d = .ok () d' ∧
      InStep d' (v.registerCallback channel k) := by
  obtain ⟨d', hok, hm⟩ := setStateChangeCallback_models h.models channel k
  refine ⟨d', hok, hm, ?_, ?_⟩
  · rw [RelayImage.registerCallback_channels]
    exact h.bits
  · rw [RelayImage.registerCallback_shadow]
    exact h.inSync

/-! ## Push and pull -/

/-- Two copies in step with the same image that have made the same callbacks. -/
def Together (s t : State σ κ W) : Prop := ∃ v, InStep s.1 v ∧ InStep t.1 v ∧ s.2 = t.2

theorem together_writeWord (hh : ∀ call w, ∃ w', handle call w = .ok () w') {s t : State σ κ W}
    (h : Together s t) (x : BitVec 16) :
    Together ((call .push handle (.masterWrite 0x10 [x])).after s)
      ((call .pull handle (.masterWrite 0x10 [x])).after t) := by
  obtain ⟨v, hs, ht, hw⟩ := h
  obtain ⟨d, hd, hmd⟩ := masterWrite_word hs.models x.toNat
  obtain ⟨e, he, hme⟩ := masterWrite_word ht.models x.toNat
  obtain ⟨c, ⟨ch, w'⟩, hu⟩ := updateChannels_returns (traced_returns hh) v.callbacks
    (decode x.toNat) (List.finRange 10) false (v.channels, s.2)
  have hch : ch = decode x.toNat := by
    rw [updateChannels_ok hu, setAll_finRange]
  subst hch
  -- the request and the register hold the same word, so both parses make the same rounds
  have hpush : (call .push handle (.masterWrite 0x10 [x])).after s =
      ({ d with channels := decode x.toNat }, w') := by
    have hparse := parse_ok hmd hu
    rw [after_push hd, requestValues, List.map_singleton, after_onRegisterWrite]
    exact PyM.after_ok hparse
  have hpull : (call .pull handle (.masterWrite 0x10 [x])).after t =
      ({ e with channels := decode x.toNat }, w') := by
    have hparse := parse_ok hme hu
    rw [after_pull he, after_syncChannelsFromRegister hme, ← hw]
    exact PyM.after_ok hparse
  rw [hpush, hpull]
  exact ⟨_, ⟨hmd.setChannels _, decode_bit _, rfl⟩, ⟨hme.setChannels _, decode_bit _, rfl⟩, rfl⟩

theorem together_writeTimers {s t : State σ κ W} (h : Together s t) {k : ℕ}
    {ws : List (BitVec 16)} (hk : k + (requestValues ws).length ≤ 10) :
    Together ((call .push handle (.masterWrite (0x20 + k) ws)).after s)
      ((call .pull handle (.masterWrite (0x20 + k) ws)).after t) := by
  obtain ⟨v, hs, ht, hw⟩ := h
  obtain ⟨d, hd, hmd⟩ := masterWrite_timers hs.models hk
  obtain ⟨e, he, hme⟩ := masterWrite_timers ht.models hk
  have hse : InStep e (v.storeTimers k (requestValues ws) hk) := ⟨hme, ht.bits, ht.inSync⟩
  have hpush : (call .push handle (.masterWrite (0x20 + k) ws)).after s = (d, s.2) := by
    have haddr : 0x20 + k ≠ 0x10 := by omega
    rw [after_push hd]
    exact PyM.after_ok (onRegisterWrite_other haddr ..)
  have hpull : (call .pull handle (.masterWrite (0x20 + k) ws)).after t = (e, t.2) := by
    rw [after_pull he]
    exact PyM.after_ok (hse.poll handle t.2)
  rw [hpush, hpull]
  exact ⟨_, ⟨hmd, hs.bits, hs.inSync⟩, hse, hw⟩

theorem push_simulates_pull (hh : ∀ call w, ∃ w', handle call w = .ok () w') :
    (machine (σ := σ) .push handle).Simulates (machine .pull handle) id Together := by
  intro s t a h he
  cases a with
  | setSwitchState c on =>
    obtain ⟨v, hs, ht, hw⟩ := h
    obtain ⟨d, hd, hmd⟩ := hs.command c on
    obtain ⟨e, he, hme⟩ := ht.command c on
    have hpush : (machine .push handle).step s (.setSwitchState c on) = (d, s.2) :=
      PyM.after_ok (PyM.first_ok hd)
    have hpull : (machine .pull handle).step t (.setSwitchState c on) = (e, t.2) :=
      PyM.after_ok (PyM.first_ok he)
    rw [hpush, id_eq, hpull]
    exact ⟨_, hmd, hme, hw⟩
  | setStateChangeCallback channel k =>
    obtain ⟨v, hs, ht, hw⟩ := h
    obtain ⟨d, hd, hmd⟩ := hs.setStateChangeCallback channel k
    obtain ⟨e, he, hme⟩ := ht.setStateChangeCallback channel k
    have hpush : (machine .push handle).step s (.setStateChangeCallback channel k) = (d, s.2) :=
      PyM.after_ok (PyM.first_ok hd)
    have hpull : (machine .pull handle).step t (.setStateChangeCallback channel k) = (e, t.2) :=
      PyM.after_ok (PyM.first_ok he)
    rw [hpush, id_eq, hpull]
    exact ⟨_, hmd, hme, hw⟩
  | masterWrite a ws =>
    rcases he with ⟨rfl, hl⟩ | ⟨ha, _, hl⟩
    · obtain ⟨x, rfl⟩ := List.length_eq_one_iff.1 hl
      exact together_writeWord hh h x
    · obtain ⟨k, rfl⟩ := Nat.exists_eq_add_of_le ha
      exact together_writeTimers h (by rw [length_requestValues]; omega)
  | poll =>
    obtain ⟨v, hs, ht, hw⟩ := h
    -- the copy is fresh on both sides, so a poll is idle
    have hpush : (machine .push handle).step s .poll = s := by
      rw [step_poll]
      exact PyM.after_ok (hs.poll handle s.2)
    have hpull : (machine .pull handle).step t .poll = t := by
      rw [step_poll]
      exact PyM.after_ok (ht.poll handle t.2)
    rw [hpush, id_eq, hpull]
    exact ⟨v, hs, ht, hw⟩

/-- Fed the same commands and writes, a relay told of each write and one that polls after it have
the same channels, register, timers and callbacks throughout. -/
theorem push_pull_agree (hh : ∀ call w, ∃ w', handle call w = .ok () w') {s : State σ κ W}
    (hs : (machine .push handle).Init s) {as : List (Action κ)}
    (h : (machine .push handle).IsRun s as) :
    let p := (machine .push handle).run s as
    let q := (machine .pull handle).run s as
    p.1.channels = q.1.channels ∧ p.1.word = q.1.word ∧ p.1.timers = q.1.timers ∧
      p.2.1 = q.2.1 := by
  obtain ⟨addr, hv⟩ := inStep_fresh hs.1
  obtain ⟨v, hp, hq, hw⟩ := (push_simulates_pull hh).run ⟨_, hv, hv, rfl⟩ h
  rw [List.map_id] at hq hw
  refine ⟨?_, ?_, ?_, ?_⟩
  · rw [hp.models.channels, hq.models.channels]
  · rw [hp.models.word_eq, hq.models.word_eq]
  · rw [hp.models.timers, hq.models.timers]
  · rw [hw]

def start : State RegTable ℕ Unit := (onTable ℕ 3, [], ())

theorem fresh_start : Fresh start.1 := ⟨3, Table.empty, rfl, init_onTable 3⟩

theorem push_pull_agree_on_threeWrites :
    let handle : Call ℕ → PyM Unit Unit := fun _ => pure ()
    let threeWrites := [.setStateChangeCallback 1 7, .setSwitchState 0 true,
      .masterWrite 0x10 [0x0201], .masterWrite 0x28 [5, 0x8001]]
    ((machine .push handle).run start threeWrites).1.channels =
        ((machine .pull handle).run start threeWrites).1.channels ∧
      ((machine .push handle).run start threeWrites).2.1 =
        ((machine .pull handle).run start threeWrites).2.1 := by
  intro handle threeWrites
  have hr : (machine .push handle).IsRun start threeWrites :=
    ⟨trivial, trivial, Or.inl ⟨rfl, rfl⟩, Or.inr (by decide), trivial⟩
  have hh : ∀ call w, ∃ w', handle call w = .ok () w' := fun _ _ => ⟨_, rfl⟩
  have h := push_pull_agree hh ⟨fresh_start, rfl⟩ hr
  exact ⟨h.1, h.2.2.2⟩

/-! ## Without other writers -/

def commands (as : List (Action κ)) : List (Fin 10 × ℤ) :=
  as.filterMap fun
    | .setSwitchState c on => some (c, on.toInt)
    | _ => none

def Action.IsLocal : Action κ → Prop
  | .masterWrite _ _ => False
  | _ => True

/-- The word is the encoding of the cached channels, reserved bits included. -/
structure Encoded (d : EctoRelay10CH σ κ) (v : RelayImage κ) : Prop extends InStep d v where
  word : v.word = finalValue v.channels

theorem encoded_fresh {d : EctoRelay10CH σ κ} (h : Fresh d) :
    ∃ addr, Encoded d (RelayImage.fresh addr) := by
  obtain ⟨addr, hv⟩ := inStep_fresh h
  have h0 : finalValue (fun _ => 0) = 0 := by decide
  exact ⟨addr, hv, (congrArg Nat.cast h0).symm⟩

theorem encoded_command (h : Encoded d v) (c : Fin 10) (on : Bool) :
    (v.command c on.toInt).word = finalValue (v.command c on.toInt).channels := by
  by_cases hc : on.toInt = v.channels c
  · rw [RelayImage.command_of_eq hc, h.word]
  · rw [RelayImage.command_of_ne hc (toInt_bit on)]

theorem encoded_step (mode : Mode) (handle : Call κ → PyM W Unit) (h : Encoded d v) {a : Action κ}
    (ha : a.IsLocal) (w : List (Call κ) × W) :
    ∃ v', Encoded ((machine mode handle).step (d, w) a).1 v' ∧
      v'.channels = Replay.replay v.channels (commands [a]) ∧
      ((machine mode handle).step (d, w) a).2 = w := by
  cases a with
  | setSwitchState c on =>
    obtain ⟨d', hd, hm⟩ := h.command c on
    have hs : (machine mode handle).step (d, w) (.setSwitchState c on) = (d', w) :=
      PyM.after_ok (PyM.first_ok hd)
    rw [hs]
    exact ⟨_, ⟨hm, encoded_command h c on⟩, RelayImage.command_channels (toInt_bit on) v, rfl⟩
  | setStateChangeCallback channel k =>
    obtain ⟨d', hd, hm⟩ := h.setStateChangeCallback channel k
    have hs : (machine mode handle).step (d, w) (.setStateChangeCallback channel k) = (d', w) :=
      PyM.after_ok (PyM.first_ok hd)
    rw [hs]
    refine ⟨_, ⟨hm, ?_⟩, RelayImage.registerCallback_channels channel k v, rfl⟩
    rw [RelayImage.registerCallback_word, RelayImage.registerCallback_channels, h.word]
  | masterWrite a ws => exact ha.elim
  | poll =>
    have hs : (machine mode handle).step (d, w) .poll = (d, w) := by
      rw [step_poll]
      exact PyM.after_ok (h.poll handle w)
    rw [hs]
    exact ⟨v, h, rfl, rfl⟩

theorem encoded_run (mode : Mode) (handle : Call κ → PyM W Unit) {s : State σ κ W}
    (h : Encoded s.1 v) {as : List (Action κ)} (ha : ∀ a ∈ as, a.IsLocal) :
    ∃ v', Encoded ((machine mode handle).run s as).1 v' ∧
      v'.channels = Replay.replay v.channels (commands as) ∧
      ((machine mode handle).run s as).2 = s.2 := by
  induction as generalizing s v with
  | nil => exact ⟨v, h, rfl, rfl⟩
  | cons a as ih =>
    obtain ⟨v₁, h₁, hc₁, hw₁⟩ := encoded_step mode handle h (ha a List.mem_cons_self) s.2
    obtain ⟨v₂, h₂, hc₂, hw₂⟩ := ih h₁ fun b hb => ha b (List.mem_cons_of_mem a hb)
    have happ : commands (a :: as) = commands [a] ++ commands as := List.filterMap_append (l := [a])
    refine ⟨v₂, h₂, ?_, ?_⟩
    · rw [hc₂, hc₁, happ, Replay.replay_append]
    · rw [Machine.run, hw₂, hw₁]

/-- With no other writer the register holds the last command of each channel, polls find nothing
to do, and only the order of the commands for each single channel matters. -/
theorem register_of_commands {s : State σ κ W} (hs : (machine mode handle).Init s)
    {as : List (Action κ)} (ha : ∀ a ∈ as, a.IsLocal) :
    let t := (machine mode handle).run s as
    let last := Replay.last (fun _ => 0) (commands as)
    t.1.word = (∑ i : Fin 8, last (msbChannel i) * 2 ^ (8 + i.val)) + last 8 + 2 * last 9 ∧
      syncChannelsFromRegister (traced handle) t = .ok false t ∧ t.2 = s.2 ∧
      ∀ (s' : State σ κ W) (bs : List (Action κ)), (machine mode handle).Init s' →
        (∀ b ∈ bs, b.IsLocal) →
        (∀ c, Replay.writesTo c (commands bs) = Replay.writesTo c (commands as)) →
        ((machine mode handle).run s' bs).1.channels = t.1.channels ∧
          ((machine mode handle).run s' bs).1.word = t.1.word := by
  obtain ⟨addr, hv⟩ := encoded_fresh hs.1
  obtain ⟨v, ht, hc, hw⟩ := encoded_run mode handle hv ha
  have hlast : ∀ c, oneIf (v.channels c) = Replay.last (fun _ => 0) (commands as) c := by
    intro c
    rw [oneIf_of_bit (ht.bits c), hc, Replay.replay_eq_last]
    rfl
  refine ⟨?_, ht.poll handle _, hw, ?_⟩
  · rw [ht.models.word_eq, ht.word, finalValue_eq_sum]
    simp only [hlast]
  · intro s' bs hs' hb heq
    obtain ⟨addr', hv'⟩ := encoded_fresh hs'.1
    obtain ⟨v', ht', hc', _⟩ := encoded_run mode handle hv' hb
    have hchannels : v'.channels = v.channels := by
      -- each channel has been given the same commands in the same order
      rw [hc', hc]
      exact Replay.replay_congr _ heq
    rw [ht'.models.channels, ht.models.channels, ht'.models.word_eq, ht.models.word_eq, ht'.word,
      ht.word, hchannels]
    exact ⟨rfl, rfl⟩

theorem register_of_four_commands :
    let fourCommands := [.setSwitchState 9 true, .setSwitchState 0 true, .poll,
      .setSwitchState 2 true, .setSwitchState 0 false]
    ((machine .pull fun _ => pure ()).run start fourCommands).1.word = 0x0402 := by
  intro fourCommands
  have hlocal : ∀ a ∈ fourCommands, a.IsLocal := by simp [fourCommands, Action.IsLocal]
  have hinit : (machine .pull fun _ => pure ()).Init start := ⟨fresh_start, rfl⟩
  have hword := (register_of_commands hinit hlocal).1
  rw [hword]
  decide +kernel

end RelaySync
end Ecto
