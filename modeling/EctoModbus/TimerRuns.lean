import EctoModbus.DeviceRunsDefs
import EctoModbus.Devices.Blocks
import EctoModbus.Devices.Relay
import EctoModbus.Devices.TimerWord
import EctoModbus.Library.Replay

/-! The timer registers of a relay over whole runs. `set_timer` stores all ten from its own copies,
which nothing brings up to date with what the master wrote, so a register keeps what was written
to it only as long as the copies do. -/

namespace Ecto
open Python Transition BlockTable Shadow

namespace EctoRelay10CH
variable {σ κ W : Type} [ModbusSlave σ] [LawfulModbusSlave σ]

/-- The timer registers in the slave, and the two registers the relay stores to. -/
structure HasTimers (d : EctoRelay10CH σ κ) (regs : Fin 10 → ℤ) : Prop where
  block : d.toEctoDevice.HasBlock .holdingRegisters 0x20 ((List.finRange 10).map regs)
  registered : d.registers 0x20 = some (EctoDevice.sensor .holdingRegisters 0x20 10 none)
  named : d.toEctoDevice.Named 0x10

/-- The timer `n` places after the first; a request that lies in the block stays below 10. -/
def timerAt (n : ℕ) : Fin 10 := ⟨n % 10, Nat.mod_lt n (by decide)⟩

def requestedTimers (a : ℕ) (ws : List ℤ) : List (Fin 10 × ℤ) :=
  if 0x20 ≤ a ∧ a + ws.length ≤ 0x20 + 10 then
    Replay.writesFrom (fun k => timerAt (a - 0x20 + k)) ws
  else []

variable {d : EctoRelay10CH σ κ} {regs : Fin 10 → ℤ}

theorem length_timers (regs : Fin 10 → ℤ) : ((List.finRange 10).map regs).length = 10 := by
  rw [List.length_map, List.length_finRange]

theorem getElem?_timers (regs : Fin 10 → ℤ) (c : Fin 10) :
    ((List.finRange 10).map regs)[c.val]? = some (regs c) := by
  simp

theorem HasTimers.cell (h : HasTimers d regs) (c : Fin 10) : d.holding (0x20 + c) = regs c := by
  have hlt : c.val < ((List.finRange 10).map regs).length := by
    rw [length_timers]
    exact c.isLt
  unfold holding
  rw [h.block.cell hlt, getElem?_timers, Option.getD_some]

theorem replay_requestedTimers_of_mem {a : ℕ} {ws : List ℤ}
    (h : 0x20 ≤ a ∧ a + ws.length ≤ 0x20 + 10) {c : Fin 10}
    (hc : a - 0x20 ≤ c.val ∧ c.val < a - 0x20 + ws.length) (regs : Fin 10 → ℤ) :
    ws[c.val - (a - 0x20)]? = some (Replay.replay regs (requestedTimers a ws) c) := by
  have hinj : ∀ j < ws.length, ∀ k < ws.length,
      timerAt (a - 0x20 + j) = timerAt (a - 0x20 + k) → j = k := by
    intro j hj k hk he
    have hv := congrArg Fin.val he
    simp only [timerAt] at hv
    omega
  have hk : c.val - (a - 0x20) < ws.length := by omega
  have hkey : c = timerAt (a - 0x20 + (c.val - (a - 0x20))) := by
    apply Fin.ext
    simp only [timerAt]
    omega
  have hw := Replay.replay_writesFrom hinj regs hk
  rw [← hkey] at hw
  rw [requestedTimers, if_pos h, hw, List.getElem?_eq_getElem hk]

theorem replay_requestedTimers_of_not_mem {a : ℕ} {ws : List ℤ}
    (h : 0x20 ≤ a ∧ a + ws.length ≤ 0x20 + 10) {c : Fin 10}
    (hc : ¬ (a - 0x20 ≤ c.val ∧ c.val < a - 0x20 + ws.length)) (regs : Fin 10 → ℤ) :
    Replay.replay regs (requestedTimers a ws) c = regs c := by
  rw [requestedTimers, if_pos h]
  refine Replay.replay_writesFrom_of_ne ?_ regs
  intro k hk he
  have hv := congrArg Fin.val he
  simp only [timerAt] at hv
  omega

/-- A request stores into the block what it writes to the single registers. -/
theorem requested_timers (regs : Fin 10 → ℤ) (a : ℕ) (ws : List ℤ) :
    EctoDevice.requested 0x20 ((List.finRange 10).map regs) a ws =
      (List.finRange 10).map (Replay.replay regs (requestedTimers a ws)) := by
  unfold EctoDevice.requested
  rw [length_timers]
  split_ifs with h
  · have hlen : a - 0x20 + ws.length ≤ ((List.finRange 10).map regs).length := by
      rw [length_timers]
      omega
    refine List.ext_getElem ?_ fun i hi hi' => Option.some.inj ?_
    · rw [length_splice hlen, length_timers, length_timers]
    · rw [length_timers] at hi'
      have hright := getElem?_timers (Replay.replay regs (requestedTimers a ws)) ⟨i, hi'⟩
      have hleft := getElem?_timers regs ⟨i, hi'⟩
      have hin := fun hc => replay_requestedTimers_of_mem h (c := ⟨i, hi'⟩) hc regs
      rw [← List.getElem?_eq_getElem, ← List.getElem?_eq_getElem, getElem?_splice hlen, hright]
      split_ifs with hc
      · exact hin hc
      · rw [replay_requestedTimers_of_not_mem h hc]
        exact hleft
  · rw [requestedTimers, if_neg h]
    rfl

/-! ## Steps -/

theorem HasTimers.setSwitchState (h : HasTimers d regs) (c : Fin 10) (state : ℤ) :
    HasTimers ((setSwitchState (c : ℤ) state).after d) regs ∧
      ((setSwitchState (c : ℤ) state).after d).timers = d.timers := by
  rw [after_setSwitchState]
  split_ifs with hs
  · let x := finalValue (Function.update d.channels c (oneIf state))
    obtain ⟨slave', hd⟩ := EctoDevice.setRegister_slave 0x10 [(x : ℤ)] d.toEctoDevice
    have hb := h.block.setRegister_of_ne h.named (by decide) [(x : ℤ)]
    rw [hd] at hb
    simp only [x] at hd
    simp only [hd]
    exact ⟨⟨hb, h.registered, h.named⟩, trivial⟩
  · exact ⟨h, rfl⟩

theorem HasTimers.setTimer (h : HasTimers d regs) {channel : ℤ} {c : Fin 10}
    (hc : channel? channel = some c) (initialState : Bool) (t : ℚ) :
    let timers := Function.update d.timers c (timerValue initialState t)
    HasTimers ((setTimer channel initialState t).after d) timers ∧
      ((setTimer channel initialState t).after d).timers = timers := by
  intro timers
  have hlen : ((List.finRange 10).map timers).length = ((List.finRange 10).map regs).length := by
    rw [length_timers, length_timers]
  have hreg : d.registers 0x20 = some (EctoDevice.sensor .holdingRegisters 0x20
      ((List.finRange 10).map regs).length none) := by
    rw [length_timers]
    exact h.registered
  -- all ten registers are written from the copy
  have hb := h.block.setRegister hreg hlen
  obtain ⟨slave', hd⟩ := EctoDevice.setRegister_slave 0x20 ((List.finRange 10).map timers)
    d.toEctoDevice
  rw [hd] at hb
  rw [after_setTimer hc]
  simp only [timers] at hd
  simp only [hd]
  exact ⟨⟨hb, h.registered, h.named⟩, rfl⟩

theorem HasTimers.masterWrite (h : HasTimers d regs) (a : ℕ) (ws : List ℤ) :
    HasTimers { d with toEctoDevice := (EctoDevice.masterWrite a ws).after d.toEctoDevice }
      (Replay.replay regs (requestedTimers a ws)) := by
  have hb := h.block.masterWrite a ws
  rw [requested_timers] at hb
  obtain ⟨slave', hd⟩ := EctoDevice.masterWrite_slave a ws d.toEctoDevice
  rw [hd] at hb ⊢
  exact ⟨hb, h.registered, h.named⟩

theorem HasTimers.sync (h : HasTimers d regs) (invoke : Call κ → PyM W Unit) (w : W) :
    HasTimers ((syncChannelsFromRegister invoke).after (d, w)).1 regs ∧
      ((syncChannelsFromRegister invoke).after (d, w)).1.timers = d.timers := by
  obtain ⟨hbase, htimers⟩ := after_sync_frame invoke (d, w)
  refine ⟨⟨?_, ?_, ?_⟩, htimers⟩
  · rw [hbase]
    exact h.block
  · rw [hbase]
    exact h.registered
  · rw [hbase]
    exact h.named

theorem hasTimers_init {addr : ℕ} {slave : σ} (hs : table slave = Table.empty)
    (hd : init addr slave = .ok d) : HasTimers d (fun _ => 0) ∧ d.timers = fun _ => 0 := by
  have hm := models_of_init hs hd
  have h16 : d.registers 0x10 = some (EctoDevice.sensor .holdingRegisters 0x10 1 none) := by
    rw [hm.registers]
    rfl
  have h32 : d.registers 0x20 = some (EctoDevice.sensor .holdingRegisters 0x20 10 none) := by
    rw [hm.registers]
    rfl
  exact ⟨⟨hm.find_timers, h32, EctoDevice.named_of_sensor h16⟩, hm.timers⟩

end EctoRelay10CH

/-! ## Runs -/

namespace DeviceRuns
open EctoRelay10CH
variable {σ κ W : Type} [ModbusSlave σ] [LawfulModbusSlave σ]
variable {float : String → Except PyException PyFloat} {invoke : Call κ → PyM W Unit}

def timerReg (d : Device σ κ) (c : Fin 10) : ℤ :=
  ((table d.base.slave).cell? .holdingRegisters (0x20 + c)).getD 0

/-- `self.timers`, which only relays have. -/
def timerCopy : Device σ κ → Fin 10 → ℤ
  | .relay10ch d => d.timers
  | _ => fun _ => 0

/-- What an action writes to the timer registers, in order. -/
def timerWrites : Action → List (Fin 10 × ℤ)
  | .setTimer channel initialState t =>
    (channel? channel).toList.map fun c => (c, timerValue initialState t)
  | .masterWrite a ws => requestedTimers a (requestValues ws)
  | _ => []

/-- The relay's timers as cells that a master writes too, kept with a copy. -/
def timerStep : Action → Shadowed (Fin 10) ℤ → Shadowed (Fin 10) ℤ
  | .setTimer channel initialState t, s =>
    match channel? channel with
    | some c => s.store c (timerValue initialState t)
    | none => s
  | .masterWrite a ws, s =>
    s.overwrite (Replay.replay s.master (requestedTimers a (requestValues ws)))
  | _, s => s

theorem relay_timerStep (float : String → Except PyException PyFloat) (invoke : Call κ → PyM W Unit)
    {d : EctoRelay10CH σ κ} {regs : Fin 10 → ℤ} (h : HasTimers d regs) {a : Action}
    (he : Enabled (.relay10ch d : Device σ κ) a) (w : W) :
    ∃ d' w', step float invoke (.relay10ch d, w) a = (.relay10ch d', w') ∧
      HasTimers d' (timerStep a ⟨regs, d.timers⟩).master ∧
      d'.timers = (timerStep a ⟨regs, d.timers⟩).copy := by
  cases a with
  | setSwitchState c state =>
    obtain ⟨h', ht⟩ := h.setSwitchState c state
    exact ⟨_, w, rfl, h', ht⟩
  | setTimer channel initialState t =>
    simp only [timerStep]
    cases hc : channel? channel with
    | none =>
      have hd : (setTimer channel initialState t).after d = d :=
        PyM.after_ok (setTimer_out_of_range hc ..)
      refine ⟨d, w, ?_, h, rfl⟩
      simp only [step, hd]
    | some c =>
      obtain ⟨h', ht⟩ := h.setTimer hc initialState t
      exact ⟨_, w, rfl, h', ht⟩
  | stateChanged newState => exact he.elim
  | poll =>
    obtain ⟨h', ht⟩ := h.sync invoke w
    exact ⟨_, _, EctoCoordinator.after_updateDevice_relay invoke d w, h', ht⟩
  | masterWrite a ws => exact ⟨_, w, rfl, h.masterWrite a (requestValues ws), rfl⟩

theorem master_setTimer_iff (channel : ℤ) (initialState : Bool) (t : ℚ) (s : Shadowed (Fin 10) ℤ) :
    (timerStep (.setTimer channel initialState t) s).master =
        Replay.replay s.master (timerWrites (.setTimer channel initialState t)) ↔
      ∀ c ∈ channel? channel, ∀ i, i ≠ c → s.copy i = s.master i := by
  simp only [timerStep, timerWrites]
  cases channel? channel with
  | none => simp
  | some c => simpa using Shadowed.master_store_iff c (timerValue initialState t) s

/-- A `set_timer` on a channel comes when the copies of the nine other timers are fresh. -/
def CopiesFresh (p : Device σ κ × W) : Action → Prop
  | .setTimer channel _ _ =>
    ∀ c ∈ channel? channel, ∀ i, i ≠ c → timerCopy p.1 i = timerReg p.1 i
  | _ => True

instance decidableCopiesFresh (p : Device σ κ × W) : ∀ a, Decidable (CopiesFresh p a)
  | .setTimer _ _ _ => inferInstanceAs (Decidable (∀ c ∈ _, _))
  | .setSwitchState _ _ => isTrue trivial
  | .stateChanged _ => isTrue trivial
  | .poll => isTrue trivial
  | .masterWrite _ _ => isTrue trivial

def HasTimers (p : Device σ κ × W) : Prop :=
  ∃ d regs, p.1 = .relay10ch d ∧ d.HasTimers regs

theorem timerReg_of_hasTimers {d : EctoRelay10CH σ κ} {regs : Fin 10 → ℤ} (h : d.HasTimers regs) :
    timerReg (.relay10ch d) = regs := funext h.cell

theorem hasTimers_preserves :
    (machine float invoke).Preserves (HasTimers (κ := κ) (W := W) (σ := σ)) := by
  rintro ⟨_, w⟩ a ⟨d, regs, rfl, h⟩ he
  obtain ⟨d', w', hs, h', _⟩ := relay_timerStep float invoke h he w
  exact ⟨d', _, congrArg Prod.fst hs, h'⟩

theorem timerReg_step_iff {p : Device σ κ × W} (h : HasTimers p) {a : Action}
    (he : (machine float invoke).Enabled p a) :
    timerReg ((machine float invoke).step p a).1 = Replay.replay (timerReg p.1) (timerWrites a) ↔
      CopiesFresh p a := by
  obtain ⟨_, w⟩ := p
  obtain ⟨d, regs, rfl, h⟩ := h
  obtain ⟨d', w', hs, h', _⟩ := relay_timerStep float invoke h he w
  have hs' : (machine float invoke).step (.relay10ch d, w) a = (.relay10ch d', w') := hs
  rw [hs', timerReg_of_hasTimers h', timerReg_of_hasTimers h]
  cases a with
  | setTimer channel initialState t =>
    rw [master_setTimer_iff, CopiesFresh, timerReg_of_hasTimers h]
    rfl
  | setSwitchState c state => exact iff_of_true rfl trivial
  | stateChanged newState => exact iff_of_true rfl trivial
  | poll => exact iff_of_true rfl trivial
  | masterWrite a ws => exact iff_of_true rfl trivial

/-- Every timer register holds what the relay or the master wrote to it last, throughout a run,
exactly if no `set_timer` of the run meets a stale copy of another timer. -/
theorem timers_last_writer_iff {addr : ℕ} {slave : σ} (hs : table slave = Table.empty)
    {d : EctoRelay10CH σ κ} (hd : EctoRelay10CH.init addr slave = .ok d) {w : W} {as : List Action}
    (h : (machine float invoke).IsRun (.relay10ch d, w) as) :
    ((∀ bs, bs <+: as → ∀ c, timerReg ((machine float invoke).run (.relay10ch d, w) bs).1 c =
        Replay.last (fun _ => 0) (bs.flatMap timerWrites) c) ↔
      (machine float invoke).EveryStep CopiesFresh (.relay10ch d, w) as) ∧
    ∀ (p : Device σ κ × W) channel initialState t, channel? channel = none →
      (machine float invoke).step p (.setTimer channel initialState t) = p := by
  obtain ⟨ht, _⟩ := hasTimers_init hs hd
  have hzero : timerReg (.relay10ch d) = fun _ => 0 := timerReg_of_hasTimers ht
  have hI : HasTimers ((.relay10ch d, w) : Device σ κ × W) := ⟨d, _, rfl, ht⟩
  constructor
  · have hsteps := hasTimers_preserves.everyStep_congr (fun _ _ hp he => timerReg_step_iff hp he)
      hI h
    rw [← hsteps, ← Replay.everyPrefix_replay_iff (fun p : Device σ κ × W => timerReg p.1), hzero]
    simp only [Replay.replay_eq_last, funext_iff]
  · -- only a relay has timers, and it checks the channel first
    rintro ⟨p, w⟩ channel initialState t hc
    cases p with
    | relay10ch d =>
      have hset : (setTimer channel initialState t).after d = d :=
        PyM.after_ok (setTimer_out_of_range hc ..)
      simp only [machine, step, hset]
    | binarySensor10ch d => rfl
    | temperatureSensor d => rfl

def relayStart : Device RegTable Empty × Unit := (.relay10ch (EctoRelay10CH.onTable Empty 3), ())

def noFloat (_ : String) : Except PyException PyFloat := .error .valueError

theorem setTimer_loses_masterWrite :
    let M := machine noFloat fun _ : Call Empty => (pure () : PyM Unit Unit)
    let writeThenSet : List Action := [.masterWrite 0x25 [10], .setTimer 0 true 5]
    M.IsRun relayStart writeThenSet ∧ timerReg (M.run relayStart writeThenSet).1 5 = 0 ∧
      Replay.last (fun _ => 0) (writeThenSet.flatMap timerWrites) 5 = 10 := by
  refine ⟨⟨trivial, trivial, trivial⟩, ?_, ?_⟩ <;> decide +kernel

theorem setTimer_keeps_other_timers :
    let M := machine noFloat fun _ : Call Empty => (pure () : PyM Unit Unit)
    let setAndWrite : List Action :=
      [.setTimer 2 true 30, .masterWrite 0x22 [7], .poll, .setTimer 2 false 5, .setTimer 10 true 1]
    ∀ bs, bs <+: setAndWrite → ∀ c, timerReg (M.run relayStart bs).1 c =
      Replay.last (fun _ => 0) (bs.flatMap timerWrites) c := by
  intro M setAndWrite
  have hrun : M.IsRun relayStart setAndWrite :=
    ⟨trivial, trivial, trivial, trivial, trivial, trivial⟩
  have hfresh : M.EveryStep CopiesFresh relayStart setAndWrite := by decide +kernel
  have hinit : EctoRelay10CH.init 3 Table.empty = .ok (EctoRelay10CH.onTable Empty 3) :=
    EctoRelay10CH.init_onTable 3
  exact (timers_last_writer_iff rfl hinit hrun).1.2 hfresh

/-! ## The delay of one timer -/

/-- What `set_timer` is to leave: all timers as they were, or the delay asked for in the copy and
in the register. -/
def TimerEncoded (p q : Device σ κ × W) (c : Fin 10) (initialState : Bool) (t : ℚ) : Prop :=
  (timerCopy q.1 = timerCopy p.1 ∧ timerReg q.1 = timerReg p.1) ∨
    (Encodes (timerCopy q.1 c) initialState t ∧ Encodes (timerReg q.1 c) initialState t)

theorem setTimer_stores (float : String → Except PyException PyFloat) (invoke : Call κ → PyM W Unit)
    {p : Device σ κ × W} (h : HasTimers p) (c : Fin 10) (initialState : Bool) (t : ℚ) :
    let q := (machine float invoke).step p (.setTimer c initialState t)
    timerCopy q.1 = Function.update (timerCopy p.1) c (timerValue initialState t) ∧
      timerReg q.1 = Function.update (timerCopy p.1) c (timerValue initialState t) := by
  obtain ⟨_, w⟩ := p
  obtain ⟨d, regs, rfl, h⟩ := h
  obtain ⟨h', ht⟩ := h.setTimer (channel?_fin c) initialState t
  exact ⟨ht, timerReg_of_hasTimers h'⟩

/-- Whatever came before it, `set_timer` encodes the delay exactly if the delay fits. -/
theorem timer_encoded_iff {addr : ℕ} {slave : σ} (hs : table slave = Table.empty)
    {d : EctoRelay10CH σ κ} (hd : EctoRelay10CH.init addr slave = .ok d) (w : W) (c : Fin 10)
    (initialState : Bool) (t : ℚ) :
    (∀ as, (machine float invoke).IsRun (.relay10ch d, w) as →
      let p := (machine float invoke).run (.relay10ch d, w) as
      TimerEncoded p ((machine float invoke).step p (.setTimer c initialState t))
        c initialState t) ↔
      DelayFits t := by
  have hI : HasTimers ((.relay10ch d, w) : Device σ κ × W) := ⟨d, _, rfl, (hasTimers_init hs hd).1⟩
  constructor
  · intro h
    -- a timer of the other initial state, so that the call does change the word
    have hrun : (machine float invoke).IsRun (.relay10ch d, w) [.setTimer c (!initialState) 0] :=
      ⟨trivial, trivial⟩
    have hp := hasTimers_preserves.run hI hrun
    have hold := congrFun (setTimer_stores float invoke hI c (!initialState) 0).1 c
    have hnew := congrFun (setTimer_stores float invoke hp c initialState t).1 c
    rw [Function.update_self] at hold hnew
    rcases h _ hrun with ⟨hsame, _⟩ | ⟨henc, _⟩
    · have hword := congrFun hsame c
      rw [hnew] at hword
      exact absurd (hword.trans hold) (timerValue_ne initialState t 0)
    · rw [hnew] at henc
      exact (encodes_timerValue_iff initialState t).1 henc
  · intro ht as hrun
    have hp := hasTimers_preserves.run hI hrun
    obtain ⟨hcopy, hreg⟩ := setTimer_stores float invoke hp c initialState t
    have henc : Encodes (timerValue initialState t) initialState t :=
      (encodes_timerValue_iff initialState t).2 ht
    refine Or.inr ⟨?_, ?_⟩
    · rw [hcopy, Function.update_self]
      exact henc
    · rw [hreg, Function.update_self]
      exact henc

theorem long_delay_is_lost :
    ¬ TimerEncoded relayStart
      ((machine noFloat fun _ : Call Empty => (pure () : PyM Unit Unit)).step relayStart
        (.setTimer 0 true 16384)) 0 true 16384 := by
  rintro (⟨hcopy, _⟩ | ⟨henc, _⟩)
  · have hword := congrFun hcopy 0
    revert hword
    decide +kernel
  · have hfits : DelayFits 16384 := (encodes_timerValue_iff true 16384).1 henc
    norm_num [DelayFits] at hfits

theorem half_minute_is_encoded :
    TimerEncoded relayStart
      ((machine noFloat fun _ : Call Empty => (pure () : PyM Unit Unit)).step relayStart
        (.setTimer 9 false 30)) 9 false 30 := by
  have hinit : EctoRelay10CH.init 3 Table.empty = .ok (EctoRelay10CH.onTable Empty 3) :=
    EctoRelay10CH.init_onTable 3
  have hfits : DelayFits 30 := Or.inl (by norm_num)
  exact (timer_encoded_iff rfl hinit () 9 false 30).2 hfits [] trivial

end DeviceRuns
end Ecto
