import EctoModbus.Entity.BinarySensorSystem

/-! When the contact sensor's register shows its entities, and when a restart restores both. What
stands in the way is always channels 8 and 9, which are stored in the places of 0 and 1 and have
no bit of their own. -/

namespace Ecto
open Python Transition BlockTable

namespace BinarySensorSystem
open EctoCH10BinarySensor SwitchBank
variable {σ η : Type} [ModbusSlave σ] [LawfulModbusSlave σ]
variable {s : State σ η} {switch : Fin 8 → Bool} {on : Fin 10 → Bool}

/-! ## Places and bits -/

/-- The channel whose place and bit a command on `c` writes. -/
def home (c : Fin 10) : Fin 10 := ⟨c.val % 8, by omega⟩

theorem home_of_lt {c : Fin 10} (h : c.val < 8) : home c = c := Fin.ext (Nat.mod_eq_of_lt h)

theorem home_lt (c : Fin 10) : (home c).val < 8 := Nat.mod_lt _ (by decide)

theorem slot_eq_iff (c e : Fin 10) : slot c = slot e ↔ home c = home e := by
  decide +revert

def shownBit (switch : Fin 8 → Bool) (c : Fin 10) : Bool := c.val < 8 && switch (slot c)

theorem shownBit_of_lt {c : Fin 10} (h : c.val < 8) : shownBit switch c = switch (slot c) := by
  simp only [shownBit, h, decide_true, Bool.true_and]

theorem shownBit_of_ge {c : Fin 10} (h : ¬ c.val < 8) : shownBit switch c = false := by
  simp only [shownBit, h, decide_false, Bool.false_and]

theorem wired_toInt (switch : Fin 8 → Bool) (c : Fin 10) :
    wired (Bool.toInt ∘ switch) c = (shownBit switch c).toInt := by
  induction c using EctoRelay10CH.channel_cases with
  | hm i =>
    have hlt : (EctoRelay10CH.msbChannel i).val < 8 := i.isLt
    rw [wired_msb, shownBit_of_lt hlt, slot_msbChannel]
    rfl
  | hl i =>
    have hge : ¬ (EctoRelay10CH.lsbChannel i).val < 8 := by
      simp [EctoRelay10CH.lsbChannel]
    rw [wired_lsb, shownBit_of_ge hge]
    rfl

theorem Tracks.decode_word (h : Tracks s switch on) (c : Fin 10) :
    decode s.1.word c = (shownBit switch c).toInt := by
  rw [h.device.word_eq, decode_stored h.device.bits, wired_toInt]

theorem Tracks.isOn_eq (h : Tracks s switch on) (e : Fin 10) : (s.2.entities e).isOn = on e :=
  h.shown e

def ShowsAll (s : State σ η) : Prop := ∀ c, decode s.1.word c = (s.2.entities c).isOn.toInt

theorem Tracks.showsAll_iff (h : Tracks s switch on) :
    ShowsAll s ↔ ∀ c, shownBit switch c = on c := by
  apply forall_congr'
  intro c
  rw [h.decode_word, h.isOn_eq, toInt_inj]

variable [HomeAssistant η]

/-! ## The register of a running sensor -/

instance (s : State σ η) : Decidable (ShowsAll s) := inferInstanceAs (Decidable (∀ _, _))

/-- The register shows the entities, and a command has left the bits of other channels alone. -/
def Independent (s : State σ η) (a : Action) : Prop :=
  ShowsAll ((machine σ η).step s a) ∧ ∀ x ∈ a.command, ∀ c, c ≠ x.1 →
    decode ((machine σ η).step s a).1.word c = decode s.1.word c

instance (s : State σ η) (a : Action) : Decidable (Independent s a) :=
  inferInstanceAs (Decidable (_ ∧ ∀ x ∈ a.command, _))

/-- A command on channels 0-7, or a turn_off of channel 8 or 9 while the channel it shares its
place with is off. -/
def OwnPlace (s : State σ η) (a : Action) : Prop :=
  ∀ x ∈ a.command, x.1.val < 8 ∨ x.2 = false ∧ (s.2.entities (home x.1)).isOn = false

instance (s : State σ η) (a : Action) : Decidable (OwnPlace s a) :=
  inferInstanceAs (Decidable (∀ x ∈ a.command, _))

theorem shownBit_command_iff (h : ∀ c, shownBit switch c = on c) (e : Fin 10) (b : Bool) :
    (∀ c, shownBit (Function.update switch (slot e) b) c = Function.update on e b c) ↔
      e.val < 8 ∨ b = false ∧ on (home e) = false := by
  -- the bit of a channel below 8, once the place of `e` has been written
  have hnew : ∀ c : Fin 10, c.val < 8 → shownBit (Function.update switch (slot e) b) c =
      if c = home e then b else on c := by
    intro c hc
    rw [shownBit_of_lt hc, Function.update_apply, ← h c, shownBit_of_lt hc]
    simp only [slot_eq_iff, home_of_lt hc]
  by_cases he : e.val < 8
  · simp only [he, true_or, iff_true]
    intro c
    by_cases hc : c.val < 8
    · rw [hnew c hc, home_of_lt he, Function.update_apply]
    · have hce : c ≠ e := by
        rintro rfl
        exact hc he
      rw [shownBit_of_ge hc, Function.update_of_ne hce, ← h c, shownBit_of_ge hc]
  · simp only [he, false_or]
    have hhe : home e ≠ e := by
      intro hhe
      rw [← hhe] at he
      exact he (home_lt e)
    constructor
    · intro hall
      -- channel `e` has no bit, and its home shows what `e` was told
      have hb : false = b := by
        have hse := hall e
        rwa [shownBit_of_ge he, Function.update_self] at hse
      have hhome : b = on (home e) := by
        have hse := hall (home e)
        rwa [hnew _ (home_lt e), if_pos rfl, Function.update_of_ne hhe] at hse
      exact ⟨hb.symm, by rw [← hhome, ← hb]⟩
    · rintro ⟨rfl, hoff⟩ c
      by_cases hc : c.val < 8
      · have hce : c ≠ e := by
          rintro rfl
          exact he hc
        rw [hnew c hc, Function.update_of_ne hce]
        split_ifs with hch
        · rw [hch, hoff]
        · rfl
      · rw [shownBit_of_ge hc, Function.update_apply]
        split_ifs with hce
        · rfl
        · rw [← h c, shownBit_of_ge hc]

def Inv (s : State σ η) : Prop := ∃ switch on, Tracks s switch on

theorem inv_step : (machine σ η).Preserves Inv := by
  rintro s a ⟨switch, on, h⟩ _
  exact ⟨_, _, step_tracks h a⟩

theorem independent_iff_showsAll (h : Inv s) (hs : ShowsAll s) (a : Action) :
    Independent s a ↔ ShowsAll ((machine σ η).step s a) := by
  refine ⟨fun hi => hi.1, fun hs' => ⟨hs', fun x hx c hc => ?_⟩⟩
  obtain ⟨switch, on, h⟩ := h
  have h' := step_tracks h a
  rw [Option.mem_def.1 hx] at h'
  have hon : Replay.replay on [x] c = on c := Function.update_of_ne hc ..
  rw [hs' c, hs c, h'.isOn_eq, h.isOn_eq]
  exact congrArg Bool.toInt hon

theorem independent_iff_ownPlace (h : Inv s) (hs : ShowsAll s) (a : Action) :
    Independent s a ↔ OwnPlace s a := by
  rw [independent_iff_showsAll h hs]
  obtain ⟨switch, on, h⟩ := h
  have h' := step_tracks h a
  have hon := h.showsAll_iff.1 hs
  rw [h'.showsAll_iff, OwnPlace]
  cases hc : a.command with
  | none => simpa [hc] using hon
  | some x =>
    obtain ⟨e, b⟩ := x
    rw [hc] at h'
    simpa [h.isOn_eq] using shownBit_command_iff hon e b

/-- From all-off on, the register shows the entities and commands are independent throughout a
run exactly if each command has a place of its own. -/
theorem independent_run_iff (hs : (machine σ η).Init s) {as : List Action}
    (h : (machine σ η).IsRun s as) :
    (machine σ η).EveryStep Independent s as ↔ (machine σ η).EveryStep OwnPlace s as := by
  have ht : Tracks s (fun _ => false) fun _ => false := tracks_init hs
  have hi : Inv s := ⟨_, _, ht⟩
  have hoff : ShowsAll s := by
    rw [ht.showsAll_iff]
    intro c
    simp [shownBit]
  exact inv_step.everyStep_congr_of_good (fun _ a hi hg _ => independent_iff_ownPlace hi hg a)
    (fun _ _ _ _ _ hp => hp.1) hi hoff h

theorem turnOn_8_shows_0 :
    (machine RegTable StateLog).IsRun start (addAll ++ [.turnOn 8]) ∧
      ((machine RegTable StateLog).run start (addAll ++ [.turnOn 8])).1.word = 0x0100 ∧
      ¬ (machine RegTable StateLog).EveryStep Independent start (addAll ++ [.turnOn 8]) := by
  refine ⟨?_, ?_, ?_⟩ <;> decide +kernel

theorem turnOff_8_is_independent :
    (machine RegTable StateLog).EveryStep Independent start
      (addAll ++ [.turnOn 1, .turnOff 8, .turnOn 7, .turnOff 1, .turnOff 9]) := by
  have hr : (machine RegTable StateLog).IsRun start
      (addAll ++ [.turnOn 1, .turnOff 8, .turnOn 7, .turnOff 1, .turnOff 9]) := by decide +kernel
  exact (independent_run_iff init_start hr).2 (by decide +kernel)

/-! ## Restart -/

theorem slot_surjective (k : Fin 8) : ∃ c, slot c = k := by
  decide +revert

theorem command_restore (e : Fin 10) (b : Bool) :
    (Action.addEntity e (some (some (stateText b)))).command = some (e, b) := by
  cases b <;> simp [Action.command, stateText, STATE_ON, STATE_UNAVAILABLE]

theorem commands_restore (saved : Fin 10 → Bool) (order : List (Fin 10)) :
    commands (restore saved order) = Replay.snapshot saved order := by
  induction order with
  | nil => rfl
  | cons e order ih =>
    show commands (Action.addEntity e _ :: restore saved order) = _
    rw [commands_cons, command_restore, ih]
    rfl

theorem init_slots (f : Fin 8 → Bool) (g : Fin 8 → Bool) :
    ∀ k, (∀ c, slot c ≠ k) → f k = g k := by
  intro k hk
  obtain ⟨c, hc⟩ := slot_surjective k
  exact absurd hc (hk c)

theorem last_eq_place_iff (ws : List (Fin 10 × Bool)) :
    (∀ c, Replay.replay (fun _ => false) ws c =
        Replay.replay (fun _ => false) (Replay.through slot ws) (slot c)) ↔
      Replay.last (fun _ => false) ws 8 = Replay.last (fun _ => false) ws 0 ∧
        Replay.last (fun _ => false) ws 9 = Replay.last (fun _ => false) ws 1 := by
  rw [← Replay.replay_eq_last]
  constructor
  · intro h
    have h80 : slot 8 = slot 0 := by decide
    have h91 : slot 9 = slot 1 := by decide
    refine ⟨?_, ?_⟩
    · rw [h 8, h 0, h80]
    · rw [h 9, h 1, h91]
  · rintro ⟨h8, h9⟩ c
    have hhome : ∀ e, Replay.replay (fun _ => false) ws e =
        Replay.replay (fun _ => false) ws (home e) := by
      intro e
      by_cases he : e.val < 8
      · rw [home_of_lt he]
      · have h89 : e = 8 ∨ e = 9 := by omega
        rcases h89 with rfl | rfl
        · exact h8
        · exact h9
    -- the place of `c` holds the last state of some channel with the same home
    obtain ⟨j, hj, hv⟩ := Replay.exists_replay_through slot (fun _ => false) ws c
    rw [hv, hhome c, hhome j, (slot_eq_iff j c).1 hj]

def states (s : State σ η) : Fin 10 → Bool := fun e => (s.2.entities e).isOn

/-- Whatever the order in which its entities are added, the new sensor comes back with the register
and the states of the old one. -/
def Restores (new old : State σ η) : Prop :=
  ∀ order : List (Fin 10), order.Nodup → (∀ e, e ∈ order) →
    ((machine σ η).run new (restore (states old) order)).1.word = old.1.word ∧
      states ((machine σ η).run new (restore (states old) order)) = states old

theorem states_restored {s₁ : State σ η} (h₁ : Init s₁) (saved : Fin 10 → Bool)
    {order : List (Fin 10)} (hm : ∀ e, e ∈ order) :
    states ((machine σ η).run s₁ (restore saved order)) = saved := by
  have hnew := run_tracks (tracks_init h₁) (restore saved order)
  rw [commands_restore] at hnew
  funext e
  unfold states
  rw [hnew.isOn_eq]
  refine Replay.replay_of_forall _ ⟨(e, saved e), List.mem_map_of_mem (hm e), rfl⟩ ?_
  rintro w hw rfl
  obtain ⟨i, _, rfl⟩ := List.mem_map.1 hw
  rfl

/-- A restart is harmless exactly if channels 8 and 9 were last commanded like 0 and 1. -/
theorem restores_iff {s₀ s₁ : State σ η} (h₀ : (machine σ η).Init s₀) (h₁ : (machine σ η).Init s₁)
    (as : List Action) :
    Restores s₁ ((machine σ η).run s₀ as) ↔
      Replay.last (fun _ => false) (commands as) 8 = Replay.last (fun _ => false) (commands as) 0 ∧
        Replay.last (fun _ => false) (commands as) 9 =
          Replay.last (fun _ => false) (commands as) 1 := by
  have hold := run_tracks (tracks_init h₀) as
  have hsaved : states ((machine σ η).run s₀ as) = Replay.replay (fun _ => false) (commands as) :=
    funext hold.isOn_eq
  rw [← last_eq_place_iff, ← hsaved, ← Replay.replay_snapshot_iff slot (fun _ => false) _
    (states ((machine σ η).run s₀ as)) (init_slots _ _)]
  apply forall₃_congr
  intro order hn hm
  have hnew := run_tracks (tracks_init h₁) (restore (states ((machine σ η).run s₀ as)) order)
  rw [commands_restore] at hnew
  rw [hnew.device.word_eq, hold.device.word_eq]
  constructor
  · rintro ⟨hword, -⟩
    -- the word determines the list of the eight places
    have hlist := stored_inj hnew.device.bits hold.device.bits hword
    funext k
    exact toInt_inj.1 (congrFun hlist k)
  · intro hlist
    rw [hlist]
    exact ⟨rfl, states_restored h₁ _ hm⟩

theorem restart_loses_channel_0 :
    (machine RegTable StateLog).IsRun start (addAll ++ [.turnOn 0]) ∧
      ¬ Restores start ((machine RegTable StateLog).run start (addAll ++ [.turnOn 0])) := by
  refine ⟨by decide +kernel, fun h => ?_⟩
  -- added in order, channel 8 writes its "off" after channel 0 has come back on
  have hword := (h (List.finRange 10) (List.nodup_finRange 10) List.mem_finRange).1
  revert hword
  decide +kernel

theorem restart_keeps_channels_0_3_8 :
    Restores start ((machine RegTable StateLog).run start
      (addAll ++ [.turnOn 8, .turnOn 3, .turnOn 0])) :=
  (restores_iff init_start init_start _).2 (by decide +kernel)

end BinarySensorSystem
end Ecto
