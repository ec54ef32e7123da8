import EctoModbus.Entity.BinarySensorSystemDefs

/-! Runs of the contact sensor with its entities. Ten channels are stored in eight places: what
the register shows is what the commands leave when those of channels 8 and 9 are replayed on the
places of channels 0 and 1. -/

namespace Ecto
open Python Transition BlockTable

namespace BinarySensorSystem
open EctoCH10BinarySensor SwitchBank
variable {σ η : Type} [ModbusSlave σ]

/-! ## Adding an entity -/

/-- The sensor takes no callbacks, and its state persists. -/
theorem asyncInternalAddedToHass_eq (e : Fin 10) (lastState : Option (Option String)) :
    (asyncInternalAddedToHass e lastState : PyM (State σ η) Unit) =
      (PyM.second (modify (setEntity e fun self => { self with ownHass := self.hass })) >>= fun _ =>
        get >>= fun s => restoreState e (s.2.entities e).channel lastState) := rfl

theorem after_addEntity (e : Fin 10) (lastState : Option (Option String)) (s : State σ η) :
    (addEntity e lastState).after s = (restoreState e (s.2.entities e).channel lastState).after
      (s.1, s.2.setEntity e fun self => { self with hass := true, ownHass := true }) := by
  have hbank : (s.2.setEntity e fun self => { self with hass := true }).setEntity e
      (fun self => { self with ownHass := self.hass }) =
      s.2.setEntity e fun self => { self with hass := true, ownHass := true } := by
    simp only [setEntity, Function.update_self, Function.update_idem]
  unfold addEntity
  rw [asyncInternalAddedToHass_eq, PyM.after_bind_ok (PyM.second_ok (PyM.modify_run _ s.2)),
    PyM.after_bind_ok (PyM.second_ok (PyM.modify_run _ _)), PyM.after_get_bind,
    hbank, setEntity_self]

theorem restoreState_idle {lastState : Option (Option String)} {e : Fin 10}
    (h : (Action.addEntity e lastState).command = none) (channel : ℤ) :
    (restoreState e channel lastState : PyM (State σ η) Unit) = syncFromDevice e := by
  rcases lastState with _ | _ | state
  · rfl
  · rfl
  · have hs : state = STATE_UNAVAILABLE := by
      by_contra hs
      simp [Action.command, hs] at h
    simp only [restoreState, hs, ne_eq, not_true_eq_false, if_false]

theorem after_restoreState {lastState : Option (Option String)} {e : Fin 10} {b : Bool}
    (hc : (Action.addEntity e lastState).command = some (e, b)) {channel : ℤ}
    {d d' : EctoCH10BinarySensor σ} {bank : SwitchBank η}
    (hd : setSwitchState channel b.toInt d = .ok () d') :
    (restoreState e channel lastState).after (d, bank) =
      (d', bank.setEntity e fun self => { self with state := b }) := by
  rcases lastState with _ | _ | state
  · cases hc
  · cases hc
  · simp only [Action.command] at hc
    split_ifs at hc with hs
    obtain rfl : decide (state = STATE_ON) = b := by simpa using hc
    by_cases hon : state = STATE_ON
    · simp only [hon, decide_true] at hd ⊢
      exact PyM.after_first_modify _ hd
    · simp only [restoreState, hs, hon, ne_eq, not_false_eq_true, if_true, if_false,
        decide_false] at hd ⊢
      exact PyM.after_first_modify _ hd

/-! ## Steps -/

variable [LawfulModbusSlave σ]

/-- The list of the device is `switch`, and the entities show `on`. -/
structure Tracks (s : State σ η) (switch : Fin 8 → Bool) (on : Fin 10 → Bool) : Prop where
  device : Holds s.1 (Bool.toInt ∘ switch)
  channel : ∀ e, (s.2.entities e).channel = e
  shown : ∀ e, (s.2.entities e).state = on e

variable {s : State σ η} {switch : Fin 8 → Bool} {on : Fin 10 → Bool}

theorem tracks_init (h : Init s) : Tracks s (fun _ => false) fun _ => false := by
  obtain ⟨addr, slave, hs, hd⟩ := h.sensor
  obtain ⟨hass, hb⟩ := h.bank
  refine ⟨holds_of_init hs hd, ?_, ?_⟩ <;> rw [hb] <;> exact fun _ => rfl

theorem Tracks.command (h : Tracks s switch on) {e : Fin 10} {b : Bool}
    {d' : EctoCH10BinarySensor σ} {bank' : SwitchBank η} {f : EctoChannelSwitch → EctoChannelSwitch}
    (hd : Holds d' (Function.update (Bool.toInt ∘ switch) (slot e) b.toInt))
    (hc : ∀ self, (f self).channel = self.channel) (hs : ∀ self, (f self).state = b)
    (he : bank'.entities = (s.2.setEntity e f).entities) :
    Tracks (d', bank') (Function.update switch (slot e) b) (Function.update on e b) := by
  refine ⟨?_, fun i => ?_, fun i => ?_⟩
  · rwa [Function.comp_update]
  · rw [he, setEntity_attr EctoChannelSwitch.channel hc]
    exact h.channel i
  · rw [he]
    by_cases hi : i = e
    · subst hi
      rw [setEntity_self, hs, Function.update_self]
    · rw [setEntity_of_ne hi, Function.update_of_ne hi]
      exact h.shown i

theorem step_addEntity_idle (h : Tracks s switch on) {e : Fin 10}
    {lastState : Option (Option String)} (hc : (Action.addEntity e lastState).command = none) :
    Tracks ((addEntity e lastState).after s) switch on := by
  -- the sensor has no `get_channel_state` to offer a state either
  have hs : (syncFromDevice e : PyM (State σ η) Unit) = get >>= fun _ => pure () := rfl
  rw [after_addEntity, restoreState_idle hc, hs, PyM.after_get_bind, PyM.after_pure]
  let f (self : EctoChannelSwitch) := { self with hass := true, ownHass := true }
  have hchan : ∀ self, (f self).channel = self.channel := fun _ => rfl
  have hstate : ∀ self, (f self).state = self.state := fun _ => rfl
  refine ⟨h.device, fun i => ?_, fun i => ?_⟩
  · have hi := setEntity_attr EctoChannelSwitch.channel hchan e i s.2
    rw [← h.channel i, ← hi]
  · have hi := setEntity_attr EctoChannelSwitch.state hstate e i s.2
    rw [← h.shown i, ← hi]

theorem step_addEntity_restored (h : Tracks s switch on) {e : Fin 10}
    {lastState : Option (Option String)} {b : Bool}
    (hc : (Action.addEntity e lastState).command = some (e, b)) :
    Tracks ((addEntity e lastState).after s) (Function.update switch (slot e) b)
      (Function.update on e b) := by
  let bank := s.2.setEntity e fun self => { self with hass := true, ownHass := true }
  obtain ⟨d', hok, hm⟩ := setSwitchState_holds h.device e (toInt_bit b)
  have hr : (restoreState e (e : ℤ) lastState).after (s.1, bank) =
      (d', bank.setEntity e fun self => { self with state := b }) :=
    after_restoreState hc hok
  rw [after_addEntity, h.channel e, hr]
  refine h.command (f := fun self => { self with hass := true, ownHass := true, state := b }) hm
    (fun _ => rfl) (fun _ => rfl) ?_
  simp only [bank, setEntity, Function.update_self, Function.update_idem]

variable [HomeAssistant η]

theorem step_updateState (h : Tracks s switch on) (e : Fin 10) (b : Bool) :
    Tracks ((updateState e b).after s) (Function.update switch (slot e) b)
      (Function.update on e b) := by
  obtain ⟨d', hok, hm⟩ := setSwitchState_holds h.device e (toInt_bit b)
  rw [← h.channel e] at hok
  obtain ⟨hd, he⟩ := after_updateState s.1 s.2 hok
  have ht := h.command hm (f := fun self => { self with state := b }) (fun _ => rfl)
    (fun _ => rfl) he
  rwa [← hd] at ht

theorem Action.command_addEntity {lastState : Option (Option String)} {e e' : Fin 10} {b : Bool}
    (h : (Action.addEntity e lastState).command = some (e', b)) : e' = e := by
  rcases lastState with _ | _ | state
  · cases h
  · cases h
  · simp only [Action.command] at h
    split_ifs at h
    simp only [Option.some.injEq, Prod.mk.injEq] at h
    exact h.1.symm

theorem step_tracks (h : Tracks s switch on) (a : Action) :
    Tracks ((machine σ η).step s a)
      (Replay.replay switch (Replay.through slot a.command.toList))
      (Replay.replay on a.command.toList) := by
  cases a with
  | addEntity e lastState =>
    cases hc : (Action.addEntity e lastState).command with
    | none => exact step_addEntity_idle h hc
    | some p =>
      obtain ⟨e', b⟩ := p
      obtain rfl := Action.command_addEntity hc
      exact step_addEntity_restored h hc
  | turnOn e => exact step_updateState h e true
  | turnOff e => exact step_updateState h e false

theorem commands_cons (a : Action) (as : List Action) :
    commands (a :: as) = a.command.toList ++ commands as := by
  unfold commands
  rw [List.filterMap_cons]
  cases a.command <;> rfl

/-- A run replays its commands on the entities, and on the places they share. -/
theorem run_tracks (h : Tracks s switch on) (as : List Action) :
    Tracks ((machine σ η).run s as)
      (Replay.replay switch (Replay.through slot (commands as)))
      (Replay.replay on (commands as)) := by
  induction as generalizing s switch on with
  | nil => exact h
  | cons a as ih =>
    have hr := ih (step_tracks h a)
    rwa [← Replay.replay_append, ← Replay.replay_append, ← Replay.through_append, ← commands_cons]
      at hr

end BinarySensorSystem
end Ecto
