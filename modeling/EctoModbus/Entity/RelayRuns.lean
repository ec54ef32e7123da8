import EctoModbus.Entity.RelaySystem

/-! Runs of the relay with its entities. A command writes back the cached channels, so it is sure
to reach its own bit and to spare the others only as far as the last poll has seen the register.
The entities always show the cached channels, and a poll brings these up to date. -/

namespace Ecto
open Python Transition BlockTable Shadow

namespace RelaySystem
open EctoRelay10CH SwitchBank
variable {σ η : Type} [ModbusSlave σ] [LawfulModbusSlave σ]
variable {s : State σ η} {a : Action}

theorem Effect.of_command {x y : Shadowed (Fin 10) ℤ} (h : Effect x y a) {c : Fin 10} {b : ℤ}
    (hc : a.command = some (c, b)) : y = x.command c b := by
  cases a with
  | addEntity e lastState => exact h c b hc
  | turnOn e => exact h c b hc
  | turnOff e => exact h c b hc
  | masterWrite w => cases hc
  | registerWrite w => cases hc
  | poll => cases hc

/-- The entity of an added channel shows the cached state. -/
theorem shown_of_added (h : Inv s) {c : Fin 10} (ha : (s.2.entities c).hass = true) :
    (s.2.entities c).isOn = true ↔ s.1.channels c = 1 := by
  obtain ⟨v, added, h⟩ := h
  have hadded : added c = true := by
    rw [← (h.agree c).hass]
    exact ha
  have hstate := (h.agree c).shown hadded
  rw [EctoChannelSwitch.isOn, hstate, h.models.channels]
  rcases (h.agree c).bit with hb | hb <;> simp [hb, truthy]

/-- Register, cache and entity of channel `c` are all in state `b`. -/
structure Settled (c : Fin 10) (b : ℤ) (s : State σ η) : Prop where
  register : decode s.1.word c = b
  cached : s.1.channels c = b
  added : (s.2.entities c).hass = true
  shown : (s.2.entities c).isOn = true ↔ b = 1

theorem Settled.of_holds (h : Inv s) {c : Fin 10} {b : ℤ}
    (hs : Shadowed.Holds c b (shadow s)) (ha : (s.2.entities c).hass = true) : Settled c b s := by
  have hcopy : s.1.channels c = b := hs.2
  have hshown := shown_of_added h ha
  rw [hcopy] at hshown
  exact ⟨hs.1, hcopy, ha, hshown⟩

variable [HomeAssistant η]

theorem shadow_step_command (h : Inv s) {c : Fin 10} {b : ℤ} (hc : a.command = some (c, b)) :
    shadow ((machine σ η).step s a) = (shadow s).command c b :=
  (effect_step h a).of_command hc

/-! ## The other channels -/

/-- A command leaves the register bits of the nine other channels as they were. -/
def KeepsOthers (s : State σ η) (a : Action) : Prop :=
  ∀ x ∈ a.command, ∀ i, i ≠ x.1 →
    decode ((machine σ η).step s a).1.word i = decode s.1.word i

/-- A command repeats what is cached, or the cache is fresh for the nine other channels. -/
def OthersFresh (s : State σ η) (a : Action) : Prop :=
  ∀ x ∈ a.command, x.2 = s.1.channels x.1 ∨ ∀ i, i ≠ x.1 → s.1.channels i = decode s.1.word i

instance (s : State σ η) (a : Action) : Decidable (KeepsOthers s a) :=
  inferInstanceAs (Decidable (∀ x ∈ a.command, _))

instance (s : State σ η) (a : Action) : Decidable (OthersFresh s a) :=
  inferInstanceAs (Decidable (∀ x ∈ a.command, _))

theorem keepsOthers_iff_othersFresh (h : Inv s) (a : Action) :
    KeepsOthers s a ↔ OthersFresh s a := by
  apply forall₂_congr
  intro x hx
  have hs : shadow ((machine σ η).step s a) = (shadow s).command x.1 x.2 :=
    shadow_step_command h hx
  have hi := Shadowed.master_command_others_iff x.1 x.2 (shadow s)
  rw [← hs] at hi
  exact hi

/-- Throughout a run, commands spare the other channels exactly if each one repeats the cache or
comes when the last poll has seen what the register holds for them. -/
theorem keepsOthers_run_iff (hs : (machine σ η).Reachable s) {as : List Action}
    (h : (machine σ η).IsRun s as) :
    (machine σ η).EveryStep KeepsOthers s as ↔ (machine σ η).EveryStep OthersFresh s as := by
  have hi : Inv s := inv_reachable hs
  exact inv_step.everyStep_congr (fun _ a hi _ => keepsOthers_iff_othersFresh hi a) hi h

theorem turnOn_undoes_masterWrite :
    (machine RegTable StateLog).IsRun start (addAll ++ [.masterWrite 0x0200, .turnOn 0]) ∧
      (∀ e, (((machine RegTable StateLog).run start addAll).2.entities e).hass = true) ∧
      ¬ (machine RegTable StateLog).EveryStep KeepsOthers
        ((machine RegTable StateLog).run start addAll) [.masterWrite 0x0200, .turnOn 0] := by
  refine ⟨?_, ?_, ?_⟩ <;> decide +kernel

theorem turnOn_keeps_polled_masterWrite :
    (machine RegTable StateLog).EveryStep KeepsOthers
      ((machine RegTable StateLog).run start addAll) [.masterWrite 0x0200, .poll, .turnOn 0] := by
  have hinit : (machine RegTable StateLog).Reachable start := .init init_start
  have hadd : (machine RegTable StateLog).IsRun start addAll := by decide +kernel
  have hr : (machine RegTable StateLog).IsRun ((machine RegTable StateLog).run start addAll)
      [.masterWrite 0x0200, .poll, .turnOn 0] := by decide +kernel
  exact (keepsOthers_run_iff (hinit.run hadd) hr).2 (by decide +kernel)

/-! ## The commanded channel -/

/-- A command leaves the register bit of its channel in the commanded state. -/
def TakesEffect (s : State σ η) (a : Action) : Prop :=
  ∀ x ∈ a.command, decode ((machine σ η).step s a).1.word x.1 = x.2

/-- A command asks for what is not cached, or for what the register holds already. -/
def NotHidden (s : State σ η) (a : Action) : Prop :=
  ∀ x ∈ a.command, x.2 ≠ s.1.channels x.1 ∨ decode s.1.word x.1 = x.2

instance (s : State σ η) (a : Action) : Decidable (TakesEffect s a) :=
  inferInstanceAs (Decidable (∀ x ∈ a.command, _))

instance (s : State σ η) (a : Action) : Decidable (NotHidden s a) :=
  inferInstanceAs (Decidable (∀ x ∈ a.command, _))

theorem takesEffect_iff_notHidden (h : Inv s) (a : Action) : TakesEffect s a ↔ NotHidden s a := by
  apply forall₂_congr
  intro x hx
  have hs : shadow ((machine σ η).step s a) = (shadow s).command x.1 x.2 :=
    shadow_step_command h hx
  have hi := Shadowed.master_command_self_iff x.1 x.2 (shadow s)
  rw [← hs] at hi
  exact hi

theorem Action.adds_mono (a : Action) {added : Fin 10 → Bool} {c : Fin 10} (h : added c = true) :
    a.adds added c = true := by
  cases a with
  | addEntity e lastState =>
    show Function.update added e true c = true
    by_cases hc : c = e
    · rw [hc, Function.update_self]
    · rw [Function.update_of_ne hc]
      exact h
  | _ => exact h

theorem adds_of_command {added : Fin 10 → Bool} (h : ∀ c, (s.2.entities c).hass = added c)
    (he : (machine σ η).Enabled s a) {c : Fin 10} {b : ℤ} (hc : a.command = some (c, b)) :
    a.adds added c = true := by
  cases a with
  | addEntity e lastState =>
    cases hc
    exact Function.update_self ..
  | turnOn e =>
    cases hc
    show added c = true
    rw [← h c]
    exact he
  | turnOff e =>
    cases hc
    show added c = true
    rw [← h c]
    exact he
  | masterWrite w => cases hc
  | registerWrite w => cases hc
  | poll => cases hc

theorem settled_command (h : Inv s) (he : (machine σ η).Enabled s a) {c : Fin 10} {b : ℤ}
    (hc : a.command = some (c, b)) (hn : NotHidden s a) :
    Settled c b ((machine σ η).step s a) := by
  have hs : Shadowed.Holds c b (shadow ((machine σ η).step s a)) := by
    rw [shadow_step_command h hc]
    exact Shadowed.holds_command (hn (c, b) hc)
  apply Settled.of_holds (inv_step s a h he) hs
  obtain ⟨v, added, h⟩ := h
  obtain ⟨v', h', _⟩ := step_cases h a
  have hadded : a.adds added c = true := adds_of_command (fun i => (h.agree i).hass) he hc
  have hhass := (h'.agree c).hass
  rw [hadded] at hhass
  exact hhass

theorem Effect.holds {x y : Shadowed (Fin 10) ℤ} (h : Effect x y a) {c : Fin 10} {b : ℤ}
    (ha : a.Spares c) (hx : Shadowed.Holds c b x) : Shadowed.Holds c b y := by
  cases hc : a.command with
  | some p =>
    -- a command on another channel
    have hp : p.1 ≠ c := by
      rintro rfl
      cases a <;> first | exact ha _ hc | cases hc
    rw [h.of_command (c := p.1) (b := p.2) hc]
    exact hx.command hp
  | none =>
    cases a with
    | poll =>
      obtain ⟨p, rfl⟩ := h
      exact hx.refreshOn p
    | masterWrite w => exact ha.elim
    | registerWrite w => exact ha.elim
    | addEntity e lastState => cases hc
    | turnOn e => cases hc
    | turnOff e => cases hc

theorem Settled.step (h : Inv s) (he : (machine σ η).Enabled s a) {c : Fin 10} {b : ℤ}
    (hs : Settled c b s) (ha : a.Spares c) :
    Settled c b ((machine σ η).step s a) := by
  have hholds : Shadowed.Holds c b (shadow ((machine σ η).step s a)) :=
    (effect_step h a).holds ha ⟨hs.register, hs.cached⟩
  apply Settled.of_holds (inv_step s a h he) hholds
  obtain ⟨v, added, h⟩ := h
  obtain ⟨v', h', _⟩ := step_cases h a
  have hadded : added c = true := by
    rw [← (h.agree c).hass]
    exact hs.added
  have hhass := (h'.agree c).hass
  rw [a.adds_mono hadded] at hhass
  exact hhass

theorem Settled.run (h : Inv s) {c : Fin 10} {b : ℤ} (hs : Settled c b s)
    {as : List Action} (hr : (machine σ η).IsRun s as) (ha : ∀ a ∈ as, a.Spares c) :
    Settled c b ((machine σ η).run s as) := by
  induction as generalizing s with
  | nil => exact hs
  | cons a as ih =>
    have hi : Inv ((machine σ η).step s a) := inv_step s a h hr.1
    have hs' : Settled c b ((machine σ η).step s a) := hs.step h hr.1 (ha a List.mem_cons_self)
    have hrest : ∀ a' ∈ as, a'.Spares c := fun a' ha' => ha a' (List.mem_cons_of_mem a ha')
    exact ih hi hs' hr.2 hrest

/-- Throughout a run, commands take effect exactly if no stale cache hides that they are needed.
A command that takes effect settles its channel until the next master write or command on it. -/
theorem takesEffect_run_iff (hs : (machine σ η).Init s) {as : List Action}
    (h : (machine σ η).IsRun s as) :
    ((machine σ η).EveryStep TakesEffect s as ↔ (machine σ η).EveryStep NotHidden s as) ∧
      ∀ as₁ a as₂ c b, as = as₁ ++ a :: as₂ → a.command = some (c, b) →
        NotHidden ((machine σ η).run s as₁) a → (∀ a' ∈ as₂, a'.Spares c) →
        Settled c b ((machine σ η).run s as) := by
  have hi := inv_init hs
  refine ⟨inv_step.everyStep_congr (fun _ a hi _ => takesEffect_iff_notHidden hi a) hi h, ?_⟩
  rintro as₁ a as₂ c b rfl hc hn hsp
  obtain ⟨h₁, he, h₂⟩ := (Machine.everyStep_append s as₁ (a :: as₂)).1 h
  have hi₁ : Inv ((machine σ η).run s as₁) := inv_step.run hi h₁
  have hi₂ := inv_step _ a hi₁ he
  have hsettled := settled_command hi₁ he hc hn
  rw [Machine.run_append]
  exact hsettled.run hi₂ h₂ hsp

/-- A channel that a master switched on before it was first polled stays on in the register when
its entity is added, and a turn_off does not help. -/
theorem addEntity_leaves_masterWrite :
    (machine RegTable StateLog).IsRun start [.masterWrite 0x0100, .addEntity 0 none, .turnOff 0] ∧
      decode ((machine RegTable StateLog).run start
        [.masterWrite 0x0100, .addEntity 0 none, .turnOff 0]).1.word 0 = 1 ∧
      ¬ (machine RegTable StateLog).EveryStep TakesEffect start
        [.masterWrite 0x0100, .addEntity 0 none, .turnOff 0] := by
  refine ⟨?_, ?_, ?_⟩ <;> decide +kernel

theorem turnOff_reaches_polled_channel :
    (machine RegTable StateLog).EveryStep TakesEffect start
        [.addEntity 0 none, .masterWrite 0x0100, .poll, .turnOff 0, .poll] ∧
      Settled 0 0 ((machine RegTable StateLog).run start
        [.addEntity 0 none, .masterWrite 0x0100, .poll, .turnOff 0, .poll]) := by
  have hr : (machine RegTable StateLog).IsRun start
      [.addEntity 0 none, .masterWrite 0x0100, .poll, .turnOff 0, .poll] := by decide +kernel
  have h := takesEffect_run_iff init_start hr
  refine ⟨h.1.2 (by decide +kernel), ?_⟩
  exact h.2 [.addEntity 0 none, .masterWrite 0x0100, .poll] (.turnOff 0) [.poll] 0 0 rfl rfl
    (by decide +kernel) (by simp [Action.Spares, Action.command])

/-! ## The three views -/

theorem invoke_returns (hh : HomeAssistant.NeverRaises η) (call : Call (Fin 10))
    (bank : SwitchBank η) : ∃ bank', SwitchBank.invoke call bank = .ok () bank' :=
  onDeviceStateChange_returns hh ..

theorem channels_after_poll (hh : HomeAssistant.NeverRaises η) (h : Inv s) :
    ((machine σ η).step s .poll).1.channels = decode ((machine σ η).step s .poll).1.word := by
  obtain ⟨v, added, h⟩ := h
  obtain ⟨c, bank', hok⟩ := parse_returns h.models (invoke_returns hh) v.word s.2
  have hs : (machine σ η).step s .poll = ({ s.1 with channels := decode v.word }, bank') := by
    have hpoll : (machine σ η).step s .poll =
        (syncChannelsFromRegister SwitchBank.invoke).after s := PyM.after_bind_pure ..
    rw [hpoll, after_syncChannelsFromRegister h.models]
    exact PyM.after_ok hok
  have hword := (h.models.setChannels (decode v.word)).word_eq
  rw [hs, hword]
  rfl

/-- Added entities show the cached channels at all times, and after a poll these are the bits of
the register. -/
theorem views_agree (hh : HomeAssistant.NeverRaises η) (hs : (machine σ η).Reachable s) :
    (∀ c, (s.2.entities c).hass = true →
      ((s.2.entities c).isOn = true ↔ s.1.channels c = 1)) ∧
      ∀ c, ((machine σ η).step s .poll).1.channels c =
        decode ((machine σ η).step s .poll).1.word c := by
  have hi : Inv s := inv_reachable hs
  refine ⟨fun c ha => shown_of_added hi ha, fun c => ?_⟩
  rw [channels_after_poll hh hi]

theorem stateLog_neverRaises : HomeAssistant.NeverRaises StateLog := fun _ _ _ => ⟨_, rfl⟩

theorem entity_shows_polled_masterWrite :
    ((((machine RegTable StateLog).run start
      [.addEntity 9 none, .masterWrite 0xFFFE, .poll]).2.entities
      9).isOn = true) := by
  have hr : (machine RegTable StateLog).IsRun start
      [.addEntity 9 none, .masterWrite 0xFFFE, .poll] := by
    decide +kernel
  have hinit : (machine RegTable StateLog).Reachable start := .init init_start
  have hviews := views_agree stateLog_neverRaises (hinit.run hr)
  exact (hviews.1 9 (by decide +kernel)).2 (by decide +kernel)

end RelaySystem
end Ecto
