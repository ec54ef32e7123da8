import EctoModbus.Entity.RelaySystemDefs

/-! Every run of the relay with its entities keeps entities and cached channels together. On the
register and the cached channels a run is one of a shadowed family of cells: commands write the
cache back, masters overwrite the cells, polls refresh some of the cache. -/

namespace Ecto
open Python Transition BlockTable Shadow

namespace RelaySystem
open EctoRelay10CH SwitchBank
variable {σ η : Type}

/-! ## Entities and cached channels -/

/-- The entity of channel `c` has its own channel and callback, and once added it shows the
channel. -/
structure AgreeAt (callback : Option (Fin 10)) (b : ℤ) (added : Bool)
    (entity : EctoChannelSwitch) (c : Fin 10) : Prop where
  bit : b = 0 ∨ b = 1
  channel : entity.channel = c
  hass : entity.hass = added
  own : ∀ k, callback = some k → k = c
  registered : added = true → callback = some c
  shown : added = true → entity.state = truthy b

def Agree (callbacks : Fin 10 → Option (Fin 10)) (channels : Fin 10 → ℤ) (added : Fin 10 → Bool)
    (bank : SwitchBank η) : Prop :=
  ∀ c, AgreeAt (callbacks c) (channels c) (added c) (bank.entities c) c

variable {callbacks callbacks' : Fin 10 → Option (Fin 10)} {channels : Fin 10 → ℤ}
  {added added' : Fin 10 → Bool} {bank bank' : SwitchBank η}

theorem Agree.change (h : Agree callbacks channels added bank) (i : Fin 10) {b : ℤ}
    (hother : ∀ c, c ≠ i → callbacks' c = callbacks c ∧ added' c = added c ∧
      bank'.entities c = bank.entities c)
    (hi : AgreeAt (callbacks' i) b (added' i) (bank'.entities i) i) :
    Agree callbacks' (Function.update channels i b) added' bank' := by
  intro c
  by_cases hc : c = i
  · subst hc
    rw [Function.update_self]
    exact hi
  · obtain ⟨hcb, ha, he⟩ := hother c hc
    rw [Function.update_of_ne hc, hcb, ha, he]
    exact h c

theorem Agree.setState (h : Agree callbacks channels added bank) (i : Fin 10) {b : ℤ}
    (hb : b = 0 ∨ b = 1)
    (he : bank'.entities =
      (bank.setEntity i fun self => { self with state := truthy b }).entities) :
    Agree callbacks (Function.update channels i b) added bank' := by
  have hother : ∀ c, c ≠ i → bank'.entities c = bank.entities c := by
    intro c hc
    rw [he, setEntity_of_ne hc]
  refine h.change i (fun c hc => ⟨rfl, rfl, hother c hc⟩) ?_
  rw [he, setEntity_self]
  exact ⟨hb, (h i).channel, (h i).hass, (h i).own, (h i).registered, fun _ => rfl⟩

theorem Agree.setSilent (h : Agree callbacks channels added bank) {i : Fin 10} {b : ℤ}
    (hb : b = 0 ∨ b = 1) (hi : callbacks i = none) :
    Agree callbacks (Function.update channels i b) added bank := by
  -- an added entity has registered its callback
  have hn : added i ≠ true := by
    intro ha
    have hr := (h i).registered ha
    rw [hi] at hr
    cases hr
  have hat : AgreeAt (callbacks i) b (added i) (bank.entities i) i :=
    ⟨hb, (h i).channel, (h i).hass, (h i).own, (h i).registered, fun ha => absurd ha hn⟩
  exact h.change i (fun _ _ => ⟨rfl, rfl, rfl⟩) hat

theorem Agree.notified [HomeAssistant η] (h : Agree callbacks channels added bank) (i : Fin 10)
    {b : ℤ} (hb : b = 0 ∨ b = 1) :
    Agree callbacks (Function.update channels i b) added
      (EctoRelay10CH.notified SwitchBank.invoke callbacks i b bank) := by
  cases hc : callbacks i with
  | none =>
    rw [notified_none hc]
    exact h.setSilent hb hc
  | some k =>
    obtain rfl : k = i := (h i).own k hc
    rw [notified_some hc]
    exact h.setState k hb (entities_after_onDeviceStateChange (h k).channel b)

variable [ModbusSlave σ]

theorem after_addEntity {e : Fin 10} {d d₁ d₂ : EctoRelay10CH σ (Fin 10)} {bank : SwitchBank η}
    (lastState : Option (Option String))
    (h₁ : setStateChangeCallback (bank.entities e).channel e d = .ok () d₁)
    (h₂ : setSwitchState (bank.entities e).channel 0 d₁ = .ok () d₂) :
    ((addEntity e lastState).after (d, bank)).1 = d₂ ∧
      ((addEntity e lastState).after (d, bank)).2.entities = (bank.setEntity e fun self =>
        { self with hass := true, ownHass := true, state := false }).entities := by
  let bank₁ := bank.setEntity e fun self => { self with hass := true }
  let bank₂ := bank₁.setEntity e fun self => { self with ownHass := self.hass }
  let bank₃ := bank₂.setEntity e fun self => { self with state := false }
  have hc : (bank₂.entities e).channel = (bank.entities e).channel := by
    simp only [bank₂, bank₁, setEntity_self]
  rw [← hc] at h₁ h₂
  -- `self.hass`, `self._hass`, the callback, `self._state`, and then the command
  have hd : (addEntity e lastState).after (d, bank) = (d₂, bank₃) := by
    apply (PyM.after_bind_ok (PyM.second_ok (PyM.modify_run _ bank))).trans
    apply (PyM.after_bind_ok (PyM.second_ok (PyM.modify_run _ bank₁))).trans
    apply (PyM.after_bind_ok (PyM.first_ok h₁)).trans
    apply (PyM.after_bind_ok (PyM.second_ok (PyM.modify_run _ bank₂))).trans
    exact PyM.after_ok (PyM.first_ok h₂)
  rw [hd]
  refine ⟨rfl, ?_⟩
  funext i
  by_cases hi : i = e
  · subst hi
    simp only [bank₃, bank₂, bank₁, setEntity_self]
  · simp only [bank₃, bank₂, bank₁, setEntity_of_ne hi]

/-! ## The invariant -/

variable [LawfulModbusSlave σ]

/-- The relay is that of the image, and its entities agree with it. -/
structure Tracks (s : State σ η) (v : RelayImage (Fin 10)) (added : Fin 10 → Bool) : Prop where
  models : Models s.1 v
  agree : Agree v.callbacks v.channels added s.2

def Inv (s : State σ η) : Prop := ∃ v added, Tracks s v added

variable {s : State σ η} {v : RelayImage (Fin 10)}

theorem Tracks.shadow_eq (h : Tracks s v added) : shadow s = v.shadow := by
  have hword : decode s.1.word = decode v.word := by rw [h.models.word_eq]
  exact Shadowed.ext hword h.models.channels

theorem inv_init (h : Init s) : Inv s := by
  obtain ⟨addr, slave, hs, hd⟩ := h.relay
  obtain ⟨hass, hb⟩ := h.bank
  refine ⟨_, fun _ => false, models_of_init hs hd, fun c => ?_⟩
  rw [hb]
  exact {
    bit := Or.inl rfl
    channel := rfl
    hass := rfl
    own := fun _ hk => by cases hk
    registered := fun hc => by cases hc
    shown := fun hc => by cases hc }

/-! ## Steps -/

def Action.adds (added : Fin 10 → Bool) : Action → Fin 10 → Bool
  | .addEntity e _ => Function.update added e true
  | _ => added

/-- What an action does to register and cache. -/
def Effect (x y : Shadowed (Fin 10) ℤ) : Action → Prop
  | .masterWrite w => y = x.overwrite (decode w.toNat)
  | .registerWrite _ => y.master = x.master
  | .poll => ∃ p, y = x.refreshOn p
  | a => ∀ c b, a.command = some (c, b) → y = x.command c b

theorem step_addEntity (h : Tracks s v added) (e : Fin 10) (lastState : Option (Option String)) :
    Tracks ((addEntity e lastState).after s) ((v.setCallback e e).command e 0)
      (Function.update added e true) := by
  obtain ⟨d₁, h₁, hm₁⟩ := setStateChangeCallback_models h.models e e
  rw [RelayImage.registerCallback, channel?_fin] at hm₁
  obtain ⟨d₂, h₂, hm₂⟩ := setSwitchState_models hm₁ e 0
  rw [← (h.agree e).channel] at h₁ h₂
  obtain ⟨hd, he⟩ := after_addEntity lastState h₁ h₂
  refine ⟨?_, ?_⟩
  · rw [hd]
    exact hm₂
  · rw [RelayImage.command_callbacks, RelayImage.command_channels (Or.inl rfl)]
    refine h.agree.change e ?_ ?_
    · intro c hc
      have hcallback := RelayImage.setCallback_of_ne hc e v
      have hadded : Function.update added e true c = added c := Function.update_of_ne hc ..
      refine ⟨hcallback, hadded, ?_⟩
      rw [he, setEntity_of_ne hc]
    · rw [he, setEntity_self, RelayImage.setCallback_self, Function.update_self]
      exact {
        bit := Or.inl rfl
        channel := (h.agree e).channel
        hass := rfl
        own := fun k hk => (Option.some.inj hk).symm
        registered := fun _ => rfl
        shown := fun _ => rfl }

variable [HomeAssistant η]

theorem step_masterWrite (h : Tracks s v added) (w : BitVec 16) :
    Tracks ((call (.masterWrite w)).after s) (v.setWord w.toNat) added := by
  obtain ⟨d', hok, hm⟩ := masterWrite_word h.models w.toNat
  have hs : (call (.masterWrite w)).after s = (d', s.2) := PyM.after_ok (PyM.first_ok hok)
  rw [hs]
  exact ⟨hm, h.agree⟩

theorem step_updateState (h : Tracks s v added) {e : Fin 10} (b : Bool) :
    Tracks ((updateState e b).after s) (v.command e b.toInt) added := by
  have hb := toInt_bit b
  have ht : truthy b.toInt = b := by cases b <;> rfl
  obtain ⟨d', hok, hm⟩ := setSwitchState_models h.models e b.toInt
  rw [← (h.agree e).channel] at hok
  obtain ⟨hd, he⟩ := after_updateState s.1 s.2 hok
  refine ⟨?_, ?_⟩
  · rw [hd]
    exact hm
  · rw [RelayImage.command_callbacks, RelayImage.command_channels hb]
    apply h.agree.setState e hb
    rw [ht]
    exact he

theorem step_parse (h : Tracks s v added) (value : ℤ) :
    ∃ p, Tracks ((parse SwitchBank.invoke value).after s)
      (v.setChannels ((⟨decode value, v.channels⟩ : Shadowed (Fin 10) ℤ).refreshOn p).copy)
      added := by
  -- what holds before and after each round: some channels so far are those of the value
  let P (q : (Fin 10 → ℤ) × SwitchBank η) : Prop := Agree v.callbacks q.1 added q.2 ∧
    ∃ p, q.1 = ((⟨decode value, v.channels⟩ : Shadowed (Fin 10) ℤ).refreshOn p).copy
  have hround : ∀ i channels bank, channels i ≠ decode value i → P (channels, bank) →
      P (Function.update channels i (decode value i),
        notified SwitchBank.invoke v.callbacks i (decode value i) bank) := by
    rintro i channels bank - ⟨ha, p, hp⟩
    refine ⟨ha.notified i (decode_bit value i), Function.update p i true, ?_⟩
    rw [← Shadowed.copy_refreshOn_update, ← hp]
  have h₀ : P (v.channels, s.2) := ⟨h.agree, fun _ => false, rfl⟩
  obtain ⟨ha, p, hp⟩ := updateChannels_preserves hround (List.finRange 10) false h₀
  refine ⟨p, ?_⟩
  rw [← hp, after_parse h.models]
  exact ⟨h.models.setChannels _, ha⟩

theorem step_cases (h : Tracks s v added) (a : Action) :
    ∃ v', Tracks ((call a).after s) v' (a.adds added) ∧ Effect v.shadow v'.shadow a := by
  have hbits : ∀ c, v.channels c = 0 ∨ v.channels c = 1 := fun c => (h.agree c).bit
  cases a with
  | addEntity e lastState =>
    refine ⟨_, step_addEntity h e lastState, ?_⟩
    rintro c b ⟨⟩
    exact RelayImage.shadow_command (v := v.setCallback e e) hbits e (Or.inl rfl)
  | turnOn e =>
    refine ⟨_, step_updateState h true, ?_⟩
    rintro c b ⟨⟩
    exact RelayImage.shadow_command hbits e (Or.inr rfl)
  | turnOff e =>
    refine ⟨_, step_updateState h false, ?_⟩
    rintro c b ⟨⟩
    exact RelayImage.shadow_command hbits e (Or.inl rfl)
  | masterWrite w => exact ⟨_, step_masterWrite h w, rfl⟩
  | registerWrite w =>
    obtain ⟨p, hp⟩ := step_parse h w
    rw [← after_onRegisterWrite SwitchBank.invoke w []] at hp
    exact ⟨_, hp, rfl⟩
  | poll =>
    obtain ⟨p, hp⟩ := step_parse h v.word
    have hc : (call .poll).after s = (syncChannelsFromRegister SwitchBank.invoke).after s :=
      PyM.after_bind_pure ..
    rw [← after_syncChannelsFromRegister h.models, ← hc] at hp
    exact ⟨_, hp, p, rfl⟩

theorem inv_step : (machine σ η).Preserves Inv := by
  rintro s a ⟨v, added, h⟩ _
  obtain ⟨v', h', _⟩ := step_cases h a
  exact ⟨v', _, h'⟩

theorem effect_step (h : Inv s) (a : Action) :
    Effect (shadow s) (shadow ((machine σ η).step s a)) a := by
  obtain ⟨v, added, h⟩ := h
  obtain ⟨v', h', heff⟩ := step_cases h a
  have hs' : shadow ((machine σ η).step s a) = v'.shadow := h'.shadow_eq
  rw [h.shadow_eq, hs']
  exact heff

theorem inv_reachable (h : (machine σ η).Reachable s) : Inv s :=
  h.invariant (fun _ => inv_init) inv_step

end RelaySystem
end Ecto
