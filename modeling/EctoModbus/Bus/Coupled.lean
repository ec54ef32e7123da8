import EctoModbus.Bus.NodeDefs
import EctoModbus.Library.Coupling

/-! A node does the same under any Home Assistant that never raises: what it is told cannot come
back to the devices. -/

namespace Ecto
open Python Transition BlockTable

namespace SwitchBank
open PyM
variable {η δ : Type}

def Alike (bank : SwitchBank η) (bank' : SwitchBank Unit) : Prop := bank.entities = bank'.entities

theorem Alike.setEntity {bank : SwitchBank η} {bank' : SwitchBank Unit} (h : Alike bank bank')
    (e : Fin 10) (f : EctoChannelSwitch → EctoChannelSwitch) :
    Alike (bank.setEntity e f) (bank'.setEntity e f) := by
  unfold Alike SwitchBank.setEntity at *
  simp only [h]

theorem coupled_setEntity (e : Fin 10) (f : EctoChannelSwitch → EctoChannelSwitch) :
    Coupled Alike Eq (modify (setEntity e f) : PyM (SwitchBank η) PUnit)
      (modify (setEntity e f) : PyM (SwitchBank Unit) PUnit) :=
  coupled_modify fun _ _ h => h.setEntity e f

variable [SwitchDevice δ]

theorem coupled_syncFromDevice (e : Fin 10) :
    Coupled (Both Eq Alike) Eq (syncFromDevice e : PyM (δ × SwitchBank η) Unit)
      (syncFromDevice e : PyM (δ × SwitchBank Unit) Unit) := by
  apply coupled_get_bind
  intro p p' h
  obtain ⟨d, bank⟩ := p
  obtain ⟨d', bank'⟩ := p'
  obtain ⟨rfl, he⟩ := h
  have he' : bank.entities = bank'.entities := he
  simp only [he']
  rcases (SwitchDevice.getChannelState : Option (ℤ → δ → Option ℤ)) with _ | getChannelState
  · exact coupled_pure rfl _ _ ⟨rfl, he⟩
  · dsimp only
    rcases getChannelState (bank'.entities e).channel d with _ | deviceState
    · exact coupled_pure rfl _ _ ⟨rfl, he⟩
    · exact (coupled_setEntity e _).second _ _ ⟨rfl, he⟩

theorem coupled_restoreState (e : Fin 10) (channel : ℤ) (lastState : Option (Option String)) :
    Coupled (Both Eq Alike) Eq (restoreState e channel lastState : PyM (δ × SwitchBank η) Unit)
      (restoreState e channel lastState : PyM (δ × SwitchBank Unit) Unit) := by
  rcases lastState with _ | _ | state
  · exact coupled_syncFromDevice e
  · exact coupled_syncFromDevice e
  · show Coupled _ _ (if state ≠ STATE_UNAVAILABLE then _ else _) (if _ then _ else _)
    split_ifs
    · exact (coupled_refl _).first.bind fun _ _ _ => (coupled_setEntity e _).second
    · exact (coupled_refl _).first.bind fun _ _ _ => (coupled_setEntity e _).second
    · exact coupled_syncFromDevice e

theorem coupled_addEntity (e : Fin 10) (lastState : Option (Option String)) :
    Coupled (Both Eq Alike) Eq (addEntity e lastState : PyM (δ × SwitchBank η) Unit)
      (addEntity e lastState : PyM (δ × SwitchBank Unit) Unit) := by
  apply (coupled_setEntity e _).second.bind
  intro _ _ _
  apply (coupled_setEntity e _).second.bind
  intro _ _ _
  apply coupled_get_bind
  intro p p' h
  obtain ⟨d, bank⟩ := p
  obtain ⟨d', bank'⟩ := p'
  have he : bank.entities = bank'.entities := h.2
  simp only [he]
  have hreset : Coupled (Both Eq Alike) Eq
      (do
        if SwitchDevice.isEctoRelay10CH δ then
          second (modify (setEntity e fun self => { self with state := false }))
          first (SwitchDevice.setSwitchState (bank'.entities e).channel 0)
        else
          restoreState e (bank'.entities e).channel lastState : PyM (δ × SwitchBank η) Unit)
      (do
        if SwitchDevice.isEctoRelay10CH δ then
          second (modify (setEntity e fun self => { self with state := false }))
          first (SwitchDevice.setSwitchState (bank'.entities e).channel 0)
        else
          restoreState e (bank'.entities e).channel lastState) := by
    split_ifs
    · exact (coupled_setEntity e _).second.bind fun _ _ _ => (coupled_refl _).first
    · exact coupled_restoreState e _ lastState
  -- a device either has callbacks, and registers the entity's first, or goes on at once
  rcases (SwitchDevice.setStateChangeCallback : Option (ℤ → Fin 10 → PyM δ Unit)) with _ | register
  · exact hreset _ _ h
  · exact ((coupled_refl _).first.bind fun _ _ _ => hreset) _ _ h

variable [HomeAssistant η]

theorem coupled_scheduleUpdate (hh : HomeAssistant.NeverRaises η) (e : Fin 10) :
    Coupled Alike Eq (scheduleUpdate e : PyM (SwitchBank η) Unit)
      (scheduleUpdate e : PyM (SwitchBank Unit) Unit) := by
  intro bank bank' h
  obtain ⟨hass', hok⟩ := hh e (bank.entities e).state bank.hass
  have hs : scheduleUpdate e bank = .ok () { bank with hass := hass' } := by
    unfold scheduleUpdate
    rw [get_bind]
    exact zoom_ok hok
  have hs' : scheduleUpdate e bank' = .ok () bank' := rfl
  rw [hs, hs']
  exact .ok rfl h

theorem coupled_onDeviceStateChange (hh : HomeAssistant.NeverRaises η) (e : Fin 10)
    (channel state : ℤ) :
    Coupled Alike Eq (onDeviceStateChange e channel state : PyM (SwitchBank η) Unit)
      (onDeviceStateChange e channel state : PyM (SwitchBank Unit) Unit) := by
  apply coupled_get_bind
  intro bank bank' h
  have he : bank.entities = bank'.entities := h
  rw [he]
  split_ifs
  · exact (coupled_setEntity e _).bind (fun _ _ _ => coupled_scheduleUpdate hh e) bank bank' h
  · exact (coupled_setEntity e _).bind (fun _ _ _ => coupled_pure rfl) bank bank' h
  · exact coupled_pure rfl bank bank' h

theorem coupled_updateState (hh : HomeAssistant.NeverRaises η) (e : Fin 10) (state : Bool) :
    Coupled (Both Eq Alike) Eq (updateState e state : PyM (δ × SwitchBank η) Unit)
      (updateState e state : PyM (δ × SwitchBank Unit) Unit) := by
  apply coupled_get_bind
  intro p p' h
  obtain ⟨d, bank⟩ := p
  obtain ⟨d', bank'⟩ := p'
  have he : bank.entities = bank'.entities := h.2
  simp only [he]
  have hrest : ∀ b : Bool, Coupled (Both Eq Alike) Eq
      (second (modify (setEntity e fun self => { self with state := state })) >>= fun _ =>
        if b then second (scheduleUpdate e) else pure () : PyM (δ × SwitchBank η) Unit)
      (second (modify (setEntity e fun self => { self with state := state })) >>= fun _ =>
        if b then second (scheduleUpdate e) else pure ()) := by
    intro b
    apply (coupled_setEntity e _).second.bind
    intro _ _ _
    cases b
    · exact coupled_pure rfl
    · exact (coupled_scheduleUpdate hh e).second
  cases state
  · exact ((coupled_refl _).first.bind fun _ _ _ => hrest _) _ _ h
  · exact ((coupled_refl _).first.bind fun _ _ _ => hrest _) _ _ h

end SwitchBank

namespace EctoRelay10CH
open PyM SwitchBank
variable {σ η : Type} [HomeAssistant η]

theorem coupled_updateChannel (hh : HomeAssistant.NeverRaises η)
    (callbacks : Fin 10 → Option (Fin 10)) (i : Fin 10) (s : ℤ) :
    Coupled (Both Eq Alike) Eq
      (updateChannel (SwitchBank.invoke : Call (Fin 10) → PyM (SwitchBank η) Unit) callbacks i s)
      (updateChannel (SwitchBank.invoke : Call (Fin 10) → PyM (SwitchBank Unit) Unit)
        callbacks i s) := by
  apply coupled_get_bind
  intro p p' h
  obtain ⟨channels, bank⟩ := p
  obtain ⟨channels', bank'⟩ := p'
  obtain ⟨rfl, hb⟩ := h
  have hstore : Coupled (Both Eq Alike) Eq
      (modify fun p => (Function.update p.1 i s, p.2) : PyM ((Fin 10 → ℤ) × SwitchBank η) PUnit)
      (modify fun p => (Function.update p.1 i s, p.2) :
        PyM ((Fin 10 → ℤ) × SwitchBank Unit) PUnit) := by
    refine coupled_modify fun q q' hq => ⟨?_, hq.2⟩
    rw [hq.1]
  dsimp only
  split_ifs
  · refine (hstore.bind fun _ _ _ => ?_) _ _ ⟨rfl, hb⟩
    rcases callbacks i with _ | k
    · exact coupled_pure rfl
    · exact (coupled_onDeviceStateChange hh k _ _).second.bind fun _ _ _ => coupled_pure rfl
  · exact coupled_pure rfl _ _ ⟨rfl, hb⟩

theorem coupled_parse (hh : HomeAssistant.NeverRaises η) (value : ℤ) :
    Coupled (Both Eq Alike) Eq
      (parse SwitchBank.invoke value : PyM (EctoRelay10CH σ (Fin 10) × SwitchBank η) Bool)
      (parse SwitchBank.invoke value) := by
  rintro ⟨d, bank⟩ ⟨_, bank'⟩ ⟨rfl, hb⟩
  have hrounds : Coupled (Both Eq Alike) Eq
      (parseValue (SwitchBank.invoke : Call (Fin 10) → PyM (SwitchBank η) Unit)
        d.stateChangeCallbacks value)
      (parseValue (SwitchBank.invoke : Call (Fin 10) → PyM (SwitchBank Unit) Unit)
        d.stateChangeCallbacks value) := by
    rw [parseValue_eq, parseValue_eq]
    refine coupled_foldlM (fun changed changed' i hc => ?_) _ rfl
    apply (coupled_updateChannel hh _ i _).bind
    intro c c' hcc
    rw [hc, hcc]
    exact coupled_pure rfl
  refine hrounds.zoom (fun p q hpq => ⟨?_, hpq.2⟩) (fun p q x y hpq hxy => ⟨?_, hxy.2⟩) _ _
    ⟨rfl, hb⟩
  · show p.1.channels = q.1.channels
    rw [hpq.1]
  · show ({ p.1 with channels := x.1 } : EctoRelay10CH σ (Fin 10)) = { q.1 with channels := y.1 }
    rw [hpq.1, hxy.1]

variable [ModbusSlave σ]

theorem coupled_sync (hh : HomeAssistant.NeverRaises η) :
    Coupled (Both Eq Alike) Eq
      (syncChannelsFromRegister SwitchBank.invoke :
        PyM (EctoRelay10CH σ (Fin 10) × SwitchBank η) Bool)
      (syncChannelsFromRegister SwitchBank.invoke) := by
  apply (coupled_refl _).first.bind
  intro values values' hv
  subst hv
  rcases values with _ | ⟨value, rest⟩
  · exact coupled_pure rfl
  · exact coupled_parse hh value

end EctoRelay10CH

namespace NodeSystem
open PyM SwitchBank
variable {σ η : Type}

theorem coupled_asDevice {δ : Type} (put : δ → Device σ (Fin 10)) (d : δ)
    {m : PyM (δ × SwitchBank η) Unit} {n : PyM (δ × SwitchBank Unit) Unit}
    (h : Coupled (Both Eq Alike) Eq m n) :
    Coupled (Both Eq Alike) Eq (asDevice put d m) (asDevice put d n) := by
  refine h.zoom (fun p q hpq => ⟨rfl, hpq.2⟩) (fun p q x y _ hxy => ⟨?_, hxy.2⟩)
  exact congrArg put hxy.1

theorem coupled_onSwitchDevice {relay : PyM (EctoRelay10CH σ (Fin 10) × SwitchBank η) Unit}
    {relay' : PyM (EctoRelay10CH σ (Fin 10) × SwitchBank Unit) Unit}
    {sensor : PyM (EctoCH10BinarySensor σ × SwitchBank η) Unit}
    {sensor' : PyM (EctoCH10BinarySensor σ × SwitchBank Unit) Unit}
    (hr : Coupled (Both Eq Alike) Eq relay relay')
    (hs : Coupled (Both Eq Alike) Eq sensor sensor') :
    Coupled (Both Eq Alike) Eq (onSwitchDevice relay sensor) (onSwitchDevice relay' sensor') := by
  rintro ⟨d, bank⟩ ⟨_, bank'⟩ ⟨rfl, hb⟩
  cases d with
  | relay10ch d => exact coupled_asDevice _ d hr _ _ ⟨rfl, hb⟩
  | binarySensor10ch d => exact coupled_asDevice _ d hs _ _ ⟨rfl, hb⟩
  | temperatureSensor d => exact .ok rfl ⟨rfl, hb⟩

variable [ModbusSlave σ] [HomeAssistant η]

theorem coupled_addToHass (hh : HomeAssistant.NeverRaises η) {δ : Type} [SwitchDevice δ]
    (e : Fin 10)
    (lastState : Option (Option String)) :
    Coupled (Both Eq Alike) Eq (addToHass e lastState : PyM (δ × SwitchBank η) Unit)
      (addToHass e lastState) :=
  (coupled_addEntity e lastState).bind fun _ _ _ => (coupled_scheduleUpdate hh e).second

theorem coupled_updateDevice (hh : HomeAssistant.NeverRaises η) :
    Coupled (Both Eq Alike) Eq
      (EctoCoordinator.updateDevice SwitchBank.invoke : PyM (State σ η) Unit)
      (EctoCoordinator.updateDevice SwitchBank.invoke) := by
  rintro ⟨d, bank⟩ ⟨_, bank'⟩ ⟨rfl, hb⟩
  cases d with
  | relay10ch d =>
    have hs := EctoRelay10CH.coupled_sync hh (d, bank) (d, bank') ⟨rfl, hb⟩
    simp only [EctoCoordinator.updateDevice]
    generalize EctoRelay10CH.syncChannelsFromRegister SwitchBank.invoke (d, bank) = x at hs ⊢
    generalize EctoRelay10CH.syncChannelsFromRegister SwitchBank.invoke (d, bank') = y at hs ⊢
    rcases hs with ⟨_, hq⟩ | hq
    · exact .ok rfl ⟨congrArg Device.relay10ch hq.1, hq.2⟩
    · exact .error ⟨congrArg Device.relay10ch hq.1, hq.2⟩
  | binarySensor10ch d => exact .ok rfl ⟨rfl, hb⟩
  | temperatureSensor d => exact .ok rfl ⟨rfl, hb⟩

/-- What is done to a node has the same outcome and effect under any Home Assistant that never
raises. -/
theorem coupled_call (hh : HomeAssistant.NeverRaises η)
    (float : String → Except PyException PyFloat) (a : Action) :
    Coupled (Both Eq Alike) Eq (call float a : PyM (State σ η) Unit) (call float a) := by
  cases a with
  | addEntity e lastState =>
    exact coupled_onSwitchDevice (coupled_addToHass hh e lastState)
      (coupled_addToHass hh e lastState)
  | turnOn e =>
    exact coupled_onSwitchDevice (coupled_updateState hh e true) (coupled_updateState hh e true)
  | turnOff e =>
    exact coupled_onSwitchDevice (coupled_updateState hh e false) (coupled_updateState hh e false)
  | stateChanged newState =>
    rintro ⟨d, bank⟩ ⟨_, bank'⟩ ⟨rfl, hb⟩
    cases d with
    | temperatureSensor d => exact coupled_asDevice _ d (coupled_refl _).first _ _ ⟨rfl, hb⟩
    | relay10ch d => exact .ok rfl ⟨rfl, hb⟩
    | binarySensor10ch d => exact .ok rfl ⟨rfl, hb⟩
  | masterWrite a ws => exact (coupled_refl _).first
  | poll => exact coupled_updateDevice hh

theorem ofState_after_call (hh : HomeAssistant.NeverRaises η)
    (float : String → Except PyException PyFloat) (a : Action) (n : Node σ) (hass : η) :
    Node.ofState ((call float a).after (n.state hass)) =
      Node.ofState ((call float a).after (n.state ())) := by
  obtain ⟨hd, he⟩ := (coupled_call hh float a).after (s := n.state hass) (t := n.state ())
    ⟨rfl, rfl⟩
  exact congrArg₂ Node.mk hd he

end NodeSystem

end Ecto
