import EctoModbus.Bus.Faults

/-! What Home Assistant has stored of the entities. Every change of an entity that was added is
passed on under its `unique_id` before the call ends, and nothing else is. -/

namespace Ecto
open Python Transition
open LawfulHassStates (stored)

namespace SwitchBank

theorem idText_entity_inj {k l : ℕ} {e e' : Fin 10}
    (h : Platform.idText (k, e) = Platform.idText (l, e')) : k = l ∧ e = e' := by
  have hkey := Platform.idText_injective h
  simp only [Prod.mk.injEq, Fin.val_inj] at hkey
  exact hkey

open PyM
variable {δ η : Type}
variable {saved : String → Option Bool} {bank bank' bank'' : SwitchBank (HassOf η)}

def uniqueId (bank : SwitchBank (HassOf η)) (e : Fin 10) : String :=
  Platform.idText (bank.hass.addr, e)

/-! ## Adding an entity -/

/-- Only the state of entity `e` differs, and nothing has been written. -/
def Restated (e : Fin 10) (bank bank' : SwitchBank (HassOf η)) : Prop :=
  bank'.hass = bank.hass ∧ ∃ b : Bool,
    bank'.entities = (bank.setEntity e fun self => { self with state := b }).entities

theorem restated_self (e : Fin 10) (bank : SwitchBank (HassOf η)) : Restated e bank bank :=
  ⟨rfl, (bank.entities e).state, (Function.update_eq_self ..).symm⟩

theorem Restated.setState {e : Fin 10} (h : Restated e bank bank') (b : Bool) :
    Restated e bank (bank'.setEntity e fun self => { self with state := b }) := by
  obtain ⟨ha, b', he⟩ := h
  refine ⟨ha, b, ?_⟩
  show Function.update bank'.entities e { bank'.entities e with state := b } = _
  rw [he, setEntity_self]
  exact Function.update_idem ..

variable {K : δ → Prop} {e : Fin 10}

theorem total_first {m : PyM δ Unit} (h : Total K m) {Q : SwitchBank (HassOf η) → Prop} :
    Total (fun p => K p.1 ∧ Q p.2) (first m : PyM (δ × SwitchBank (HassOf η)) Unit) := by
  rintro ⟨d, bank⟩ ⟨hd, hq⟩
  obtain ⟨u, d', hok, hd'⟩ := h d hd
  exact ⟨u, (d', bank), first_ok hok, hd', hq⟩

theorem total_setState (b : Bool) : Total (fun p => K p.1 ∧ Restated e bank p.2)
    (second (modify (setEntity e fun self => { self with state := b })) :
      PyM (δ × SwitchBank (HassOf η)) PUnit) := by
  rintro ⟨d, bank'⟩ ⟨hd, hq⟩
  exact ⟨⟨⟩, _, rfl, hd, hq.setState b⟩

variable [SwitchDevice δ]

/-- A device in `K` takes every command and callback, and stays in `K`. -/
structure Takes (K : δ → Prop) : Prop where
  setSwitchState : ∀ (c : Fin 10) (b : Bool), Total K (SwitchDevice.setSwitchState (c : ℤ) b.toInt)
  setCallback : ∀ register : ℤ → Fin 10 → PyM δ Unit,
    SwitchDevice.setStateChangeCallback = some register → ∀ c k : Fin 10, Total K (register c k)

theorem total_restoreState (ht : Takes K) (lastState : Option (Option String)) :
    Total (fun p => K p.1 ∧ Restated e bank p.2)
      (restoreState e (e : ℤ) lastState : PyM (δ × SwitchBank (HassOf η)) Unit) := by
  have hsync : Total (fun p => K p.1 ∧ Restated e bank p.2)
      (syncFromDevice e : PyM (δ × SwitchBank (HassOf η)) Unit) := by
    apply total_get_bind
    intro p hp
    dsimp only
    rcases (SwitchDevice.getChannelState : Option (ℤ → δ → Option ℤ)) with _ | getChannelState
    · exact total_pure () p hp
    · dsimp only
      rcases getChannelState (p.2.entities e).channel p.1 with _ | deviceState
      · exact total_pure () p hp
      · exact total_setState _ p hp
  rcases lastState with _ | _ | state
  · exact hsync
  · exact hsync
  · show Total _ (if state ≠ STATE_UNAVAILABLE then _ else _)
    split_ifs
    · exact (total_first (ht.setSwitchState e true)).bind fun _ => total_setState true
    · exact (total_first (ht.setSwitchState e false)).bind fun _ => total_setState false
    · exact hsync

theorem total_reset (ht : Takes K) (lastState : Option (Option String)) :
    Total (fun p => K p.1 ∧ Restated e bank p.2)
      (do
        if SwitchDevice.isEctoRelay10CH δ then
          second (modify (setEntity e fun self => { self with state := false }))
          first (SwitchDevice.setSwitchState (e : ℤ) 0)
        else
          restoreState e (e : ℤ) lastState : PyM (δ × SwitchBank (HassOf η)) Unit) := by
  split_ifs
  · exact (total_setState false).bind fun _ => total_first (ht.setSwitchState e false)
  · exact total_restoreState ht lastState

theorem addEntity_ok (ht : Takes K) {d : δ} (hd : K d) (hc : (bank.entities e).channel = e)
    (lastState : Option (Option String)) :
    ∃ t, addEntity e lastState (d, bank) = .ok () t ∧ K t.1 ∧
      Restated e (bank.setEntity e fun self => { self with hass := true, ownHass := true })
        t.2 := by
  let bank₂ := bank.setEntity e fun self => { self with hass := true, ownHass := true }
  have hbank : (bank.setEntity e fun self => { self with hass := true }).setEntity e
      (fun self => { self with ownHass := self.hass }) = bank₂ := by
    simp only [bank₂, setEntity, Function.update_self, Function.update_idem]
  have hchannel : (bank₂.entities e).channel = e := by
    simp only [bank₂, setEntity_self, hc]
  have hstart : K (d, bank₂).1 ∧ Restated e bank₂ (d, bank₂).2 := ⟨hd, restated_self e bank₂⟩
  have hreset := fun (q : δ × SwitchBank (HassOf η)) (hq : K q.1 ∧ Restated e bank₂ q.2) =>
    total_reset ht lastState q hq
  have hrun : ∃ u t, addEntity e lastState (d, bank) = .ok u t ∧
      (K t.1 ∧ Restated e bank₂ t.2) := by
    unfold addEntity asyncInternalAddedToHass
    -- `self.hass` and `self._hass` are set before the device is called
    rw [bind_ok (second_ok (modify_run _ bank)), bind_ok (second_ok (modify_run _ _)),
      get_bind, hbank]
    dsimp only
    rw [hchannel]
    cases hr : (SwitchDevice.setStateChangeCallback : Option (ℤ → Fin 10 → PyM δ Unit)) with
    | none => exact hreset _ hstart
    | some register =>
      exact ((total_first (ht.setCallback register hr e e)).bind fun _ q => hreset q) _ hstart
  obtain ⟨u, t, hok, hk, hrestated⟩ := hrun
  exact ⟨t, hok, hk, hrestated⟩

/-! ## Passing on states -/

variable [HassStates η]

def publish (e : Fin 10) (bank : SwitchBank (HassOf η)) : SwitchBank (HassOf η) :=
  (scheduleUpdate e).after bank

variable [LawfulHassStates η]

/-- What is stored under the identifier of an entity. -/
def last (bank : SwitchBank (HassOf η)) (id : String) : Option Bool := stored bank.hass.hass id

theorem exists_scheduleUpdate (e : Fin 10) (bank : SwitchBank (HassOf η)) :
    ∃ hass', scheduleUpdate e bank = .ok () { bank with hass := { bank.hass with hass := hass' } } ∧
      stored hass' = Function.update bank.last (bank.uniqueId e)
        (some (bank.entities e).state) := by
  obtain ⟨hass', hok, hstored⟩ := LawfulHassStates.asyncScheduleUpdateHaState_stored
    (bank.uniqueId e) (bank.entities e).state bank.hass.hass
  have hself : HomeAssistant.asyncScheduleUpdateHaState e (bank.entities e).state bank.hass =
      .ok () { bank.hass with hass := hass' } := by
    simp only [HomeAssistant.asyncScheduleUpdateHaState, get_bind]
    exact zoom_ok hok
  exact ⟨hass', by simp only [scheduleUpdate, get_bind, zoom_ok hself], hstored⟩

/-- Passing on a state changes what is stored under one identifier, and nothing about the
entities. -/
structure Published (e : Fin 10) (bank bank' : SwitchBank (HassOf η)) : Prop where
  entities : bank'.entities = bank.entities
  addr : bank'.hass.addr = bank.hass.addr
  last : bank'.last = Function.update bank.last (bank.uniqueId e) (some (bank.entities e).state)

theorem scheduleUpdate_eq (e : Fin 10) (bank : SwitchBank (HassOf η)) :
    scheduleUpdate e bank = .ok () (bank.publish e) := by
  obtain ⟨hass', hok, _⟩ := exists_scheduleUpdate e bank
  rw [publish, after_ok hok, hok]

theorem published_publish (e : Fin 10) (bank : SwitchBank (HassOf η)) :
    Published e bank (bank.publish e) := by
  obtain ⟨hass', hok, hstored⟩ := exists_scheduleUpdate e bank
  rw [publish, after_ok hok]
  exact ⟨rfl, rfl, hstored⟩

/-- The state of an added entity is stored; under the other identifiers there is what was saved. -/
structure Stored (saved : String → Option Bool) (bank : SwitchBank (HassOf η)) : Prop where
  own : ∀ e, (bank.entities e).ownHass = (bank.entities e).hass
  last : ∀ e, bank.last (bank.uniqueId e) =
    if (bank.entities e).hass then some (bank.entities e).state else saved (bank.uniqueId e)

/-- The call passes on states of its own entities only, and the right ones. -/
structure Stores (saved : String → Option Bool) (bank bank' : SwitchBank (HassOf η)) : Prop where
  addr : bank'.hass.addr = bank.hass.addr
  frame : ∀ id, (∀ e, id ≠ bank.uniqueId e) → bank'.last id = bank.last id
  keeps : Stored saved bank → Stored saved bank'

theorem Stores.refl (bank : SwitchBank (HassOf η)) : Stores saved bank bank :=
  ⟨rfl, fun _ _ => rfl, id⟩

theorem Stores.trans (h : Stores saved bank bank') (h' : Stores saved bank' bank'') :
    Stores saved bank bank'' := by
  refine ⟨h'.addr.trans h.addr, fun id hid => ?_, fun hs => h'.keeps (h.keeps hs)⟩
  have hid' : ∀ e, id ≠ bank'.uniqueId e := by
    intro e
    rw [uniqueId, h.addr]
    exact hid e
  exact (h'.frame id hid').trans (h.frame id hid)

theorem frame_publish {e : Fin 10} (ha : bank'.hass = bank.hass) {id : String}
    (hid : ∀ e, id ≠ bank.uniqueId e) : (bank'.publish e).last id = bank.last id := by
  have hne : id ≠ bank'.uniqueId e := by
    rw [uniqueId, ha]
    exact hid e
  rw [(published_publish e bank').last, Function.update_of_ne hne, last, ha]
  rfl

/-- An entity that has been changed, and was or is now added, has its state passed on. -/
theorem stores_publish {e : Fin 10} (ha : bank'.hass = bank.hass)
    (hother : ∀ i, i ≠ e → bank'.entities i = bank.entities i)
    (hown : (bank'.entities e).ownHass = true) (hhass : (bank'.entities e).hass = true) :
    Stores saved bank (bank'.publish e) := by
  have hp : Published e bank' (bank'.publish e) := published_publish e bank'
  have haddr : (bank'.publish e).hass.addr = bank.hass.addr :=
    hp.addr.trans (congrArg HassOf.addr ha)
  have hids : ∀ i, (bank'.publish e).uniqueId i = bank.uniqueId i := by
    intro i
    rw [uniqueId, haddr]
    rfl
  have hids' : ∀ i, bank'.uniqueId i = bank.uniqueId i := by
    intro i
    rw [uniqueId, ha]
    rfl
  refine ⟨haddr, fun id hid => frame_publish ha hid, fun hs => ⟨fun i => ?_, fun i => ?_⟩⟩
  · rw [hp.entities]
    by_cases hi : i = e
    · rw [hi, hown, hhass]
    · rw [hother i hi]
      exact hs.own i
  · rw [hids, hp.last, hp.entities, hids']
    by_cases hi : i = e
    · subst hi
      rw [Function.update_self, hhass]
      rfl
    · -- the other entities publish under identifiers of their own
      have hne : bank.uniqueId i ≠ bank.uniqueId e := fun h => hi (idText_entity_inj h).2
      have hlast : bank'.last = bank.last := by
        unfold last
        rw [ha]
      rw [Function.update_of_ne hne, hlast, hother i hi]
      exact hs.last i

/-- What `_update_state` and `_on_device_state_change` do to an entity: the state is stored, and
written out if the entity has been added. -/
def showState (e : Fin 10) (b p : Bool) (bank : SwitchBank (HassOf η)) :
    SwitchBank (HassOf η) :=
  if p then (bank.setEntity e fun self => { self with state := b }).publish e
  else bank.setEntity e fun self => { self with state := b }

theorem stores_showState (e : Fin 10) (b : Bool) {p : Bool}
    (hp : Stored saved bank → p = (bank.entities e).hass) :
    Stores saved bank (bank.showState e b p) := by
  let f (self : EctoChannelSwitch) : EctoChannelSwitch := { self with state := b }
  have hown : ∀ i, ((bank.setEntity e f).entities i).ownHass = (bank.entities i).ownHass :=
    fun i => setEntity_attr (f := f) EctoChannelSwitch.ownHass (fun _ => rfl) e i bank
  have hhass : ∀ i, ((bank.setEntity e f).entities i).hass = (bank.entities i).hass :=
    fun i => setEntity_attr (f := f) EctoChannelSwitch.hass (fun _ => rfl) e i bank
  unfold showState
  cases p with
  | true =>
    have hpub : Published e (bank.setEntity e f) ((bank.setEntity e f).publish e) :=
      published_publish e _
    refine ⟨hpub.addr, fun id hid => frame_publish rfl hid, fun hs => ?_⟩
    have he : (bank.entities e).hass = true := (hp hs).symm
    have hset : Stores saved bank ((bank.setEntity e f).publish e) := by
      refine stores_publish rfl (fun i hi => setEntity_of_ne hi f bank) ?_ ?_
      · rw [hown, hs.own, he]
      · rw [hhass, he]
    exact hset.keeps hs
  | false =>
    -- an entity that is not added does not publish, and its state may change
    refine ⟨rfl, fun _ _ => rfl, fun hs => ⟨fun i => ?_, fun i => ?_⟩⟩
    · show ((bank.setEntity e f).entities i).ownHass = ((bank.setEntity e f).entities i).hass
      rw [hown, hhass]
      exact hs.own i
    · show bank.last (bank.uniqueId i) = if ((bank.setEntity e f).entities i).hass then
        some ((bank.setEntity e f).entities i).state else saved (bank.uniqueId i)
      rw [hs.last i, hhass]
      by_cases hi : i = e
      · subst hi
        rw [← hp hs]
        rfl
      · rw [setEntity_of_ne hi]

/-! ## Calls of the entities -/

theorem moves_onDeviceStateChange (e : Fin 10) (channel state : ℤ) :
    Moves (Stores saved)
      (onDeviceStateChange e channel state : PyM (SwitchBank (HassOf η)) Unit) := by
  intro bank
  have hafter : (onDeviceStateChange e channel state).after bank =
      if channel = (bank.entities e).channel then
        bank.showState e (truthy state) (bank.entities e).ownHass
      else bank := by
    unfold onDeviceStateChange showState
    rw [after_get_bind]
    by_cases hc : channel = (bank.entities e).channel
    · rw [if_pos hc, if_pos hc, after_modify_bind]
      cases (bank.entities e).ownHass <;> rfl
    · rw [if_neg hc, if_neg hc]
      rfl
  rw [hafter]
  split_ifs
  · exact stores_showState e _ fun hd => hd.own e
  · exact .refl bank

theorem moves_stores_updateState (e : Fin 10) (b : Bool) :
    Moves (fun p q => Stores saved p.2 q.2)
      (updateState e b : PyM (δ × SwitchBank (HassOf η)) Unit) := by
  rintro ⟨d, bank⟩
  cases hd : (SwitchDevice.setSwitchState (bank.entities e).channel b.toInt : PyM δ Unit) d with
  | error x d' =>
    -- the device has raised, and the entity is left as it was
    have hafter : (updateState e b).after (d, bank) = (d', bank) := by
      unfold updateState
      rw [after_get_bind]
      cases b
      · exact after_error (bind_error (first_error hd))
      · exact after_error (bind_error (first_error hd))
    rw [hafter]
    exact .refl bank
  | ok u d' =>
    have hstate : (second (modify (setEntity e fun self => { self with state := b }))) (d', bank) =
        .ok ⟨⟩ (d', bank.setEntity e fun self => { self with state := b }) := second_ok rfl
    have hafter : (updateState e b).after (d, bank) =
        ((if (bank.entities e).hass then second (scheduleUpdate e) else pure ()).after
          (d', bank.setEntity e fun self => { self with state := b })) := by
      cases b
      · exact (after_bind_ok (first_ok hd)).trans (after_bind_ok hstate)
      · exact (after_bind_ok (first_ok hd)).trans (after_bind_ok hstate)
    have hshow : (updateState e b).after (d, bank) =
        (d', bank.showState e b (bank.entities e).hass) := by
      rw [hafter, showState]
      cases (bank.entities e).hass with
      | true => exact after_second ..
      | false => rfl
    rw [hshow]
    exact stores_showState e b fun _ => rfl

theorem stores_addToHass (ht : Takes K) {d : δ} (hd : K d) (hc : (bank.entities e).channel = e)
    (lastState : Option (Option String)) :
    Stores saved bank ((NodeSystem.addToHass e lastState).after (d, bank)).2 := by
  obtain ⟨t, hok, _, ha, b, he⟩ := addEntity_ok ht hd hc lastState
  have hafter : (NodeSystem.addToHass e lastState).after (d, bank) = (t.1, t.2.publish e) := by
    unfold NodeSystem.addToHass
    rw [after_bind_ok hok, after_second, after_ok (scheduleUpdate_eq e t.2)]
  rw [hafter]
  refine stores_publish ha (fun i hi => ?_) ?_ ?_
  · rw [he, setEntity_of_ne hi, setEntity_of_ne hi]
  · rw [he, setEntity_self, setEntity_self]
  · rw [he, setEntity_self, setEntity_self]

end SwitchBank

/-! ## Devices -/

namespace EctoRelay10CH
open PyM SwitchBank
variable {σ η : Type} [HassStates η] [LawfulHassStates η]
  {saved : String → Option Bool}

theorem moves_stores_updateChannel (callbacks : Fin 10 → Option (Fin 10)) (i : Fin 10) (s : ℤ) :
    Moves (fun p q => Stores saved p.2 q.2) (updateChannel
      (SwitchBank.invoke : Call (Fin 10) → PyM (SwitchBank (HassOf η)) Unit) callbacks i s) := by
  have hr : ∀ p : (Fin 10 → ℤ) × SwitchBank (HassOf η), Stores saved p.2 p.2 :=
    fun p => .refl p.2
  have htrans : ∀ p q r : (Fin 10 → ℤ) × SwitchBank (HassOf η),
      Stores saved p.2 q.2 → Stores saved q.2 r.2 → Stores saved p.2 r.2 :=
    fun _ _ _ h h' => h.trans h'
  apply Moves.bind htrans (moves_get hr)
  intro p
  dsimp only
  split_ifs
  · apply Moves.bind htrans (fun p => Stores.refl p.2)
    intro _
    rcases callbacks i with _ | k
    · exact Moves.pure hr true
    · exact Moves.bind htrans (moves_onDeviceStateChange k _ _).second fun _ => Moves.pure hr true
  · exact Moves.pure hr false

variable [ModbusSlave σ]

theorem moves_stores_sync : Moves (fun p q => Stores saved p.2 q.2)
    (syncChannelsFromRegister SwitchBank.invoke :
      PyM (EctoRelay10CH σ (Fin 10) × SwitchBank (HassOf η)) Bool) := by
  have hr : ∀ p : EctoRelay10CH σ (Fin 10) × SwitchBank (HassOf η), Stores saved p.2 p.2 :=
    fun p => .refl p.2
  have htrans : ∀ p q r : EctoRelay10CH σ (Fin 10) × SwitchBank (HassOf η),
      Stores saved p.2 q.2 → Stores saved q.2 r.2 → Stores saved p.2 r.2 :=
    fun _ _ _ h h' => h.trans h'
  have hparse : ∀ value, Moves (fun p q => Stores saved p.2 q.2) (parse SwitchBank.invoke value :
      PyM (EctoRelay10CH σ (Fin 10) × SwitchBank (HassOf η)) Bool) := by
    intro value p
    have hafter : (parse SwitchBank.invoke value).after p = _ :=
      after_zoom _ _ (parseValue SwitchBank.invoke p.1.stateChangeCallbacks value) p
    rw [hafter, parseValue_eq]
    have hr' : ∀ q : (Fin 10 → ℤ) × SwitchBank (HassOf η), Stores saved q.2 q.2 :=
      fun q => .refl q.2
    have htrans' : ∀ q r t : (Fin 10 → ℤ) × SwitchBank (HassOf η),
        Stores saved q.2 r.2 → Stores saved r.2 t.2 → Stores saved q.2 t.2 :=
      fun _ _ _ h h' => h.trans h'
    -- ten rounds at most, each of which publishes one entity or none
    refine Moves.foldlM hr' htrans' (fun changed i => ?_) (List.finRange 10) false
      (p.1.channels, p.2)
    exact Moves.bind htrans' (moves_stores_updateChannel _ i _) fun _ => Moves.pure hr' _
  refine Moves.bind htrans (fun p => ?_) fun values => ?_
  · rw [after_first]
    exact .refl p.2
  · rcases values with _ | ⟨value, rest⟩
    · exact Moves.pure hr false
    · exact hparse value

variable [LawfulModbusSlave σ]

theorem takes : Takes fun d : EctoRelay10CH σ (Fin 10) => ∃ v, Models d v where
  setSwitchState c b := by
    rintro d ⟨v, hv⟩
    obtain ⟨d', hok, hv'⟩ := setSwitchState_models hv c b.toInt
    exact ⟨(), d', hok, _, hv'⟩
  setCallback := by
    rintro register hregister c k d ⟨v, hv⟩
    cases hregister
    obtain ⟨d', hok, hv'⟩ := setStateChangeCallback_models hv c k
    exact ⟨(), d', hok, _, hv'⟩

end EctoRelay10CH

namespace EctoCH10BinarySensor
open PyM SwitchBank
variable {σ : Type} [ModbusSlave σ] [LawfulModbusSlave σ]

theorem takes : Takes fun d : EctoCH10BinarySensor σ => ∃ switch, Holds d switch where
  setSwitchState c b := by
    rintro d ⟨switch, h⟩
    obtain ⟨d', hok, h'⟩ := setSwitchState_holds h c (toInt_bit b)
    exact ⟨(), d', hok, _, h'⟩
  setCallback := by
    rintro register hregister
    cases hregister

end EctoCH10BinarySensor

namespace NodeSystem
open PyM SwitchBank
variable {σ η : Type} [ModbusSlave σ] [LawfulModbusSlave σ] [HassStates η] [LawfulHassStates η]
  {saved : String → Option Bool}

theorem stores_call (float : String → Except PyException PyFloat)
    {s : State σ (HassOf η)} {p : Panel} (h : Shows s p) (a : Action) :
    Stores saved s.2 ((call float a).after s).2 := by
  have hupdate : ∀ (e : Fin 10) (b : Bool), Stores saved s.2
      ((onSwitchDevice (updateState e b) (updateState e b)).after s).2 := by
    intro e b
    rcases h with h | h | h
    · rename_i d bank v added
      rw [after_onSwitchDevice_relay]
      exact moves_stores_updateState e b (d, bank)
    · rename_i d bank info places shown hi
      rw [after_onSwitchDevice_sensor]
      exact moves_stores_updateState e b (d, bank)
    · exact .refl _
  cases a with
  | addEntity e lastState =>
    rcases h with h | h | h
    · rw [call, after_onSwitchDevice_relay]
      exact stores_addToHass EctoRelay10CH.takes ⟨_, h.models⟩ (h.agree e).channel lastState
    · rw [call, after_onSwitchDevice_sensor]
      exact stores_addToHass EctoCH10BinarySensor.takes ⟨_, h.device⟩ (h.channel e) lastState
    · exact .refl _
  | turnOn e => exact hupdate e true
  | turnOff e => exact hupdate e false
  | stateChanged newState =>
    rcases h with h | h | h
    · exact .refl _
    · exact .refl _
    · rename_i d bank info tenths
      have hafter : (call float (.stateChanged newState)).after (.temperatureSensor d, bank) = _ :=
        after_asDevice .temperatureSensor d
          (first (EctoTemperatureSensor.stateChanged float newState))
          (.temperatureSensor d, bank)
      rw [hafter, after_first]
      exact .refl _
  | masterWrite a ws =>
    rw [after_masterWrite]
    exact .refl _
  | poll =>
    rcases h with h | h | h
    · rename_i d bank v added
      have hafter : (call float .poll).after (.relay10ch d, bank) = _ :=
        EctoCoordinator.after_updateDevice_relay SwitchBank.invoke d bank
      rw [hafter]
      exact EctoRelay10CH.moves_stores_sync (d, bank)
    · exact .refl _
    · exact .refl _

end NodeSystem

/-! ## The whole bus -/

namespace Node
variable {σ η : Type} {n : Node σ} {hass hass' : η}

/-- The entities of a node, under the Home Assistant they share with all others. -/
def bank (n : Node σ) (hass : η) : SwitchBank (HassOf η) := ⟨n.entities, ⟨n.addr, hass⟩⟩

variable [ModbusSlave σ] [LawfulModbusSlave σ] [HassStates η] [LawfulHassStates η]
variable {saved : String → Option Bool}

def Stored (saved : String → Option Bool) (n : Node σ) (hass : η) : Prop :=
  (∃ p, n.Shows p) ∧ SwitchBank.Stored saved (n.bank hass)

theorem Stored.congr (h : n.Stored saved hass)
    (hlast : ∀ e : Fin 10, stored hass' (Platform.idText (n.addr, e)) =
      stored hass (Platform.idText (n.addr, e))) : n.Stored saved hass' :=
  ⟨h.1, h.2.own, fun e => (hlast e).trans (h.2.last e)⟩

theorem stored_fresh {addr : ℕ} {device : Device σ (Fin 10)} (h : Device.InService addr device)
    (hass : η) : (fresh device).Stored (stored hass) hass :=
  ⟨⟨_, shows_fresh h⟩, fun _ => rfl, fun _ => rfl⟩

end Node

namespace BusSystem
open PyM SwitchBank
variable {σ η : Type}
variable {float : String → Except PyException PyFloat} {b : Bus σ η} {saved : String → Option Bool}
  {n n' z : Node σ} {hass hass' : η}

/-- The identifier belongs to none of the nodes. -/
def Foreign (ns : List (Node σ)) (id : String) : Prop :=
  ∀ n ∈ ns, ∀ e : Fin 10, id ≠ Platform.idText (n.addr, e)

theorem Foreign.congr {ns ns' : List (Node σ)} {id : String} (h : Foreign ns' id)
    (haddr : ns'.map Node.addr = ns.map Node.addr) : Foreign ns id := by
  intro n hn
  have hmem : n.addr ∈ ns'.map Node.addr := by
    rw [haddr]
    exact List.mem_map_of_mem hn
  obtain ⟨n', hn', heq⟩ := List.mem_map.1 hmem
  rw [← heq]
  exact h n' hn'

variable [ModbusSlave σ] [LawfulModbusSlave σ] [HassStates η] [LawfulHassStates η]

/-- What a call on one of the nodes does to it, and to what is stored for all of them. -/
structure Writes (n n' : Node σ) (hass hass' : η) : Prop where
  node : Keeps n n'
  stores : ∀ saved, (∃ p, n.Shows p) → Stores saved (n.bank hass) (n'.bank hass')

theorem writes_onNode (a : NodeSystem.Action) (n : Node σ) (hass : η) :
    Writes n ((onNode float a).after (n, hass)).1 hass ((onNode float a).after (n, hass)).2 := by
  have hkeeps := keeps_onNode float a n hass
  refine ⟨hkeeps, fun saved ⟨p, hp⟩ => ?_⟩
  have hcall : Stores saved _ _ :=
    NodeSystem.stores_call float (hp.state (⟨n.addr, hass⟩ : HassOf η)) a
  have haddr : ((onNode float a).after (n, hass)).1.addr = n.addr := hkeeps.device.addr
  have hbank : ((onNode float a).after (n, hass)).1.bank ((onNode float a).after (n, hass)).2 =
      ((NodeSystem.call float a).after (n.state (⟨n.addr, hass⟩ : HassOf η))).2 := by
    have hself : n.addr =
        ((NodeSystem.call float a).after (n.state (⟨n.addr, hass⟩ : HassOf η))).2.hass.addr :=
      hcall.addr.symm
    unfold Node.bank
    rw [haddr, after_onNode]
    nth_rewrite 2 [hself]
    rfl
  rw [hbank]
  exact hcall

theorem writes_onRouted (x : Action) (n : Node σ) (hass : η) :
    Writes n ((onRouted float x).after (n, hass)).1 hass
      ((onRouted float x).after (n, hass)).2 := by
  rw [after_onRouted]
  cases n.route x with
  | none => exact ⟨.refl n, fun _ _ => .refl _⟩
  | some a => exact writes_onNode a n hass

theorem Writes.stored (h : Writes n n' hass hass') (hn : n.Stored saved hass) :
    n'.Stored saved hass' :=
  ⟨h.node.shows hn.1, (h.stores saved hn.1).keeps hn.2⟩

/-- Nodes at other addresses have other identifiers. -/
theorem Writes.frame (h : Writes n n' hass hass') (hn : ∃ p, n.Shows p) (hz : z.addr ≠ n.addr)
    (hs : z.Stored saved hass) : z.Stored saved hass' :=
  hs.congr fun _ => (h.stores saved hn).frame _ fun _ he => hz (idText_entity_inj he).1

/-- The states of the nodes are stored, and nothing else has been stored since `saved`. -/
structure AllStored (saved : String → Option Bool) (b : Bus σ η) : Prop where
  own : ∀ n ∈ b.nodes, n.Stored saved b.hass
  other : ∀ id, Foreign b.nodes id → stored b.hass id = saved id

theorem allStored_each {body : PyM (Node σ × η) Unit}
    (h : ∀ n hass, Writes n (body.after (n, hass)).1 hass (body.after (n, hass)).2)
    {ns : List (Node σ)} {hass : η} (hns : (ns.map Node.addr).Nodup)
    (hb : AllStored saved ⟨ns, hass⟩) :
    AllStored saved ⟨((each body).after (ns, hass)).1, ((each body).after (ns, hass)).2⟩ := by
  have hkeeps := forall₂_after_each Keeps.refl (fun n hass => (h n hass).node) ns hass
  refine ⟨?_, fun id hid => ?_⟩
  · exact (each_frame (fun n hass => (h n hass).node.device.addr)
      (fun n hass hn => (h n hass).stored hn)
      (fun n z hass hn hz hs => (h n hass).frame hn.1 hz hs) hns hb.own).1
  · have hid' : Foreign ns id := hid.congr (map_addr_of_keeps hkeeps)
    refine (world_after_each (Q := fun v : η => stored v id = stored hass id)
      (fun n hn v hv => ?_) rfl).trans (hb.other id hid')
    exact (((h n v).stores saved (hb.own n hn).1).frame id (hid' n hn)).trans hv

theorem allStored_step (x : Action) (hns : (b.nodes.map Node.addr).Nodup)
    (hb : AllStored saved b) : AllStored saved ((machine η float).step b x) := by
  have htask : AllStored saved
      ⟨((each (asTask (onRouted float x))).after (b.nodes, b.hass)).1,
        ((each (asTask (onRouted float x))).after (b.nodes, b.hass)).2⟩ := by
    refine allStored_each (fun n hass => ?_) hns hb
    rw [after_asTask]
    exact writes_onRouted x n hass
  cases x with
  | poll => exact allStored_each (fun n hass => writes_onNode .poll n hass) hns hb
  | _ => exact htask

theorem allStored_run (float : String → Except PyException PyFloat)
    (hns : (b.nodes.map Node.addr).Nodup) (hb : AllStored saved b) (as : List Action) :
    AllStored saved ((machine η float).run b as) := by
  induction as generalizing b with
  | nil => exact hb
  | cons x as ih =>
    refine ih ?_ (allStored_step x hns hb)
    rw [map_addr_of_keeps (keeps_step float b x)]
    exact hns

theorem allStored_of_init (float : String → Except PyException PyFloat) (hb : Init b)
    (as : List Action) : AllStored (stored b.hass) ((machine η float).run b as) := by
  apply allStored_run float hb.nodup
  refine ⟨fun n hn => ?_, fun _ _ => rfl⟩
  obtain ⟨addr, device, hd, rfl⟩ := hb.nodes n hn
  exact Node.stored_fresh hd b.hass

theorem AllStored.stored_eq (h : AllStored saved b) (hn : n ∈ b.nodes) (e : Fin 10) :
    stored b.hass (Platform.idText (n.addr, e)) =
      if (n.entities e).hass then some (n.entities e).isOn
      else saved (Platform.idText (n.addr, e)) :=
  (h.own n hn).2.last e

/-- At every moment Home Assistant has stored the state that each added entity has, and under all
other identifiers what it had stored before. -/
theorem display_run (hb : (machine η float).Init b) (as : List Action) :
    (∀ n ∈ ((machine η float).run b as).nodes, ∀ e : Fin 10,
        stored ((machine η float).run b as).hass (Platform.idText (n.addr, e)) =
          if (n.entities e).hass then some (n.entities e).isOn
          else stored b.hass (Platform.idText (n.addr, e))) ∧
      ∀ id, Foreign b.nodes id →
        stored ((machine η float).run b as).hass id = stored b.hass id := by
  have hrun := allStored_of_init float hb as
  have haddrs : (((machine η float).run b as).nodes).map Node.addr = b.nodes.map Node.addr :=
    map_addr_of_keeps (keeps_run float b as)
  exact ⟨fun n hn e => hrun.stored_eq hn e, fun id hid => hrun.other id (hid.congr haddrs.symm)⟩

theorem evening_display_run :
    (∀ n ∈ ((machine Display EctoTemperatureSensor.parsed).run bus₃ (evening 0)).nodes,
      ∀ e : Fin 10,
        ((machine Display EctoTemperatureSensor.parsed).run bus₃ (evening 0)).hass
            (Platform.idText (n.addr, e)) = if (n.entities e).hass then some (n.entities e).isOn
          else bus₃.hass (Platform.idText (n.addr, e))) ∧
      ∀ id, Foreign bus₃.nodes id →
        ((machine Display EctoTemperatureSensor.parsed).run bus₃ (evening 0)).hass id =
          bus₃.hass id := by
  have hinit : (machine Display EctoTemperatureSensor.parsed).Init bus₃ :=
    init_ofSetup fresh_start setup_start _
  exact display_run hinit (evening 0)

end BusSystem
end Ecto
