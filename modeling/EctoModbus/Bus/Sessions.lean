import EctoModbus.Bus.Display
import EctoModbus.Entity.BinarySensorRuns

/-! Home Assistant is restarted now and then. Servers and devices are then made anew, but the last
state of each entity is still stored, and an entity that is added again is told it. The entities of
contact sensors take it up: they never forget a command. -/

namespace Ecto
open Python Transition
open LawfulHassStates (stored restarted)

namespace Sessions
variable {σ η : Type} [ModbusSlave σ] [LawfulModbusSlave σ] [HassStates η] [LawfulHassStates η]

inductive Action where
  | call (x : BusSystem.Action)
  | restart
  deriving DecidableEq, Repr

/-- What `async_get_last_state` returns to an entity whose last state is stored. -/
def lastState (last : Option Bool) : Option (Option String) :=
  last.map fun on => some (BinarySensorSystem.stateText on)

/-- An entity is added in the last state that is stored for it. -/
def Restores (saved : String → Option Bool) : BusSystem.Action → Prop
  | .addEntity addr e state => state = lastState (saved (Platform.idText (addr, e)))
  | _ => True

instance (saved : String → Option Bool) (x : BusSystem.Action) : Decidable (Restores saved x) :=
  match x with
  | .addEntity _ _ _ => inferInstanceAs (Decidable (_ = _))
  | .turnOn _ _ => inferInstanceAs (Decidable True)
  | .turnOff _ _ => inferInstanceAs (Decidable True)
  | .stateChanged _ _ => inferInstanceAs (Decidable True)
  | .masterWrite _ _ _ => inferInstanceAs (Decidable True)
  | .poll => inferInstanceAs (Decidable True)

def Enabled (b : Bus σ η) : Action → Prop
  | .call x => BusSystem.Enabled b x ∧ Restores (stored b.hass) x
  | .restart => True

instance (b : Bus σ η) (a : Action) : Decidable (Enabled b a) :=
  match a with
  | .call _ => inferInstanceAs (Decidable (_ ∧ _))
  | .restart => inferInstanceAs (Decidable True)

/-- `fresh` makes the bus that `async_setup` leaves, in the Home Assistant that has been started. -/
def machine (fresh : η → Bus σ η) (float : String → Except PyException PyFloat) :
    Machine (Bus σ η) Action where
  Init b := ∃ hass, b = fresh hass
  Enabled := Enabled
  step b
    | .call x => (BusSystem.machine η float).step b x
    | .restart => fresh (restarted b.hass)

instance (fresh : η → Bus σ η) (float : String → Except PyException PyFloat)
    (b : Bus σ η) (a : Action) : Decidable ((machine fresh float).Enabled b a) :=
  inferInstanceAs (Decidable (Enabled b a))

/-- What has come to the bus since the last restart. -/
def session (as : List Action) : List BusSystem.Action :=
  as.foldl (fun xs a => match a with
    | .call x => xs ++ [x]
    | .restart => []) []

/-- What has come to it in all sessions. -/
def calls (as : List Action) : List BusSystem.Action := as.filterMap fun
  | .call x => some x
  | .restart => none

/-- The last command that each entity was given; when it is added without one, it is off. -/
def tell (told : Fin 10 → Option Bool) : NodeSystem.Action → Fin 10 → Option Bool
  | .addEntity e _ => Function.update told e (some ((told e).getD false))
  | .turnOn e => Function.update told e (some true)
  | .turnOff e => Function.update told e (some false)
  | _ => told

/-- What is stored for the entities of the device of an entry. -/
def lastOf (saved : String → Option Bool) (conf : DeviceConf) (e : Fin 10) : Option Bool :=
  saved (Platform.idText (conf.addr, e))

def told (saved : String → Option Bool) (conf : DeviceConf) (as : List Action) :
    Fin 10 → Option Bool :=
  (conf.history (calls as)).foldl tell (lastOf saved conf)

theorem session_append_call (as : List Action) (x : BusSystem.Action) :
    session (as ++ [.call x]) = session as ++ [x] := List.foldl_concat ..

theorem session_append_restart (as : List Action) : session (as ++ [.restart]) = [] :=
  List.foldl_concat ..

theorem told_append_call (saved : String → Option Bool) (conf : DeviceConf) (as : List Action)
    (x : BusSystem.Action) : told saved conf (as ++ [.call x]) =
      (BusSystem.route conf.addr conf.tracked x).elim (told saved conf as)
        (tell (told saved conf as)) := by
  have hcalls : calls (as ++ [.call x]) = calls as ++ [x] := List.filterMap_append
  have hhistory : conf.history (calls as ++ [x]) =
      conf.history (calls as) ++ (BusSystem.route conf.addr conf.tracked x).toList := by
    unfold DeviceConf.history
    rw [List.filterMap_append]
    congr 1
  unfold told
  rw [hcalls, hhistory, List.foldl_append]
  cases BusSystem.route conf.addr conf.tracked x <;> rfl

theorem told_append_restart (saved : String → Option Bool) (conf : DeviceConf) (as : List Action) :
    told saved conf (as ++ [.restart]) = told saved conf as := by
  have hcalls : calls (as ++ [.restart]) = calls as :=
    List.filterMap_append.trans (List.append_nil _)
  unfold told
  rw [hcalls]

theorem contactCommand_lastState (e : Fin 10) (shown : Option Bool) :
    Panel.contactCommand (.addEntity e (lastState shown)) = shown.map (e, ·) := by
  rcases shown with _ | _ | _ <;> rfl

end Sessions

/-! ## The entities of a contact sensor -/

namespace BinarySensorSystem
open SwitchBank
variable {σ η : Type} [ModbusSlave σ] [LawfulModbusSlave σ]
variable {s : State σ η} {switch : Fin 8 → Bool} {on : Fin 10 → Bool}

theorem hass_setEntity {f : EctoChannelSwitch → EctoChannelSwitch}
    (hf : ∀ self, (f self).hass = true) (e i : Fin 10) (bank : SwitchBank η) :
    ((bank.setEntity e f).entities i).hass = (decide (i = e) || (bank.entities i).hass) := by
  by_cases hi : i = e
  · rw [hi, setEntity_self, hf, decide_eq_true rfl, Bool.true_or]
  · rw [setEntity_of_ne hi, decide_eq_false hi, Bool.false_or]

theorem hass_after_addEntity (h : Tracks s switch on) (e i : Fin 10)
    (lastState : Option (Option String)) :
    (((addEntity e lastState).after s).2.entities i).hass =
      (decide (i = e) || (s.2.entities i).hass) := by
  let bank := s.2.setEntity e fun self => { self with hass := true, ownHass := true }
  have hbank : (bank.entities i).hass = (decide (i = e) || (s.2.entities i).hass) :=
    hass_setEntity (fun _ => rfl) e i s.2
  rw [after_addEntity]
  cases hc : (Action.addEntity e lastState).command with
  | none =>
    have hs : (syncFromDevice e : PyM (State σ η) Unit) = get >>= fun _ => pure () := rfl
    rw [restoreState_idle hc, hs, PyM.after_get_bind, PyM.after_pure]
    exact hbank
  | some x =>
    obtain ⟨e', b⟩ := x
    obtain rfl := Action.command_addEntity hc
    obtain ⟨d', hok, _⟩ := EctoCH10BinarySensor.setSwitchState_holds h.device e' (toInt_bit b)
    rw [h.channel e', after_restoreState hc hok]
    have hkeep : ∀ self : EctoChannelSwitch, { self with state := b }.hass = self.hass :=
      fun _ => rfl
    exact (setEntity_attr EctoChannelSwitch.hass hkeep e' i bank).trans hbank

variable [HomeAssistant η]

theorem hass_after_updateState (h : Tracks s switch on) (e i : Fin 10) (b : Bool) :
    (((updateState e b).after s).2.entities i).hass = (s.2.entities i).hass := by
  obtain ⟨d', hok, _⟩ := EctoCH10BinarySensor.setSwitchState_holds h.device e (toInt_bit b)
  rw [← h.channel e] at hok
  obtain ⟨_, he⟩ := after_updateState s.1 s.2 hok
  have hkeep : ∀ self : EctoChannelSwitch, { self with state := b }.hass = self.hass := fun _ => rfl
  rw [he]
  exact setEntity_attr EctoChannelSwitch.hass hkeep e i s.2

end BinarySensorSystem

namespace Panel
open EctoCH10BinarySensor

/-- The channels that share their place with no other have in it what their entities show. -/
def OwnPlaces (places : Fin 8 → Bool) (shown : Fin 10 → Bool) : Prop :=
  ∀ e : Fin 10, 2 ≤ e.val → e.val < 8 → places (slot e) = shown e

theorem slot_own {e c : Fin 10} (h2 : 2 ≤ e.val) (h8 : e.val < 8) (h : slot e = slot c) :
    e = c := by
  rw [BinarySensorSystem.slot_eq_iff, BinarySensorSystem.home_of_lt h8] at h
  have hval := congrArg Fin.val h
  simp only [BinarySensorSystem.home] at hval
  apply Fin.ext
  omega

theorem OwnPlaces.command {places : Fin 8 → Bool} {shown : Fin 10 → Bool}
    (h : OwnPlaces places shown) (c : Fin 10) (b : Bool) :
    OwnPlaces (Function.update places (slot c) b) (Function.update shown c b) := by
  intro e h2 h8
  by_cases hc : e = c
  · rw [hc, Function.update_self, Function.update_self]
  · have hslot : slot e ≠ slot c := fun h => hc (slot_own h2 h8 h)
    rw [Function.update_of_ne hslot, Function.update_of_ne hc]
    exact h e h2 h8

theorem ownPlaces_foldl (float : String → Except PyException PyFloat) (info : List ℤ)
    {places : Fin 8 → Bool} {shown : Fin 10 → Bool} (h : OwnPlaces places shown)
    (as : List NodeSystem.Action) :
    ∃ info' places' shown', as.foldl (step float) (.contacts info places shown) =
        .contacts info' places' shown' ∧ OwnPlaces places' shown' := by
  induction as generalizing info places shown with
  | nil => exact ⟨info, places, shown, rfl, h⟩
  | cons a as ih =>
    rw [List.foldl_cons, step]
    cases contactCommand a with
    | none => exact ih _ h
    | some x => exact ih _ (h.command x.1 x.2)

end Panel

namespace Node
open Sessions
variable {σ : Type}
variable {float : String → Except PyException PyFloat} {n : Node σ}
  {saved told : Fin 10 → Option Bool}
  {info : List ℤ} {places : Fin 8 → Bool} {shown : Fin 10 → Bool}

/-- An entity that was added shows what it was told. The others have been told nothing since what
is saved of them. -/
structure Recalls (saved told : Fin 10 → Option Bool) (n : Node σ) : Prop where
  added : ∀ e, (n.entities e).hass = true → told e = some (n.entities e).isOn
  new : ∀ e, (n.entities e).hass = false → told e = saved e ∧ (n.entities e).isOn = false

theorem recalls_fresh (device : Device σ (Fin 10)) (h : ∀ e, told e = saved e) :
    (fresh device).Recalls saved told := by
  refine ⟨fun e he => ?_, fun e _ => ⟨h e, rfl⟩⟩
  cases he

/-- A call in which entity `e` is told `b`, which has been added by then. -/
theorem Recalls.command (h : n.Recalls saved told) {n' : Node σ} {e : Fin 10} {b : Bool}
    (hhass : ∀ i, (n'.entities i).hass = (decide (i = e) || (n.entities i).hass))
    (hon : ∀ i, (n'.entities i).isOn = Function.update (fun i => (n.entities i).isOn) e b i) :
    n'.Recalls saved (Function.update told e (some b)) := by
  refine ⟨fun i hi => ?_, fun i hi => ?_⟩
  · rw [hon i]
    by_cases he : i = e
    · rw [he, Function.update_self, Function.update_self]
    · rw [hhass i, decide_eq_false he, Bool.false_or] at hi
      rw [Function.update_of_ne he, Function.update_of_ne he]
      exact h.added i hi
  · rw [hhass i, Bool.or_eq_false_iff, decide_eq_false_iff_not] at hi
    rw [hon i, Function.update_of_ne hi.1, Function.update_of_ne hi.1]
    exact h.new i hi.2

theorem Recalls.congr (h : n.Recalls saved told) {n' : Node σ}
    (hhass : ∀ i, (n'.entities i).hass = (n.entities i).hass)
    (hon : ∀ i, (n'.entities i).isOn = (n.entities i).isOn) : n'.Recalls saved told := by
  refine ⟨fun i hi => ?_, fun i hi => ?_⟩
  · rw [hhass i] at hi
    rw [hon i]
    exact h.added i hi
  · rw [hhass i] at hi
    rw [hon i]
    exact h.new i hi

variable [ModbusSlave σ] [LawfulModbusSlave σ]

def adds (i : Fin 10) : NodeSystem.Action → Bool
  | .addEntity e _ => i = e
  | _ => false

theorem hass_step (float : String → Except PyException PyFloat)
    (h : n.Shows (.contacts info places shown)) (a : NodeSystem.Action) (i : Fin 10) :
    (((machine float).step n a).entities i).hass = (adds i a || (n.entities i).hass) := by
  obtain ⟨device, entities⟩ := n
  cases h with
  | contacts h hi =>
    rename_i d
    cases a with
    | addEntity e lastState =>
      have hafter := NodeSystem.after_onSwitchDevice_sensor
        (NodeSystem.addToHass e lastState : PyM (EctoRelay10CH σ (Fin 10) × SwitchBank Unit) Unit)
        (NodeSystem.addToHass e lastState) d ⟨entities, ()⟩
      have hentities := (NodeSystem.entities_after_addToHass e lastState (d, ⟨entities, ()⟩)).2
      have hhass := BinarySensorSystem.hass_after_addEntity h e i lastState
      rw [← hentities] at hhass
      exact (congrArg (fun s => (s.2.entities i).hass) hafter).trans hhass
    | turnOn e =>
      have hafter := NodeSystem.after_onSwitchDevice_sensor
        (SwitchBank.asyncTurnOn e : PyM (EctoRelay10CH σ (Fin 10) × SwitchBank Unit) Unit)
        (SwitchBank.asyncTurnOn e) d ⟨entities, ()⟩
      exact (congrArg (fun s => (s.2.entities i).hass) hafter).trans
        (BinarySensorSystem.hass_after_updateState h e i true)
    | turnOff e =>
      have hafter := NodeSystem.after_onSwitchDevice_sensor
        (SwitchBank.asyncTurnOff e : PyM (EctoRelay10CH σ (Fin 10) × SwitchBank Unit) Unit)
        (SwitchBank.asyncTurnOff e) d ⟨entities, ()⟩
      exact (congrArg (fun s => (s.2.entities i).hass) hafter).trans
        (BinarySensorSystem.hass_after_updateState h e i false)
    | stateChanged newState => rfl
    | masterWrite a ws =>
      show (((NodeSystem.call float (.masterWrite a ws)).after _).2.entities i).hass = _
      rw [NodeSystem.after_masterWrite]
      rfl
    | poll => rfl

theorem Shows.isOn_eq (h : n.Shows (.contacts info places shown)) (e : Fin 10) :
    (n.entities e).isOn = shown e := by
  obtain ⟨_, _, hon⟩ := h.observed.entities
  exact hon e

theorem recalls_step (hn : n.Shows (.contacts info places shown)) (h : n.Recalls saved told)
    {a : NodeSystem.Action} (ha : n.Enabled a)
    (hlast : ∀ e state, a = .addEntity e state → state = lastState (saved e)) :
    ((machine float).step n a).Recalls saved (tell told a) := by
  have hstep : ((machine float).step n a).Shows _ := shows_step hn a
  have hhass := hass_step float hn a
  have hon := hstep.isOn_eq
  have hshown : (fun i => (n.entities i).isOn) = shown := funext hn.isOn_eq
  have hcommand : ∀ e b, Panel.contactCommand a = some (e, b) → ∀ i,
      (((machine float).step n a).entities i).isOn =
        Function.update (fun i => (n.entities i).isOn) e b i := by
    intro e b hc i
    rw [hon i, hc, hshown]
    rfl
  have hidle : Panel.contactCommand a = none → ∀ i,
      (((machine float).step n a).entities i).isOn = (n.entities i).isOn := by
    intro hc i
    rw [hon i, hc, hn.isOn_eq i]
    rfl
  cases a with
  | addEntity e state =>
    obtain ⟨hsaved, hoff⟩ := h.new e ha.2
    have hc := contactCommand_lastState e (saved e)
    rw [← hlast e state rfl] at hc
    apply h.command hhass
    rw [hsaved]
    cases hs : saved e with
    | none =>
      -- it is off already, and is left as it is
      rw [hs] at hc
      have hself : Function.update (fun i => (n.entities i).isOn) e false =
          fun i => (n.entities i).isOn := Function.update_eq_self_iff.2 hoff.symm
      intro i
      rw [hidle hc i]
      exact (congrFun hself i).symm
    | some b =>
      rw [hs] at hc
      exact hcommand e b hc
  | turnOn e =>
    refine h.command (fun i => ?_) (hcommand e true rfl)
    rw [hhass i]
    by_cases hi : i = e
    · rw [hi, show (n.entities e).hass = true from ha, Bool.or_true, Bool.or_true]
    · rw [decide_eq_false hi]
      rfl
  | turnOff e =>
    refine h.command (fun i => ?_) (hcommand e false rfl)
    rw [hhass i]
    by_cases hi : i = e
    · rw [hi, show (n.entities e).hass = true from ha, Bool.or_true, Bool.or_true]
    · rw [decide_eq_false hi]
      rfl
  | stateChanged newState => exact h.congr hhass (hidle rfl)
  | masterWrite a ws => exact h.congr hhass (hidle rfl)
  | poll => exact h.congr hhass (hidle rfl)

end Node

/-! ## The sessions -/

namespace DeviceConf
variable {conf : DeviceConf}

theorem panel_contacts (h : conf.type = .binarySensor10ch)
    (float : String → Except PyException PyFloat) (as : List BusSystem.Action) :
    ∃ info places shown, conf.panel float as = .contacts info places shown ∧
      Panel.OwnPlaces places shown := by
  unfold panel
  rw [h]
  exact Panel.ownPlaces_foldl float _ (fun _ _ _ => rfl) _

end DeviceConf

namespace Sessions
open Setup DeviceConf BusSystem
variable {ς σ η : Type} [ModbusSlave σ] [LawfulModbusSlave σ] [RtuServer ς σ] [LawfulRtuServer ς]
  [HassStates η] [LawfulHassStates η]
variable {float : String → Except PyException PyFloat} {confs : List DeviceConf}
  {s s' : Setup ς σ (Fin 10)} {saved : String → Option Bool} {hass : η} {as : List Action}
  {b : Bus σ η}

/-- The bus has come to where it is since the last restart, and the entities of the contact sensors
recall what they were told in all sessions, the first of which began with what was `saved`. -/
def Remembers (float : String → Except PyException PyFloat) (confs : List DeviceConf)
    (s' : Setup ς σ (Fin 10)) (saved : String → Option Bool) (as : List Action)
    (b : Bus σ η) : Prop :=
  ∃ hass, (BusSystem.machine η float).IsRun (ofSetup s' hass) (session as) ∧
    (BusSystem.machine η float).run (ofSetup s' hass) (session as) = b ∧
    List.Forall₂ (fun conf n => conf.type = .binarySensor10ch →
      n.Recalls (lastOf (stored hass) conf) (told saved conf as)) confs b.nodes

theorem route_addEntity {addr : ℕ} {tracked : Option String} {x : BusSystem.Action} {e : Fin 10}
    {state : Option (Option String)}
    (h : BusSystem.route addr tracked x = some (.addEntity e state)) :
    x = .addEntity addr e state := by
  cases x with
  | addEntity addr' e' state' =>
    simp only [BusSystem.route] at h
    split_ifs at h with haddr
    cases h
    rw [haddr]
  | _ =>
    simp only [BusSystem.route] at h
    try split_ifs at h
    all_goals cases h

/-- After a restart everything that was told before is stored. -/
theorem recalls_restart (hs : Fresh s) (h : setupDevices confs s = .ok () s') (hass : η)
    {ts : DeviceConf → Fin 10 → Option Bool} (ht : ∀ conf ∈ confs,
      conf.type = .binarySensor10ch → ∀ e, ts conf e = lastOf (stored hass) conf e) :
    List.Forall₂ (fun conf n => conf.type = .binarySensor10ch →
      n.Recalls (lastOf (stored hass) conf) (ts conf)) confs (ofSetup s' hass).nodes := by
  have hdevices := (complete_of_ok hs h).devices
  show List.Forall₂ _ confs (s'.ectoDevices.map Node.fresh)
  rw [List.forall₂_map_right_iff]
  apply (PyM.forall₂_and hdevices hdevices).imp
  rintro conf device ⟨hconf, _⟩ hc
  exact Node.recalls_fresh device (ht conf hconf hc)

theorem Remembers.start (hs : Fresh s) (h : setupDevices confs s = .ok () s') (hass : η) :
    Remembers float confs s' (stored hass) [] (ofSetup s' hass) :=
  ⟨hass, trivial, rfl, recalls_restart hs h hass fun _ _ _ _ => rfl⟩

/-- What is stored for an entity of a contact sensor is what it was told. -/
theorem lastOf_eq (hd : AllStored saved b) {n : Node σ} (hn : n ∈ b.nodes) {conf : DeviceConf}
    (haddr : n.addr = conf.addr) {ts : Fin 10 → Option Bool} (hr : n.Recalls (lastOf saved conf) ts)
    (e : Fin 10) : lastOf (stored b.hass) conf e = ts e := by
  have hstored := hd.stored_eq hn e
  rw [haddr] at hstored
  apply hstored.trans
  cases he : (n.entities e).hass with
  | true => exact (hr.added e he).symm
  | false => exact (hr.new e he).1.symm

/-- What the earlier results say of the session, beside what is recalled. -/
theorem session_history (hs : Fresh s) (h : setupDevices confs s = .ok () s')
    {xs : List BusSystem.Action} {ts : DeviceConf → Fin 10 → Option Bool}
    (hrun : (BusSystem.machine η float).IsRun (ofSetup s' hass) xs)
    (hb : (BusSystem.machine η float).run (ofSetup s' hass) xs = b)
    (hr : List.Forall₂ (fun conf n => conf.type = .binarySensor10ch →
      n.Recalls (lastOf (stored hass) conf) (ts conf)) confs b.nodes) :
    AllStored (stored hass) b ∧ List.Forall₂ (fun conf n => conf ∈ confs ∧ n ∈ b.nodes ∧
      (n.addr = conf.addr ∧ n.device.deviceClass = conf.type ∧
        n.route = BusSystem.route conf.addr conf.tracked ∧ n.Shows (conf.panel float xs)) ∧
      (conf.type = .binarySensor10ch → n.Recalls (lastOf (stored hass) conf) (ts conf)))
      confs b.nodes := by
  subst hb
  exact ⟨allStored_of_init float (init_ofSetup hs h hass) _,
    PyM.forall₂_and (forall₂_history (LawfulHassStates.neverRaises η) hs h hass hrun) hr⟩

theorem Remembers.call (hs : Fresh s) (h : setupDevices confs s = .ok () s')
    (hb : Remembers float confs s' saved as b) {x : BusSystem.Action} (hx : Enabled b (.call x)) :
    Remembers float confs s' saved (as ++ [.call x]) ((BusSystem.machine η float).step b x) := by
  obtain ⟨hass, hrun, hb, hrecalls⟩ := hb
  obtain ⟨hstored, hhistory⟩ := session_history hs h hrun hb hrecalls
  refine ⟨hass, ?_, ?_, ?_⟩
  · rw [session_append_call]
    apply (Machine.everyStep_append ..).2
    rw [hb]
    exact ⟨hrun, hx.1, trivial⟩
  · rw [session_append_call, Machine.run_append, hb]
    rfl
  · have hshows : ∀ n ∈ b.nodes, ∃ p, n.Shows p := fun n hn => (hstored.own n hn).1
    rw [step_nodes float (LawfulHassStates.neverRaises η) hshows x]
    show List.Forall₂ _ confs (b.nodes.map _)
    rw [List.forall₂_map_right_iff]
    apply hhistory.imp
    rintro conf n ⟨_, hn, ⟨haddr, _, hroute, hpanel⟩, hr⟩ hc
    obtain ⟨info, places, shown, hcontacts, _⟩ := panel_contacts hc float (session as)
    rw [hcontacts] at hpanel
    rw [told_append_call, hroute]
    cases ha : BusSystem.route conf.addr conf.tracked x with
    | none => exact hr hc
    | some a =>
      rw [← hroute] at ha
      have henabled : n.Enabled a := hx.1 n hn a ha
      -- Home Assistant gives an entity that is added the state stored for it
      apply Node.recalls_step hpanel (hr hc) henabled
      rintro e state rfl
      rw [hroute] at ha
      have hlast := hx.2
      rw [route_addEntity ha] at hlast
      have hsaved := hstored.stored_eq hn e
      rw [henabled.2, haddr] at hsaved
      exact hlast.trans (congrArg lastState hsaved)

theorem Remembers.restart (hs : Fresh s) (h : setupDevices confs s = .ok () s')
    (hb : Remembers float confs s' saved as b) :
    Remembers float confs s' saved (as ++ [.restart]) (ofSetup s' (restarted b.hass)) := by
  obtain ⟨hass, hrun, hb, hrecalls⟩ := hb
  obtain ⟨hstored, hhistory⟩ := session_history hs h hrun hb hrecalls
  refine ⟨restarted b.hass, ?_, ?_, recalls_restart hs h _ fun conf hconf hc e => ?_⟩
  · rw [session_append_restart]
    trivial
  · rw [session_append_restart]
    rfl
  · obtain ⟨n, _, _, hn, ⟨haddr, _⟩, hrecalls⟩ := PyM.exists_left_of_mem hhistory.flip hconf
    rw [told_append_restart, LawfulHassStates.stored_restarted]
    exact (lastOf_eq hstored hn haddr (hrecalls hc) e).symm

theorem Remembers.run (hs : Fresh s) (h : setupDevices confs s = .ok () s')
    (hb : Remembers float confs s' saved as b) {as' : List Action}
    (hr : (machine (ofSetup s') float).IsRun b as') :
    Remembers float confs s' saved (as ++ as') ((machine (ofSetup s') float).run b as') := by
  induction as' generalizing as b with
  | nil => rwa [List.append_nil]
  | cons a as' ih =>
    have hstep : Remembers float confs s' saved (as ++ [a])
        ((machine (ofSetup s') float).step b a) := by
      cases a with
      | call x => exact hb.call hs h hr.1
      | restart => exact hb.restart hs h
    have hrest := ih hstep hr.2
    rwa [List.append_assoc, List.singleton_append] at hrest

theorem bits_eq_one_iff {n : Node σ} {info : List ℤ} {places : Fin 8 → Bool}
    {shown : Fin 10 → Bool} (hn : n.Shows (.contacts info places shown))
    (hown : Panel.OwnPlaces places shown) {e : Fin 10}
    (h2 : 2 ≤ e.val) (h8 : e.val < 8) : n.bits e = 1 ↔ (n.entities e).isOn = true := by
  have hshown : BinarySensorSystem.shownBit places e = shown e :=
    (BinarySensorSystem.shownBit_of_lt h8).trans (hown e h2 h8)
  have hbits : n.bits e = (shown e).toInt := by
    rw [hn.bits_eq, ← hshown]
    exact BinarySensorSystem.wired_toInt places e
  rw [hbits, hn.isOn_eq]
  exact toInt_inj (b := true)

/-- However often Home Assistant is restarted, and whatever happens in between: a relay shows what
came to it since the last restart, whereas of an entity of a contact sensor the last command that it
was ever given is stored, is what it shows once it has been added again, and is then what the master
reads of it, if its channel has a place of its own. -/
theorem commands_survive (hs : Fresh s) (h : setupDevices confs s = .ok () s') (hass : η)
    (hr : (machine (ofSetup s') float).IsRun (ofSetup s' hass) as) :
    List.Forall₂ (fun conf n => n.addr = conf.addr ∧ n.Observed (conf.panel float (session as)) ∧
      (conf.type = .binarySensor10ch → ∀ e : Fin 10,
        lastOf (stored ((machine (ofSetup s') float).run (ofSetup s' hass) as).hass) conf e =
            told (stored hass) conf as e ∧
          ((n.entities e).hass = true → told (stored hass) conf as e = some (n.entities e).isOn ∧
            (2 ≤ e.val → e.val < 8 →
              (n.bits e = 1 ↔ told (stored hass) conf as e = some true))))) confs
      ((machine (ofSetup s') float).run (ofSetup s' hass) as).nodes := by
  obtain ⟨hass', hrun, hb, hrecalls⟩ := (Remembers.start hs h hass).run hs h hr
  obtain ⟨hstored, hhistory⟩ := session_history hs h hrun hb hrecalls
  apply hhistory.imp
  rintro conf n ⟨_, hn, ⟨haddr, _, _, hpanel⟩, hr⟩
  refine ⟨haddr, hpanel.observed, fun hc e => ⟨lastOf_eq hstored hn haddr (hr hc) e, fun he => ?_⟩⟩
  obtain ⟨info, places, shown, hcontacts, hown⟩ := panel_contacts hc float (session as)
  rw [List.nil_append, hcontacts] at hpanel
  have htold := (hr hc).added e he
  refine ⟨htold, fun h2 h8 => ?_⟩
  rw [bits_eq_one_iff hpanel hown h2 h8, show told (stored hass) conf as e = _ from htold]
  exact Option.some_inj.symm

def overnight (e : Fin 10) : List Action :=
  [.call (.addEntity 4 e none), .call (.addEntity 3 e none), .call (.turnOn 4 e),
    .call (.turnOn 3 e), .restart, .call .poll, .call (.addEntity 4 e (some (some "on"))),
    .call (.addEntity 3 e (some (some "on")))]

/-- The contact sensor comes back switched on. -/
theorem overnight_commands_survive :
    ∃ n ∈ ((machine (ofSetup setup₃) EctoTemperatureSensor.parsed).run bus₃ (overnight 2)).nodes,
      n.addr = 4 ∧ n.bits 2 = 1 := by
  have hr : (machine (ofSetup setup₃) EctoTemperatureSensor.parsed).IsRun bus₃ (overnight 2) := by
    decide +kernel
  have hadded : ∃ n ∈ ((machine (ofSetup setup₃) EctoTemperatureSensor.parsed).run bus₃
      (overnight 2)).nodes, n.addr = 4 ∧ (n.entities 2).hass = true := by decide +kernel
  have htold : ∀ conf ∈ confs₃, conf.addr = 4 → conf.type = .binarySensor10ch ∧
      told (fun _ => none) conf (overnight 2) 2 = some true := by decide +kernel
  obtain ⟨n, hn, haddr, hhass⟩ := hadded
  have hall : List.Forall₂ _ confs₃ _ :=
    commands_survive (η := Display) fresh_start setup_start (fun _ => none) hr
  obtain ⟨conf, hconf, hconfaddr, _, hcontacts⟩ := PyM.exists_left_of_mem hall hn
  obtain ⟨hc, ht⟩ := htold conf hconf (hconfaddr.symm.trans haddr)
  exact ⟨n, hn, haddr, (((hcontacts hc 2).2 hhass).2 le_rfl (by decide)).2 ht⟩

end Sessions
end Ecto
