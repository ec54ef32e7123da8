import EctoModbus.Bus.Bus
import EctoModbus.Bus.Board

/-! From the configuration to what the bus shows. Once `async_setup` has got through its devices,
registers and entities follow from the configuration and from what has come to the bus. -/

namespace Ecto
open Python Transition

namespace DeviceConf

def tracked (conf : DeviceConf) : Option String :=
  if conf.type = .temperatureSensor then conf.entityId.filter (· ≠ "") else none

/-- What of the bus concerns the device of an entry. -/
def history (conf : DeviceConf) (as : List BusSystem.Action) : List NodeSystem.Action :=
  as.filterMap (BusSystem.route conf.addr conf.tracked)

def panel (float : String → Except PyException PyFloat) (conf : DeviceConf)
    (as : List BusSystem.Action) : Panel :=
  (conf.history as).foldl (Panel.step float) (Panel.fresh conf.addr conf.type)

end DeviceConf

namespace Node
variable {σ : Type} [ModbusSlave σ] [LawfulModbusSlave σ] {n : Node σ} {p : Panel}

/-- The entities of a relay show its copy of the states once they have been added. -/
def EntitiesShow (n : Node σ) : Panel → Prop
  | .relay r => ∃ d, n.device = .relay10ch d ∧
      ∀ e, (n.entities e).hass = true → (n.entities e).isOn = truthy (r.copy e)
  | .contacts _ _ shown => ∃ d, n.device = .binarySensor10ch d ∧ ∀ e, (n.entities e).isOn = shown e
  | .thermometer _ _ => ∃ d, n.device = .temperatureSensor d

/-- The panel is what a master reads in the registers of the device, all of them, and what its
entities show. -/
structure Observed (n : Node σ) (p : Panel) : Prop where
  registers : (table n.device.base.slave).blocks = p.registers
  entities : n.EntitiesShow p

theorem Shows.observed (h : n.Shows p) : n.Observed p := by
  refine ⟨NodeSystem.Shows.registers_eq h, ?_⟩
  obtain ⟨device, entities⟩ := n
  rcases h with h | ⟨h, _⟩ | h
  · exact ⟨_, rfl, fun e he => (h.agree e).shown ((h.agree e).hass.symm.trans he)⟩
  · exact ⟨_, rfl, h.shown⟩
  · exact ⟨_, rfl⟩

/-- The channels a master reads in the state register. -/
def bits (n : Node σ) : Fin 10 → ℤ :=
  match n.device with
  | .relay10ch d => decode d.word
  | .binarySensor10ch d => decode d.word
  | .temperatureSensor _ => fun _ => 0

theorem Shows.bits_eq (h : n.Shows p) : n.bits = p.cells := by
  obtain ⟨device, entities⟩ := n
  rcases h with h | ⟨h, _⟩ | h
  · show decode _ = decode _
    rw [h.models.word_eq]
    rfl
  · show decode _ = EctoCH10BinarySensor.wired _
    rw [h.device.word_eq, EctoCH10BinarySensor.decode_stored h.device.bits]
  · rfl

theorem Shows.isOn_iff (h : n.Shows p) (hp : p.shown = p.cells)
    (hn : Platform.isSwitchDevice n.device = true) {e : Fin 10} (he : (n.entities e).hass = true) :
    (n.entities e).isOn = true ↔ n.bits e = 1 := by
  rw [h.bits_eq, ← hp]
  obtain ⟨device, entities⟩ := n
  rcases h with h | h | h
  · have hshown := (h.agree e).shown ((h.agree e).hass.symm.trans he)
    show (entities e).state = true ↔ _
    rw [hshown]
    exact truthy_iff_of_bit (h.agree e).bit
  · have hshown := h.shown e
    show (entities e).state = true ↔ Bool.toInt _ = 1
    rw [hshown]
    exact toInt_inj.symm
  · cases hn

end Node

namespace BusSystem
open PyM Setup DeviceConf
variable {ς σ η : Type} [ModbusSlave σ] [LawfulModbusSlave σ] [RtuServer ς σ] [LawfulRtuServer ς]
  [HassStates η]
variable {float : String → Except PyException PyFloat} {confs : List DeviceConf}
  {s s' : Setup ς σ (Fin 10)}

theorem tracked_of_built {conf : DeviceConf} {device : Device σ (Fin 10)} (h : Built conf device) :
    device.tracked = conf.tracked := by
  obtain ⟨slave, d, entityId, hs, hd, ha⟩ := h
  unfold DeviceConf.construct at hd
  unfold DeviceConf.tracked
  cases ht : conf.type with
  | relay10ch =>
    rw [ht] at hd
    obtain ⟨d', _, hd'⟩ := bind_eq_ok hd
    cases hd'
    cases ha
    rfl
  | binarySensor10ch =>
    rw [ht] at hd
    obtain ⟨d', _, hd'⟩ := bind_eq_ok hd
    cases hd'
    cases ha
    rfl
  | temperatureSensor =>
    rw [ht] at hd
    obtain ⟨d', hinit, hd'⟩ := bind_eq_ok hd
    cases hd'
    obtain ⟨id', hok⟩ := EctoTemperatureSensor.asyncInit_ok d'
    have hd'' : Device.asyncInit (.temperatureSensor d' : Device σ (Fin 10)) =
        .ok id' (.temperatureSensor { d' with hass := true }) := by
      simp only [Device.asyncInit, hok]
    rw [hd''] at ha
    cases ha
    rw [if_pos rfl, ← EctoTemperatureSensor.entityId_of_init hinit]
    rfl

/-- A node of the bus is the one of its entry, and has gone through the history of that. -/
theorem forall₂_history (hh : HassStates.NeverRaises η) (hs : Fresh s)
    (h : setupDevices confs s = .ok () s') (hass : η) {as : List Action}
    (hr : (machine η float).IsRun (ofSetup s' hass) as) :
    List.Forall₂ (fun conf n => n.addr = conf.addr ∧ n.device.deviceClass = conf.type ∧
        n.route = BusSystem.route conf.addr conf.tracked ∧ n.Shows (conf.panel float as)) confs
      ((machine η float).run (ofSetup s' hass) as).nodes := by
  have hc := (complete_of_ok hs h).devices
  -- each node goes through the actions that are routed to it
  rw [nodes_run hh (init_ofSetup hs h hass) hr]
  show List.Forall₂ _ confs ((s'.ectoDevices.map Node.fresh).map _)
  rw [List.map_map, List.forall₂_map_right_iff]
  apply hc.imp
  intro conf device hcd
  have hroute : (Node.fresh device).route = BusSystem.route conf.addr conf.tracked := by
    rw [← hcd.1.fields.1, ← tracked_of_built hcd.1]
    rfl
  have hshows := Node.shows_fresh (inService_of_built hcd.1)
  rw [hcd.1.fields.2] at hshows
  have hrun := Node.shows_run float hshows (conf.history as)
  show Node.addr ((Node.machine float).run (Node.fresh device)
    (as.filterMap (Node.fresh device).route)) = _ ∧ _
  rw [Function.comp_apply, hroute]
  have hsame := Node.sameDevice_run float (Node.fresh device) (conf.history as)
  have haddr : ((Node.machine float).run (Node.fresh device) (conf.history as)).addr = conf.addr :=
    hsame.addr.trans hcd.1.fields.1
  have hsteady : ((Node.machine float).run (Node.fresh device) (conf.history as)).route =
      BusSystem.route conf.addr conf.tracked := by
    unfold Node.route
    rw [haddr, hsame.tracked]
    exact congrArg _ (tracked_of_built hcd.1)
  exact ⟨haddr, hsame.deviceClass.trans hcd.1.fields.2, hsteady, hrun⟩

/-- What a master reads of every device and what its entities show is what the panel of its entry in
the configuration has come to. -/
theorem shows_configuration (hh : HassStates.NeverRaises η) (hs : Fresh s)
    (h : setupDevices confs s = .ok () s') (hass : η) {as : List Action}
    (hr : (machine η float).IsRun (ofSetup s' hass) as) :
    List.Forall₂ (fun conf n => n.addr = conf.addr ∧ n.device.deviceClass = conf.type ∧
        n.Observed (conf.panel float as)) confs
      ((machine η float).run (ofSetup s' hass) as).nodes :=
  (forall₂_history hh hs h hass hr).imp fun _ _ hn => ⟨hn.1, hn.2.1, hn.2.2.2.observed⟩

theorem evening_shows_configuration :
    List.Forall₂ (fun conf n => n.addr = conf.addr ∧ n.device.deviceClass = conf.type ∧
        n.Observed (conf.panel EctoTemperatureSensor.parsed (evening 0))) confs₃
      ((machine Display EctoTemperatureSensor.parsed).run bus₃ (evening 0)).nodes :=
  shows_configuration display_neverRaises fresh_start setup_start (fun _ => none) isRun_evening

/-- Where no command comes between a master's write and the next poll, and none for a channel
without a place, a device has one state for each channel: a master reads it, and the entities show
it from the next poll on. -/
theorem follows_board (hh : HassStates.NeverRaises η) (hs : Fresh s)
    (h : setupDevices confs s = .ok () s') (hass : η) {as : List Action}
    (hr : (machine η float).IsRun (ofSetup s' hass) as) :
    List.Forall₂ (fun conf n =>
        (Board.watch conf.type).IsRun true (conf.history as) →
          n.bits = Board.cells conf.type (conf.history as) ∧
          (conf.type ≠ .temperatureSensor →
            (Board.watch conf.type).run true (conf.history as) = true →
            ∀ e, (n.entities e).hass = true →
              ((n.entities e).isOn = true ↔ Board.cells conf.type (conf.history as) e = 1))) confs
      ((machine η float).run (ofSetup s' hass) as).nodes := by
  apply (forall₂_history hh hs h hass hr).imp
  rintro conf n ⟨_, hclass, _, hn⟩ hw
  have hagrees := Panel.agrees_run float (Panel.agrees_fresh conf.addr conf.type) hw
  have hcells : n.bits = Board.cells conf.type (conf.history as) :=
    hn.bits_eq.trans hagrees.cells_eq
  refine ⟨hcells, fun hc hf e he => ?_⟩
  have hshown := (hagrees.shown_eq hf).trans hagrees.cells_eq.symm
  rw [← hcells]
  exact hn.isOn_iff hshown (Platform.isSwitchDevice_of_class hclass hc) he

/-- The master switches channel 1 on, and after the poll channel 0 is switched on beside it. -/
theorem evening_follows_board :
    (∀ n ∈ ((machine Display EctoTemperatureSensor.parsed).run bus₃ (evening 0)).nodes.head?,
      n.bits = fun c => if c.val < 2 then 1 else 0) ∧
    ∀ conf ∈ confs₃, (Board.watch conf.type).IsRun true (conf.history (evening 0)) := by
  have hw : ∀ conf ∈ confs₃, (Board.watch conf.type).IsRun true (conf.history (evening 0)) := by
    decide +kernel
  have hall : List.Forall₂ _ confs₃
      ((machine Display EctoTemperatureSensor.parsed).run (ofSetup setup₃ fun _ => none)
        (evening 0)).nodes :=
    follows_board display_neverRaises fresh_start setup_start (fun _ => none) isRun_evening
  refine ⟨fun n hn => ?_, hw⟩
  generalize hns :
    ((machine Display EctoTemperatureSensor.parsed).run bus₃ (evening 0)).nodes = ns at hn
  rw [show ofSetup _ _ = bus₃ from rfl, hns] at hall
  cases hall with
  | cons hrelay _ =>
    cases hn
    rw [(hrelay (hw _ List.mem_cons_self)).1]
    decide +kernel

end BusSystem
end Ecto
