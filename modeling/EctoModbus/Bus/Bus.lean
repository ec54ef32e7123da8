import EctoModbus.Bus.BusDefs
import EctoModbus.Bus.Panel

/-! Runs of the whole bus. As long as Home Assistant never raises, its devices run side by side,
each on the actions that concern it; what it shows then follows from its entry in the configuration
and the actions alone. -/

namespace Ecto
open Python Transition

namespace NodeSystem
variable {η η' σ : Type} [ModbusSlave σ] [LawfulModbusSlave σ]

/-- What a device shows is not kept in Home Assistant. -/
theorem Shows.congr {d : Device σ (Fin 10)} {bank : SwitchBank η} {bank' : SwitchBank η'}
    {p : Panel}
    (h : Shows (d, bank) p) (he : bank'.entities = bank.entities) : Shows (d, bank') p := by
  rcases h with h | ⟨h, hi⟩ | h
  · exact .relay (h.congr rfl he)
  · refine .contacts ⟨h.device, ?_, ?_⟩ hi
    · rw [he]
      exact h.channel
    · rw [he]
      exact h.shown
  · exact .thermometer h

end NodeSystem

namespace Node
variable {σ η : Type} [ModbusSlave σ] [LawfulModbusSlave σ]
variable {float : String → Except PyException PyFloat} {n : Node σ} {p : Panel}

def Shows (n : Node σ) (p : Panel) : Prop := NodeSystem.Shows (n.state ()) p

theorem Shows.state (h : n.Shows p) (hass : η) : NodeSystem.Shows (n.state hass) p :=
  NodeSystem.Shows.congr h rfl

theorem shows_ofState {s : NodeSystem.State σ η} (h : NodeSystem.Shows s p) :
    (Node.ofState s).Shows p := NodeSystem.Shows.congr h rfl

theorem neverRaises_unit : HomeAssistant.NeverRaises Unit := fun _ _ _ => ⟨(), rfl⟩

theorem shows_step (h : n.Shows p) (a : NodeSystem.Action) :
    ((machine float).step n a).Shows (p.step float a) :=
  shows_ofState (NodeSystem.shows_step neverRaises_unit h a)

theorem shows_run (float : String → Except PyException PyFloat) (h : n.Shows p)
    (as : List NodeSystem.Action) :
    ((machine float).run n as).Shows (as.foldl (Panel.step float) p) := by
  induction as generalizing n p with
  | nil => exact h
  | cons a as ih => exact ih (shows_step h a)

theorem shows_fresh {addr : ℕ} {device : Device σ (Fin 10)} (h : Device.InService addr device) :
    (fresh device).Shows (Panel.fresh addr device.deviceClass) := by
  obtain ⟨d₀, entityId, h₀, ha⟩ := h
  exact NodeSystem.shows_setUp h₀ ha ()

theorem sameDevice_step (float : String → Except PyException PyFloat) (n : Node σ)
    (a : NodeSystem.Action) :
    NodeSystem.SameDevice n.device ((machine float).step n a).device :=
  NodeSystem.sameDevice_call float a (n.state ())

theorem sameDevice_run (float : String → Except PyException PyFloat) (n : Node σ)
    (as : List NodeSystem.Action) :
    NodeSystem.SameDevice n.device ((machine float).run n as).device := by
  induction as generalizing n with
  | nil => exact .refl _
  | cons a as ih => exact (sameDevice_step float n a).trans (ih _)

theorem route_step (n : Node σ) (a : NodeSystem.Action) :
    ((machine float).step n a).route = n.route := by
  have h := sameDevice_step float n a
  have haddr : ((machine float).step n a).addr = n.addr := h.addr
  unfold Node.route
  rw [haddr, h.tracked]

end Node

namespace BusSystem
open PyM
variable {σ η : Type} [ModbusSlave σ]
variable {float : String → Except PyException PyFloat} {b : Bus σ η} {as : List Action}

section
variable [HassStates η]

theorem hassOf_neverRaises (hh : HassStates.NeverRaises η) :
    HomeAssistant.NeverRaises (HassOf η) := by
  intro e state self
  obtain ⟨hass', hok⟩ := hh (Platform.idText (self.addr, e)) state self.hass
  refine ⟨{ self with hass := hass' }, ?_⟩
  simp only [HomeAssistant.asyncScheduleUpdateHaState, get_bind, zoom_ok hok]

theorem after_onNode (a : NodeSystem.Action) (n : Node σ) (hass : η) :
    (onNode float a).after (n, hass) =
      let s := (NodeSystem.call float a).after (n.state (⟨n.addr, hass⟩ : HassOf η))
      (Node.ofState s, s.2.hass.hass) := after_zoom ..

theorem after_onRouted (x : Action) (n : Node σ) (hass : η) :
    (onRouted float x).after (n, hass) =
      (n.route x).elim (n, hass) fun a => (onNode float a).after (n, hass) := by
  unfold PyM.after onRouted
  cases n.route x <;> rfl

end

variable [LawfulModbusSlave σ]

theorem shows_of_init (h : Init b) : ∀ n ∈ b.nodes, ∃ p, n.Shows p := by
  intro n hn
  obtain ⟨addr, device, hd, rfl⟩ := h.nodes n hn
  exact ⟨_, Node.shows_fresh hd⟩

/-! ## From the set-up -/

section
open Setup DeviceConf
variable {ς : Type} [RtuServer ς σ] [LawfulRtuServer ς] {confs : List DeviceConf}
  {s s' : Setup ς σ (Fin 10)}

theorem inService_of_built {conf : DeviceConf} {device : Device σ (Fin 10)}
    (h : Built conf device) : Device.InService conf.addr device := by
  obtain ⟨slave, d, entityId, hs, hd, ha⟩ := h
  exact ⟨d, entityId, (setUp_of_construct hs hd).1, ha⟩

/-- The devices that the loop of `async_setup` leaves are those a bus starts with. -/
theorem init_ofSetup (hs : Fresh s) (h : setupDevices confs s = .ok () s') (hass : η) :
    Init (ofSetup s' hass) := by
  have hc := (complete_of_ok hs h).devices
  have hb : List.Forall₂ Built confs s'.ectoDevices := hc.imp fun _ _ h => h.1
  refine ⟨fun n hn => ?_, ?_⟩
  · obtain ⟨device, hd, rfl⟩ := List.mem_map.1 hn
    obtain ⟨conf, _, hcd⟩ := exists_left_of_mem hb hd
    exact ⟨_, device, inService_of_built hcd, rfl⟩
  · have haddr : (ofSetup s' hass).nodes.map Node.addr = confs.map addr := by
      rw [← map_addr_of_built hb]
      exact List.map_map ..
    rw [haddr]
    exact nodup_of_ok hs h

end

/-! ## Every device on its own -/

abbrev nodes (float : String → Except PyException PyFloat) : Machine (List (Node σ)) Action :=
  (Node.machine float).team Node.route

theorem steady_route :
    (Node.machine float : Machine (Node σ) NodeSystem.Action).Steady Node.route :=
  fun n a b => congrFun (Node.route_step n a) b

variable [HassStates η]

theorem onNode_fst (float : String → Except PyException PyFloat)
    (hh : HassStates.NeverRaises η) (a : NodeSystem.Action) (n : Node σ) (hass : η) :
    ((onNode float a).after (n, hass)).1 = (Node.machine float).step n a := by
  rw [after_onNode]
  exact NodeSystem.ofState_after_call (hassOf_neverRaises hh) float a n _

theorem onRouted_fst (hh : HassStates.NeverRaises η) (x : Action) (n : Node σ) (hass : η) :
    ((onRouted float x).after (n, hass)).1 = (n.route x).elim n ((Node.machine float).step n) := by
  rw [after_onRouted]
  cases n.route x with
  | none => rfl
  | some a => exact onNode_fst float hh a n hass

theorem onNode_poll_ok (hh : HassStates.NeverRaises η) {n : Node σ} {p : Panel} (h : n.Shows p)
    (hass : η) : ∃ u v, onNode float .poll (n, hass) =
      .ok u ((Node.machine float).step n .poll, v) := by
  obtain ⟨s', hok, _⟩ :=
    NodeSystem.shows_poll_ok float (hassOf_neverRaises hh) (h.state ⟨n.addr, hass⟩)
  have hz : onNode float .poll (n, hass) = .ok () (Node.ofState s', s'.2.hass.hass) := zoom_ok hok
  have hfst := onNode_fst float hh .poll n hass
  rw [after_ok hz] at hfst
  exact ⟨(), s'.2.hass.hass, by rw [hz, ← hfst]⟩

theorem call_ok (float : String → Except PyException PyFloat) (hh : HassStates.NeverRaises η)
    {ns : List (Node σ)}
    (hs : ∀ n ∈ ns, ∃ p, n.Shows p) (x : Action) (hass : η) :
    ∃ v, call float x (ns, hass) = .ok () ((nodes float).step ns x, v) := by
  have htask : ∃ v, each (asTask (onRouted float x)) (ns, hass) =
      .ok () ((nodes float).step ns x, v) := by
    refine each_ok (I := fun _ => True) (fun n w _ => ⟨(), ((onRouted float x).after (n, w)).2, ?_⟩)
      (fun _ _ => trivial) hass
    show EStateM.Result.ok () ((onRouted float x).after (n, w)) = _
    rw [← onRouted_fst hh x n w]
  cases x with
  | poll => exact each_ok (fun n w ⟨_, hp⟩ => onNode_poll_ok hh hp w) hs hass
  | _ => exact htask

theorem step_nodes (float : String → Except PyException PyFloat) (hh : HassStates.NeverRaises η)
    (hs : ∀ n ∈ b.nodes, ∃ p, n.Shows p) (x : Action) :
    ((machine η float).step b x).nodes = (nodes float).step b.nodes x := by
  obtain ⟨v, hok⟩ := call_ok float hh hs x b.hass
  exact congrArg Prod.fst (after_ok hok)

theorem shows_team_step (float : String → Except PyException PyFloat) {ns : List (Node σ)}
    (hs : ∀ n ∈ ns, ∃ p, n.Shows p) (x : Action) :
    ∀ n ∈ (nodes float).step ns x, ∃ p, n.Shows p := by
  intro n hn
  obtain ⟨m, hm, rfl⟩ := List.mem_map.1 hn
  obtain ⟨p, hp⟩ := hs m hm
  cases m.route x with
  | none => exact ⟨p, hp⟩
  | some a => exact ⟨_, Node.shows_step hp a⟩

theorem simulates_nodes (hh : HassStates.NeverRaises η) :
    (machine η float).Simulates (nodes float) id
      fun (b : Bus σ η) ns => b.nodes = ns ∧ ∀ n ∈ ns, ∃ p, n.Shows p := by
  rintro b _ x ⟨rfl, hs⟩ _
  exact ⟨step_nodes float hh hs x, shows_team_step float hs x⟩

theorem isRun_nodes (hh : HassStates.NeverRaises η) (hs : ∀ n ∈ b.nodes, ∃ p, n.Shows p)
    (h : (machine η float).IsRun b as) : (nodes float).IsRun b.nodes as := by
  induction as generalizing b with
  | nil => trivial
  | cons x as ih =>
    have hstep := step_nodes float hh hs x
    have hs' := shows_team_step float hs x
    rw [← hstep] at hs'
    have hrest := ih hs' h.2
    rw [hstep] at hrest
    exact ⟨h.1, hrest⟩

theorem nodes_run (hh : HassStates.NeverRaises η) (hb : Init b)
    (h : (machine η float).IsRun b as) : ((machine η float).run b as).nodes =
      b.nodes.map fun n => (Node.machine float).run n (as.filterMap n.route) := by
  have hrun := ((simulates_nodes hh).run ⟨rfl, shows_of_init hb⟩ h).1
  rwa [List.map_id, Machine.run_team steady_route] at hrun

/-- Whatever comes to the bus, each of its devices goes through a run of its own, on the actions
that concern it: neither the other devices nor Home Assistant have any part in it. -/
theorem runs_alone (hh : HassStates.NeverRaises η) (hb : (machine η float).Init b)
    (h : (machine η float).IsRun b as) :
    ((machine η float).run b as).nodes =
        b.nodes.map (fun n => (Node.machine float).run n (as.filterMap n.route)) ∧
      ∀ n ∈ b.nodes, (Node.machine float).IsRun n (as.filterMap n.route) :=
  ⟨nodes_run hh hb h, fun _ hn =>
    Machine.isRun_of_team steady_route (isRun_nodes hh (shows_of_init hb) h) hn⟩

theorem isRun_evening : (machine Display EctoTemperatureSensor.parsed).IsRun bus₃ (evening 0) := by
  decide +kernel

theorem evening_runs_alone :
    ((machine Display EctoTemperatureSensor.parsed).run bus₃ (evening 0)).nodes =
        bus₃.nodes.map (fun n => (Node.machine EctoTemperatureSensor.parsed).run n
          ((evening 0).filterMap n.route)) ∧
      ∀ n ∈ bus₃.nodes, (Node.machine EctoTemperatureSensor.parsed).IsRun n
        ((evening 0).filterMap n.route) :=
  runs_alone display_neverRaises (init_ofSetup fresh_start setup_start _) isRun_evening

end BusSystem
end Ecto
