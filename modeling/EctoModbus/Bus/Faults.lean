import EctoModbus.Bus.History
import EctoModbus.Coordinator

/-! The bus under a Home Assistant whose calls may raise. An exception in the middle of a poll keeps
the poll from the devices that come later, but no entity ever shows what its relay has not
cached. -/

namespace Ecto
open Python Transition BlockTable

namespace EctoRelay10CH
variable {σ κ W : Type} [ModbusSlave σ] [LawfulModbusSlave σ]

theorem channels_of_sync_ok {d : EctoRelay10CH σ κ} {v : RelayImage κ} (h : Models d v)
    {invoke : Call κ → PyM W Unit} {w : W} {c : Bool} {q : EctoRelay10CH σ κ × W}
    (hok : syncChannelsFromRegister invoke (d, w) = .ok c q) :
    q.1 = { d with channels := decode v.word } := by
  rw [syncChannelsFromRegister_eq h] at hok
  cases hu : rounds invoke v v.word w with
  | ok c' p =>
    rw [parse_ok h hu] at hok
    cases hok
    rw [updateChannels_ok hu, setAll_finRange]
  | error e p =>
    rw [parse_error h hu] at hok
    cases hok

end EctoRelay10CH

namespace Node
variable {σ : Type} [ModbusSlave σ] [LawfulModbusSlave σ]

/-- The relay has cached what its register holds. -/
def Synced (n : Node σ) : Prop :=
  match n.device with
  | .relay10ch d => EctoCoordinator.Synced d
  | _ => True

/-- Added entities of a relay show what it has cached, and a contact sensor's register shows its
list. -/
def Consistent (n : Node σ) : Prop :=
  match n.device with
  | .relay10ch d => ∀ e, (n.entities e).hass = true →
    ((n.entities e).isOn = true ↔ d.channels e = 1)
  | .binarySensor10ch d => d.word = EctoCH10BinarySensor.stored d.switch
  | .temperatureSensor _ => True

theorem Shows.consistent {n : Node σ} {p : Panel} (h : n.Shows p) : n.Consistent := by
  obtain ⟨device, entities⟩ := n
  rcases h with h | h | h
  · exact fun e he => RelaySystem.shown_of_added ⟨_, _, h⟩ he
  · show _ = EctoCH10BinarySensor.stored _
    rw [h.device.word_eq, h.device.list]
  · trivial

end Node

namespace BusSystem
open PyM
variable {σ η : Type} [ModbusSlave σ] [HassStates η]
variable {float : String → Except PyException PyFloat} {b : Bus σ η}

/-! ## One device -/

/-- A poll reads a register of a relay; the slaves it leaves as they are. -/
theorem base_onNode_poll (n : Node σ) (hass : η) :
    ((onNode float .poll).after (n, hass)).1.device.base = n.device.base := by
  obtain ⟨device, entities⟩ := n
  rw [after_onNode]
  cases device with
  | relay10ch d =>
    let bank : SwitchBank (HassOf η) := ⟨entities, ⟨d.addr, hass⟩⟩
    have hafter : (NodeSystem.call float .poll).after (.relay10ch d, bank) = _ :=
      EctoCoordinator.after_updateDevice_relay SwitchBank.invoke d bank
    show Device.base ((NodeSystem.call float .poll).after (.relay10ch d, bank)).1 = _
    rw [hafter]
    exact (EctoRelay10CH.after_sync_frame SwitchBank.invoke (d, bank)).1
  | binarySensor10ch d => rfl
  | temperatureSensor d => rfl

variable [LawfulModbusSlave σ]

/-- What any call leaves of a node, also when it raises. -/
structure Keeps (n n' : Node σ) : Prop where
  device : NodeSystem.SameDevice n.device n'.device
  shows : (∃ p, n.Shows p) → ∃ p, n'.Shows p

theorem Keeps.refl (n : Node σ) : Keeps n n := ⟨.refl _, id⟩

theorem keeps_onNode (float : String → Except PyException PyFloat) (a : NodeSystem.Action)
    (n : Node σ) (hass : η) :
    Keeps n ((onNode float a).after (n, hass)).1 := by
  let self : HassOf η := ⟨n.addr, hass⟩
  rw [after_onNode]
  refine ⟨NodeSystem.sameDevice_call float a (n.state self), ?_⟩
  rintro ⟨p, hp⟩
  obtain ⟨p', hp', _⟩ := NodeSystem.follows_step float (hp.state self) a
  exact ⟨p', Node.shows_ofState hp'⟩

theorem keeps_onRouted (x : Action) (n : Node σ) (hass : η) :
    Keeps n ((onRouted float x).after (n, hass)).1 := by
  rw [after_onRouted]
  cases n.route x with
  | none => exact .refl n
  | some a => exact keeps_onNode float a n hass

theorem synced_of_poll_ok {n n' : Node σ} {hass hass' : η} {u : Unit} (h : ∃ p, n.Shows p)
    (hok : onNode float .poll (n, hass) = .ok u (n', hass')) : n'.Synced := by
  obtain ⟨p, hp⟩ := h
  obtain ⟨s, hs, hn⟩ := exists_of_zoom_ok hok
  obtain ⟨device, entities⟩ := n
  rcases hp with hp | hp | hp
  · rename_i d v added
    let bank : SwitchBank (HassOf η) := ⟨entities, ⟨d.addr, hass⟩⟩
    cases hq : EctoRelay10CH.syncChannelsFromRegister SwitchBank.invoke (d, bank) with
    | ok c q =>
      -- a poll that returns has parsed the whole word
      have hd := EctoRelay10CH.channels_of_sync_ok hp.models hq
      have hcall : NodeSystem.call float .poll (.relay10ch d, bank) =
          .ok () (.relay10ch q.1, q.2) := by
        simp only [NodeSystem.call, EctoCoordinator.updateDevice, hq]
      cases hcall.symm.trans hs
      cases hn
      show q.1.channels = decode q.1.word
      rw [hd, (hp.models.setChannels (decode v.word)).word_eq]
      rfl
    | error e q =>
      have hcall : NodeSystem.call float .poll (.relay10ch d, bank) =
          .error e (.relay10ch q.1, q.2) := by
        simp only [NodeSystem.call, EctoCoordinator.updateDevice, hq]
      cases hcall.symm.trans hs
  · cases hs
    cases hn
    trivial
  · cases hs
    cases hn
    trivial

/-! ## The whole bus -/

theorem keeps_step (float : String → Except PyException PyFloat) (b : Bus σ η) (x : Action) :
    List.Forall₂ Keeps b.nodes ((machine η float).step b x).nodes := by
  have htask : List.Forall₂ Keeps b.nodes
      ((each (asTask (onRouted float x))).after (b.nodes, b.hass)).1 := by
    refine forall₂_after_each Keeps.refl (fun n hass => ?_) b.nodes b.hass
    rw [after_asTask]
    exact keeps_onRouted x n hass
  cases x with
  | poll =>
    exact forall₂_after_each Keeps.refl (fun n hass => keeps_onNode float .poll n hass)
      b.nodes b.hass
  | _ => exact htask

theorem map_addr_of_keeps {ns ns' : List (Node σ)} (h : List.Forall₂ Keeps ns ns') :
    ns'.map Node.addr = ns.map Node.addr := by
  induction h with
  | nil => rfl
  | cons hn _ ih => exact congrArg₂ List.cons hn.device.addr ih

structure Inv (b : Bus σ η) : Prop where
  shows : ∀ n ∈ b.nodes, ∃ p, n.Shows p
  nodup : (b.nodes.map Node.addr).Nodup

omit [HassStates η] in
theorem inv_init (h : Init b) : Inv b := ⟨shows_of_init h, h.nodup⟩

theorem inv_step : (machine η float).Preserves (Inv (σ := σ) (η := η)) := by
  rintro b x hb _
  have hk := keeps_step float b x
  refine ⟨fun n' hn' => ?_, ?_⟩
  · obtain ⟨n, hn, hkeeps⟩ := exists_left_of_mem hk hn'
    exact hkeeps.shows (hb.shows n hn)
  · rw [map_addr_of_keeps hk]
    exact hb.nodup

theorem inv_reachable (h : (machine η float).Reachable b) : Inv b :=
  h.invariant (fun _ => inv_init) inv_step

theorem Keeps.trans {n n' n'' : Node σ} (h : Keeps n n') (h' : Keeps n' n'') : Keeps n n'' :=
  ⟨h.device.trans h'.device, fun hp => h'.shows (h.shows hp)⟩

theorem keeps_run (float : String → Except PyException PyFloat) (b : Bus σ η) (as : List Action) :
    List.Forall₂ Keeps b.nodes ((machine η float).run b as).nodes := by
  induction as generalizing b with
  | nil => exact List.forall₂_same.2 fun n _ => .refl n
  | cons x as ih =>
    have hrest := ih ((machine η float).step b x)
    exact forall₂_comp (fun _ _ _ h h' => h.trans h') (keeps_step float b x) hrest

section
open Setup DeviceConf
variable {ς : Type} [RtuServer ς σ] [LawfulRtuServer ς] {confs : List DeviceConf}
  {s s' : Setup ς σ (Fin 10)}

end

/-- A Home Assistant that knows none of the entities. -/
inductive Unknowing where
  | unknowing
  deriving DecidableEq

instance : HassStates Unknowing where
  asyncScheduleUpdateHaState _ _ := throw (.other "NoEntitySpecifiedError")

/-- What a poll has done to a device that it has come past. -/
def Polled (n n' : Node σ) : Prop := n'.Synced ∧ n'.device.base = n.device.base

def PollReturns (float : String → Except PyException PyFloat) (b : Bus σ η) : Prop :=
  ∃ ns hass, call float .poll (b.nodes, b.hass) = .ok () (ns, hass) ∧ List.Forall₂ Polled b.nodes ns

/-- The poll has come to some device, and has not touched the later ones. -/
def PollStops (float : String → Except PyException PyFloat) (b : Bus σ η) : Prop :=
  ∃ e ns₁ n ns₂ ns₁' n' hass, b.nodes = ns₁ ++ n :: ns₂ ∧
    call float .poll (b.nodes, b.hass) = .error e (ns₁' ++ n' :: ns₂, hass) ∧
    List.Forall₂ Polled ns₁ ns₁' ∧ n'.device.base = n.device.base ∧ n'.Consistent

/-- A poll that returns has brought every relay up to date. One that an entity's exception ends has
done so up to the device it stopped at. In no case has it changed a slave. -/
theorem poll_cases (hb : (machine η float).Reachable b) :
    PollReturns float b ∨ PollStops float b := by
  have hbase : ∀ (n : Node σ) (hass : η),
      ((onNode float .poll).after (n, hass)).1.device.base = n.device.base := base_onNode_poll
  refine each_cases (fun n hass u n' hass' hn hok => ?_) (fun n hass e n' hass' hn herr => ?_)
    (inv_reachable hb).shows b.hass
  · have hsame := hbase n hass
    rw [after_ok hok] at hsame
    exact ⟨synced_of_poll_ok hn hok, hsame⟩
  · have hsame := hbase n hass
    have hkeeps := keeps_onNode float .poll n hass
    rw [after_error herr] at hsame hkeeps
    obtain ⟨p, hp⟩ := hkeeps.shows hn
    exact ⟨hsame, hp.consistent⟩

theorem unknowing_poll_stops : PollStops EctoTemperatureSensor.parsed
    ((machine Unknowing EctoTemperatureSensor.parsed).run (ofSetup setup₃ .unknowing)
      [.addEntity 3 0 none, .masterWrite 3 0x10 [0x0100#16]]) := by
  have hinit : (machine Unknowing EctoTemperatureSensor.parsed).Reachable
      (ofSetup setup₃ .unknowing) := .init (init_ofSetup fresh_start setup_start _)
  have hr : (machine Unknowing EctoTemperatureSensor.parsed).IsRun (ofSetup setup₃ .unknowing)
      [.addEntity 3 0 none, .masterWrite 3 0x10 [0x0100#16]] := by decide +kernel
  refine (poll_cases (hinit.run hr)).resolve_left ?_
  rintro ⟨ns, hass, hok, _⟩
  have houtcome := outcome_ok hok
  revert houtcome
  decide +kernel

end BusSystem
end Ecto
