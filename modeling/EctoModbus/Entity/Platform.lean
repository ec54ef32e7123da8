import EctoModbus.Entity.SwitchDefs
import EctoModbus.CoordinatorDefs
import EctoModbus.Setup
import EctoModbus.Library.Decimal
import Mathlib.Logic.Function.Iterate

/-! `async_setup_platform` in `switch.py`: the entities of all devices. What the platform makes of
a device depends on its address and class alone, and these are settled by the configuration. -/

namespace Ecto
open Python

/-- A switch with its `_device`. -/
structure PlatformSwitch (σ κ : Type) where
  device : Device σ κ
  switch : EctoChannelSwitch

def PlatformSwitch.uniqueId {σ κ : Type} (self : PlatformSwitch σ κ) : String :=
  "ecto_" ++ toString self.device.base.addr ++ "_ch" ++ toString self.switch.channel

def DeviceClass.hasSwitches (c : DeviceClass) : Bool := c ≠ .temperatureSensor

namespace Platform
variable {σ κ : Type}

/-- `isinstance(device, (EctoCH10BinarySensor, EctoRelay10CH))`. -/
def isSwitchDevice : Device σ κ → Bool
  | .binarySensor10ch _ => true
  | .relay10ch _ => true
  | .temperatureSensor _ => false

/-- What is passed to `async_add_entities`. -/
def asyncSetupPlatform (devices : List (Device σ κ)) : List (PlatformSwitch σ κ) :=
  devices.foldl (fun relay device =>
    if isSwitchDevice device then
      (List.range device.deviceClass.channelCount).foldl (fun relay (channel : ℕ) =>
        relay ++ [⟨device, .init channel⟩]) relay
    else
      relay) []

def switchesOf (device : Device σ κ) : List (PlatformSwitch σ κ) :=
  (List.range device.deviceClass.channelCount).map fun (channel : ℕ) => ⟨device, .init channel⟩

theorem isSwitchDevice_eq (device : Device σ κ) :
    isSwitchDevice device = device.deviceClass.hasSwitches := by
  cases device <;> rfl

theorem isSwitchDevice_of_class {device : Device σ κ} {c : DeviceClass}
    (h : device.deviceClass = c) (hc : c ≠ .temperatureSensor) :
    isSwitchDevice device = true := by
  rw [isSwitchDevice_eq, h]
  exact decide_eq_true hc

theorem asyncSetupPlatform_eq (devices : List (Device σ κ)) :
    asyncSetupPlatform devices = (devices.filter isSwitchDevice).flatMap switchesOf := by
  have hinner : ∀ (device : Device σ κ) (relay : List (PlatformSwitch σ κ)),
      (List.range device.deviceClass.channelCount).foldl (fun relay (channel : ℕ) =>
        relay ++ [(⟨device, .init channel⟩ : PlatformSwitch σ κ)]) relay =
      relay ++ switchesOf device := by
    intro device relay
    rw [List.foldl_append_eq_append, ← List.flatMap_def]
    exact congrArg (relay ++ ·) List.map_eq_flatMap.symm
  have houter : ∀ relay : List (PlatformSwitch σ κ),
      devices.foldl (fun relay device =>
        if isSwitchDevice device then
          (List.range device.deviceClass.channelCount).foldl (fun relay (channel : ℕ) =>
            relay ++ [(⟨device, .init channel⟩ : PlatformSwitch σ κ)]) relay
        else relay) relay =
      relay ++ (devices.filter isSwitchDevice).flatMap switchesOf := by
    induction devices with
    | nil => exact fun relay => (List.append_nil relay).symm
    | cons device devices ih =>
      intro relay
      rw [List.foldl_cons, ih, List.filter_cons]
      split_ifs
      · rw [hinner, List.flatMap_cons, List.append_assoc]
      · rfl
  exact houter []

/-! ## The channels of a configuration -/

/-- The pairs of address and channel that a list of addressed classes gives, in order. -/
def channelKeys (kinds : List (ℕ × DeviceClass)) : List (ℕ × ℕ) :=
  (kinds.filter fun k => k.2.hasSwitches).flatMap fun k =>
    (List.range k.2.channelCount).map fun channel => (k.1, channel)

def kind (device : Device σ κ) : ℕ × DeviceClass := (device.base.addr, device.deviceClass)

theorem nodup_channelKeys {kinds : List (ℕ × DeviceClass)} (h : (kinds.map Prod.fst).Nodup) :
    (channelKeys kinds).Nodup := by
  have hfilter : ((kinds.filter fun k => k.2.hasSwitches).map Prod.fst).Nodup :=
    h.sublist (List.filter_sublist.map _)
  refine List.nodup_flatMap.2 ⟨fun k _ => ?_, ?_⟩
  · exact List.nodup_range.map fun _ _ he => (Prod.mk.inj he).2
  · refine (List.pairwise_map.1 hfilter).imp fun {k l} hkl => ?_
    intro p hp hp'
    obtain ⟨c, _, rfl⟩ := List.mem_map.1 hp
    obtain ⟨c', _, he⟩ := List.mem_map.1 hp'
    exact hkl (Prod.mk.inj he).1.symm

theorem map_asyncSetupPlatform (devices : List (Device σ κ)) {β : Type} (f : ℕ × ℕ → β)
    {g : PlatformSwitch σ κ → β}
    (hg : ∀ device (channel : ℕ), g ⟨device, .init channel⟩ = f (device.base.addr, channel)) :
    (asyncSetupPlatform devices).map g = (channelKeys (devices.map kind)).map f := by
  have hp : (fun k : ℕ × DeviceClass => k.2.hasSwitches) ∘ (kind : Device σ κ → _) =
      isSwitchDevice := funext fun device => (isSwitchDevice_eq device).symm
  rw [asyncSetupPlatform_eq, channelKeys, List.filter_map, hp, List.flatMap_map, List.map_flatMap,
    List.map_flatMap]
  refine congrArg (List.flatMap · _) (funext fun device => ?_)
  rw [switchesOf, List.map_map, List.map_map]
  exact List.map_congr_left fun channel _ => hg device channel

def idText (key : ℕ × ℕ) : String := "ecto_" ++ toString key.1 ++ "_ch" ++ toString key.2

theorem idText_injective : Function.Injective idText := by
  intro k l h
  simp only [idText, String.append_assoc] at h
  have hrest := (String.append_right_inj "ecto_").1 h
  rw [← String.append_assoc, ← String.append_assoc] at hrest
  have hsep : "_ch".toList = '_' :: ['c', 'h'] := by decide
  obtain ⟨h1, h2⟩ := (Decimal.separated_inj hsep (by decide)).1 hrest
  exact Prod.ext h1 h2

theorem uniqueId_init (device : Device σ κ) (channel : ℕ) :
    (⟨device, .init channel⟩ : PlatformSwitch σ κ).uniqueId =
      idText (device.base.addr, channel) := by
  simp only [PlatformSwitch.uniqueId, EctoChannelSwitch.init, Decimal.toString_natCast, idText]

/-! ## From the configuration to the entities -/

variable {W : Type} [ModbusSlave σ]
open EctoCoordinator DeviceConf Setup

theorem kind_updateDevice (invoke : Call κ → PyM W Unit) (device : Device σ κ) (w : W) :
    kind ((updateDevice invoke).after (device, w)).1 = kind device := by
  cases device with
  | relay10ch d =>
    rw [after_updateDevice_relay]
    exact congrArg (fun b : EctoDevice σ => (b.addr, DeviceClass.relay10ch))
      (EctoRelay10CH.after_sync_frame invoke (d, w)).1
  | binarySensor10ch d => rfl
  | temperatureSensor d => rfl

theorem kinds_poll (invoke : Call κ → PyM W Unit) (p : List (Device σ κ) × W) :
    ((asyncUpdateData invoke).after p).1.map kind = p.1.map kind := by
  have hafter : (asyncUpdateData invoke).after p = (PyM.each (updateDevice invoke)).after p :=
    PyM.after_bind_pure ..
  rw [hafter]
  exact PyM.map_after_each (I := fun _ => True)
    (fun device w _ => kind_updateDevice invoke device w)
    (fun _ _ => trivial) p.2

theorem kinds_polls (invoke : Call κ → PyM W Unit) (n : ℕ) (p : List (Device σ κ) × W) :
    ((asyncUpdateData invoke).after^[n] p).1.map kind = p.1.map kind := by
  induction n generalizing p with
  | zero => rfl
  | succ n ih => rw [Function.iterate_succ_apply, ih, kinds_poll]

variable {ς : Type} [LawfulModbusSlave σ] [RtuServer ς σ] [LawfulRtuServer ς]

theorem kinds_of_complete {confs : List DeviceConf} {s : Setup ς σ κ} (h : Complete confs s) :
    s.ectoDevices.map kind = confs.map fun conf => (conf.addr, conf.type) := by
  have hd := h.devices
  clear h
  generalize s.ectoDevices = devices at hd ⊢
  induction hd with
  | nil => rfl
  | cons hb _ ih =>
    obtain ⟨haddr, hclass⟩ := hb.1.fields
    rw [List.map_cons, List.map_cons, ih, kind, haddr, hclass]

theorem nodup_kinds {confs : List DeviceConf} (h : (confs.map addr).Nodup) :
    ((confs.map fun conf => (conf.addr, conf.type)).map Prod.fst).Nodup := by
  rw [List.map_map]
  exact h

/-- Once the loop has got through a configuration, and however often the coordinator polls before
the platform is set up, there is one fresh entity for each channel of each switch device, in the
order of the configuration, and no two entities have the same `unique_id`. -/
theorem entities_complete_and_unique {confs : List DeviceConf} {s s' : Setup ς σ κ} (hs : Fresh s)
    (h : setupDevices confs s = .ok () s') (invoke : Call κ → PyM W Unit) (w : W) (n : ℕ) :
    let devices := ((asyncUpdateData invoke).after^[n] (s'.ectoDevices, w)).1
    let switches := asyncSetupPlatform devices
    devices.map (fun d => (d.base.addr, d.deviceClass)) =
        confs.map (fun conf => (conf.addr, conf.type)) ∧
      switches = (devices.filter isSwitchDevice).flatMap switchesOf ∧
      switches.map (fun e => (e.device.base.addr, e.switch.channel)) =
        (confs.filter fun conf => conf.type ≠ .temperatureSensor).flatMap (fun conf =>
          (List.range conf.type.channelCount).map fun channel : ℕ => (conf.addr, (channel : ℤ))) ∧
      (switches.map fun e => (e.device.base.addr, e.switch.channel)).Nodup ∧
      (switches.map PlatformSwitch.uniqueId).Nodup := by
  intro devices switches
  have hkinds : devices.map kind = confs.map fun conf => (conf.addr, conf.type) :=
    (kinds_polls invoke n _).trans (kinds_of_complete (complete_of_ok hs h))
  have hnodup := nodup_channelKeys (nodup_kinds (nodup_of_ok hs h))
  have hkeys := map_asyncSetupPlatform devices (fun k => (k.1, (k.2 : ℤ)))
    (g := fun e => (e.device.base.addr, e.switch.channel)) fun _ _ => rfl
  have hids := map_asyncSetupPlatform devices idText uniqueId_init
  rw [hkinds] at hkeys hids
  have hinj : Function.Injective fun k : ℕ × ℕ => (k.1, (k.2 : ℤ)) := by
    intro k l hkl
    obtain ⟨h1, h2⟩ := Prod.mk.inj hkl
    exact Prod.ext h1 (Int.natCast_inj.1 h2)
  refine ⟨hkinds, asyncSetupPlatform_eq devices, ?_, ?_, ?_⟩
  · rw [hkeys, channelKeys, List.filter_map, List.flatMap_map, List.map_flatMap]
    simp only [List.map_map]
    rfl
  · rw [hkeys]
    exact hnodup.map hinj
  · rw [hids]
    exact hnodup.map idText_injective

theorem twenty_entities :
    let confs := [⟨.relay10ch, 3, none⟩, ⟨.temperatureSensor, 5, some "sensor.outside"⟩,
      ⟨.binarySensor10ch, 13, none⟩]
    let invoke := fun _ : Call Empty => (pure () : PyM Unit Unit)
    let devices := ((setupDevices confs).after Setup.start).ectoDevices
    let switches := asyncSetupPlatform ((asyncUpdateData invoke).after^[1] (devices, ())).1
    switches.length = 20 ∧ (switches.map PlatformSwitch.uniqueId).Nodup := by
  intro confs invoke devices switches
  have haddr : ∀ conf ∈ confs, AddrInRange conf.addr := by
    simp [confs, AddrInRange]
  obtain ⟨s', h⟩ := setupDevices_ok (s := Setup.start) haddr (by decide)
  have hdevices : devices = s'.ectoDevices := congrArg Setup.ectoDevices (PyM.after_ok h)
  obtain ⟨_, _, hkeys, _, hids⟩ := entities_complete_and_unique Setup.fresh_start h invoke () 1
  rw [← hdevices] at hkeys hids
  have hlen := congrArg List.length hkeys
  rw [List.length_map] at hlen
  exact ⟨hlen, hids⟩

end Platform
end Ecto
