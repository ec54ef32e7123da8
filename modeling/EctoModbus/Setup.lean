import EctoModbus.SetupDefs
import EctoModbus.IdentityRuns
import EctoModbus.Library.Replay

/-! The set-up loop over a whole configuration. Entries are validated one by one, but they share
one server, which takes an address only once. -/

namespace Ecto
open Python BlockTable

namespace Setup
open DeviceConf
variable {ς σ κ : Type} {conf : DeviceConf} {confs : List DeviceConf} {device : Device σ κ}
  {slave : σ} {s s' : Setup ς σ κ}

theorem replay_registry {devices : List (Device σ κ)}
    (hnodup : (devices.map fun d => d.base.addr).Nodup) (f : ℕ → Option (Device σ κ))
    (hd : device ∈ devices) :
    Replay.replay f (devices.map fun d => (d.base.addr, some d))
      device.base.addr = some device := by
  refine Replay.replay_of_forall f ⟨_, List.mem_map_of_mem hd, rfl⟩ ?_
  intro w hw he
  obtain ⟨d, hm, rfl⟩ := List.mem_map.1 hw
  exact congrArg some (List.inj_on_of_nodup_map hnodup hm hd he)

theorem asyncInit_ok (d : Device σ κ) : ∃ entityId d', Device.asyncInit d = .ok entityId d' ∧
    d'.base = d.base ∧ d'.deviceClass = d.deviceClass := by
  cases d with
  | relay10ch d => exact ⟨none, _, rfl, rfl, rfl⟩
  | binarySensor10ch d => exact ⟨none, _, rfl, rfl, rfl⟩
  | temperatureSensor d =>
    obtain ⟨entityId, h⟩ := EctoTemperatureSensor.asyncInit_ok d
    refine ⟨entityId, .temperatureSensor { d with hass := true }, ?_, rfl, rfl⟩
    simp only [Device.asyncInit, h]

variable [ModbusSlave σ] [RtuServer ς σ]

theorem setupDevice_rejected {e : PyException}
    (h : RtuServer.addSlave conf.addr s.server = .error e) : setupDevice conf s = .error e s := by
  unfold setupDevice
  rw [PyM.get_bind, h]
  rfl

theorem setupDevices_cons (conf : DeviceConf) (confs : List DeviceConf) :
    (setupDevices (conf :: confs) : PyM (Setup ς σ κ) Unit) =
      setupDevice conf >>= fun _ => setupDevices confs := rfl

variable [LawfulModbusSlave σ] [LawfulRtuServer ς]

/-- The device is what the loop makes of the entry. -/
def Built (conf : DeviceConf) (device : Device σ κ) : Prop :=
  ∃ slave d entityId, table slave = Table.empty ∧ conf.construct slave = .ok d ∧
    Device.asyncInit d = .ok entityId device

/-! ## One device -/

theorem construct_ok (conf : DeviceConf) (hs : table slave = Table.empty) :
    ∃ d : Device σ κ, conf.construct slave = .ok d := by
  unfold DeviceConf.construct
  cases conf.type with
  | binarySensor10ch =>
    obtain ⟨d, hd, _⟩ := EctoCH10BinarySensor.init_input conf.addr slave hs
    exact ⟨_, by simp only [hd]; rfl⟩
  | relay10ch =>
    obtain ⟨d, hd, _⟩ := EctoRelay10CH.init_models (κ := κ) conf.addr slave hs
    exact ⟨_, by simp only [hd]; rfl⟩
  | temperatureSensor =>
    obtain ⟨d, hd, _⟩ := EctoTemperatureSensor.init_input conf.addr conf.entityId slave hs
    exact ⟨_, by simp only [hd]; rfl⟩

theorem setUp_of_construct (hs : table slave = Table.empty)
    (h : conf.construct slave = .ok device) :
    DeviceRuns.SetUp conf.addr device ∧ device.deviceClass = conf.type := by
  unfold DeviceConf.construct at h
  cases ht : conf.type with
  | binarySensor10ch =>
    rw [ht] at h
    obtain ⟨d, hd, h⟩ := bind_eq_ok h
    cases h
    exact ⟨.binarySensor10ch hs hd, rfl⟩
  | relay10ch =>
    rw [ht] at h
    obtain ⟨d, hd, h⟩ := bind_eq_ok h
    cases h
    exact ⟨.relay10ch hs hd, rfl⟩
  | temperatureSensor =>
    rw [ht] at h
    obtain ⟨d, hd, h⟩ := bind_eq_ok h
    cases h
    exact ⟨.temperatureSensor hs hd, rfl⟩

theorem Built.fields (h : Built conf device) :
    device.base.addr = conf.addr ∧ device.deviceClass = conf.type := by
  obtain ⟨slave, d, entityId, hs, hd, ha⟩ := h
  obtain ⟨hsetUp, hclass⟩ := setUp_of_construct hs hd
  obtain ⟨entityId', d', ha', hbase, hclass'⟩ := asyncInit_ok d
  rw [ha] at ha'
  cases ha'
  rw [hbase, hclass']
  exact ⟨(DeviceRuns.setUp_fields hsetUp).1, hclass⟩

/-! ## One round of the loop -/

structure Adds (conf : DeviceConf) (device : Device σ κ) (s s' : Setup ς σ κ) : Prop where
  ids : slaveIds s'.server = slaveIds s.server ++ [conf.addr]
  devices : s'.ectoDevices = s.ectoDevices ++ [device]
  registry : s'.deviceRegistry = Function.update s.deviceRegistry conf.addr (some device)
  built : Built conf device

theorem setupDevice_added {server : ς}
    (h : RtuServer.addSlave conf.addr s.server = .ok (slave, server)) :
    ∃ device s', setupDevice conf s = .ok () s' ∧ Adds conf device s s' := by
  obtain ⟨hs, hids⟩ := LawfulRtuServer.addSlave_ok h
  obtain ⟨d, hd⟩ := construct_ok (κ := κ) conf hs
  obtain ⟨entityId, device, ha, _⟩ := asyncInit_ok d
  refine ⟨device, {
    server := server
    ectoDevices := s.ectoDevices ++ [device]
    trackedEntities := s.trackedEntities ++ entityId.toList
    deviceRegistry := Function.update s.deviceRegistry conf.addr (some device) }, ?_, hids, rfl,
    rfl, ⟨slave, d, entityId, hs, hd, ha⟩⟩
  unfold setupDevice
  rw [PyM.get_bind, h, PyM.ofExcept_ok, pure_bind]
  simp only
  rw [PyM.set_bind, hd, PyM.ofExcept_ok, pure_bind, PyM.bind_ok (PyM.onValue_ok ha _)]
  rfl

/-- A round that ends without an exception met a new address. -/
theorem adds_of_ok (h : setupDevice conf s = .ok () s') :
    conf.addr ∉ slaveIds s.server ∧ ∃ device, Adds conf device s s' := by
  cases ha : RtuServer.addSlave conf.addr s.server with
  | error e =>
    rw [setupDevice_rejected ha] at h
    cases h
  | ok p =>
    obtain ⟨device, s₁, h₁, hadds⟩ := setupDevice_added ha
    rw [h] at h₁
    cases h₁
    refine ⟨fun hid => ?_, device, hadds⟩
    obtain ⟨e, he⟩ := LawfulRtuServer.addSlave_dup hid
    rw [ha] at he
    cases he

/-! ## The loop -/

structure AddsAll (confs : List DeviceConf) (added : List (Device σ κ)) (s s' : Setup ς σ κ) :
    Prop where
  ids : slaveIds s'.server = slaveIds s.server ++ confs.map addr
  devices : s'.ectoDevices = s.ectoDevices ++ added
  registry : s'.deviceRegistry =
    Replay.replay s.deviceRegistry (added.map fun d => (d.base.addr, some d))
  built : List.Forall₂ Built confs added

theorem AddsAll.cons {s₁ : Setup ς σ κ} {devices : List (Device σ κ)} (h : Adds conf device s s₁)
    (hs : AddsAll confs devices s₁ s') : AddsAll (conf :: confs) (device :: devices) s s' where
  ids := by rw [hs.ids, h.ids, List.append_assoc, List.map_cons, List.singleton_append]
  devices := by rw [hs.devices, h.devices, List.append_assoc, List.singleton_append]
  registry := by rw [hs.registry, h.registry, List.map_cons, Replay.replay_cons, h.built.fields.1]
  built := .cons h.built hs.built

theorem addsAll_of_ok (h : setupDevices confs s = .ok () s') :
    (∃ devices, AddsAll confs devices s s') ∧
      ((slaveIds s.server).Nodup → (slaveIds s'.server).Nodup) := by
  induction confs generalizing s with
  | nil =>
    cases h
    exact ⟨⟨[], (List.append_nil _).symm, (List.append_nil _).symm, rfl, .nil⟩, id⟩
  | cons conf confs ih =>
    rw [setupDevices_cons] at h
    cases h₁ : setupDevice conf s with
    | error e s₁ =>
      rw [PyM.bind_error h₁] at h
      cases h
    | ok u s₁ =>
      rw [PyM.bind_ok h₁] at h
      obtain ⟨hnew, device, hadds⟩ := adds_of_ok h₁
      obtain ⟨⟨devices, hall⟩, hnodup⟩ := ih h
      refine ⟨⟨device :: devices, hall.cons hadds⟩, fun hs => hnodup ?_⟩
      -- the server had no slave at the new address
      rw [hadds.ids, ← List.concat_eq_append]
      exact hs.concat hnew

theorem setupDevices_ok (haddr : ∀ conf ∈ confs, AddrInRange conf.addr)
    (hnodup : (slaveIds s.server ++ confs.map addr).Nodup) :
    ∃ s', setupDevices confs s = .ok () s' := by
  induction confs generalizing s with
  | nil => exact ⟨s, rfl⟩
  | cons conf confs ih =>
    obtain ⟨h3, h32⟩ := haddr conf List.mem_cons_self
    have hnew : conf.addr ∉ slaveIds s.server := by
      intro hm
      exact (List.nodup_append.1 hnodup).2.2 _ hm _ (by simp) rfl
    obtain ⟨⟨slave, server⟩, ha⟩ := LawfulRtuServer.addSlave_new hnew (by omega) (by omega)
    obtain ⟨device, s₁, h₁, hadds⟩ := setupDevice_added ha
    have hrest : (slaveIds s₁.server ++ confs.map addr).Nodup := by
      rw [hadds.ids, List.append_assoc, List.singleton_append]
      exact hnodup
    obtain ⟨s₂, h₂⟩ := ih (fun c hc => haddr c (List.mem_cons_of_mem conf hc)) hrest
    refine ⟨s₂, ?_⟩
    rw [setupDevices_cons, PyM.bind_ok h₁]
    exact h₂

/-! ## Whole configurations -/

/-- The state `async_setup` starts from; the registry may have entries of an earlier set-up. -/
structure Fresh (s : Setup ς σ κ) : Prop where
  ids : slaveIds s.server = []
  devices : s.ectoDevices = []

/-- There is one slave and one device for each entry, and the registry has the device under the
address of its entry. -/
structure Complete (confs : List DeviceConf) (s : Setup ς σ κ) : Prop where
  ids : slaveIds s.server = confs.map addr
  devices : List.Forall₂ (fun conf device => Built conf device ∧
    s.deviceRegistry conf.addr = some device) confs s.ectoDevices

theorem map_addr_of_built {devices : List (Device σ κ)} (h : List.Forall₂ Built confs devices) :
    devices.map (fun d => d.base.addr) = confs.map addr := by
  induction h with
  | nil => rfl
  | cons hb _ ih => rw [List.map_cons, List.map_cons, ih, hb.fields.1]

theorem nodup_of_ok (hs : Fresh s) (h : setupDevices confs s = .ok () s') :
    (confs.map addr).Nodup := by
  obtain ⟨⟨devices, hall⟩, hnodup⟩ := addsAll_of_ok h
  have hids := hnodup (by rw [hs.ids]; exact List.nodup_nil)
  rwa [hall.ids, hs.ids, List.nil_append] at hids

theorem complete_of_ok (hs : Fresh s) (h : setupDevices confs s = .ok () s') :
    Complete confs s' := by
  obtain ⟨⟨devices, hall⟩, _⟩ := addsAll_of_ok h
  have hids := hall.ids
  have hdevices := hall.devices
  rw [hs.ids, List.nil_append] at hids
  rw [hs.devices, List.nil_append] at hdevices
  have haddr : (devices.map fun d => d.base.addr).Nodup := by
    rw [map_addr_of_built hall.built]
    exact nodup_of_ok hs h
  refine ⟨hids, ?_⟩
  obtain ⟨hlen, hbuilt⟩ := List.forall₂_iff_zip.1 hall.built
  rw [hdevices, hall.registry]
  refine List.forall₂_iff_zip.2 ⟨hlen, fun {conf device} hm => ⟨hbuilt hm, ?_⟩⟩
  rw [← (hbuilt hm).fields.1]
  exact replay_registry haddr s.deviceRegistry (List.of_mem_zip hm).2

/-- The schema accepts more than the loop can set up: the loop gets through a configuration exactly
if no two of its devices have the same address. -/
theorem setup_complete_iff {validEntityId : String → Prop}
    (hacc : ∀ conf ∈ confs, Accepted validEntityId conf) (hs : Fresh s) :
    (∃ s', setupDevices confs s = .ok () s' ∧ Complete confs s') ↔ (confs.map addr).Nodup := by
  constructor
  · rintro ⟨s', h, _⟩
    exact nodup_of_ok hs h
  · intro hnodup
    have haddr : ∀ conf ∈ confs, AddrInRange conf.addr := by
      intro conf hc
      rcases hacc conf hc with ⟨_, hr, _⟩ | ⟨_, hr, _⟩
      · exact hr
      · exact hr
    obtain ⟨s', h⟩ := setupDevices_ok haddr (by rwa [hs.ids, List.nil_append])
    exact ⟨s', h, complete_of_ok hs h⟩

def start : Setup SlaveIds RegTable Empty := ⟨[], [], [], fun _ => none⟩

theorem fresh_start : Fresh start := ⟨rfl, rfl⟩

theorem repeated_address_raises :
    let confs := [⟨.relay10ch, 3, none⟩, ⟨.binarySensor10ch, 3, none⟩]
    (∀ conf ∈ confs, Accepted (fun _ => True) conf) ∧ Fresh start ∧
      ¬ (∃ s', setupDevices confs start = .ok () s' ∧ Complete confs s') ∧
      ((setupDevices confs).after start).ectoDevices.length = 1 := by
  intro confs
  refine ⟨?_, fresh_start, ?_, by decide +kernel⟩
  · simp [confs, Accepted, AddrInRange]
  · rintro ⟨s', h, _⟩
    have hnodup := nodup_of_ok fresh_start h
    simp [confs] at hnodup

theorem three_devices_are_set_up :
    let confs := [⟨.relay10ch, 3, none⟩, ⟨.temperatureSensor, 5, some "sensor.outside"⟩,
      ⟨.binarySensor10ch, 4, none⟩]
    ∃ s', setupDevices confs start = .ok () s' ∧ Complete confs s' := by
  intro confs
  have hacc : ∀ conf ∈ confs, Accepted (· = "sensor.outside") conf := by
    simp [confs, Accepted, AddrInRange]
  exact (setup_complete_iff hacc fresh_start).2 (by decide)

end Setup
end Ecto
