import EctoModbus.ConfigDefs

/-! What `CONFIG_SCHEMA` lets through can be read without an error, and is a configuration that the
loop of `async_setup` knows how to set up. -/

namespace Ecto
open Python Schema

namespace Config

section
variable {S : Type} {vol : Voluptuous S} {cv : ConfigValidation S} {v w : Yaml}
  (hvol : vol.Lawful) (hcv : cv.Lawful vol)

/-! ## The schema takes what it returns -/

include hcv in
theorem idempotent_positiveInt : Idempotent vol cv.positiveInt := by
  intro v w h
  obtain ⟨n, rfl⟩ := hcv.positiveInt_ok v w h
  exact hcv.positiveInt_int n

include hvol hcv

theorem addrSchema_iff : vol.validate (addrSchema vol cv) v = some w ↔
    ∃ n : ℕ, w = .int n ∧ DeviceConf.AddrInRange n ∧ vol.validate cv.positiveInt v = some w := by
  have hbounds : ∀ n : ℕ, (3 ≤ (n : ℤ) ∧ (n : ℤ) ≤ 32) ↔ DeviceConf.AddrInRange n := by
    intro n
    unfold DeviceConf.AddrInRange
    omega
  refine (all_eq_some hvol).trans ⟨?_, ?_⟩
  · rintro ⟨x, hx, hw⟩
    obtain ⟨n, rfl⟩ := hcv.positiveInt_ok v x hx
    obtain ⟨hn, rfl⟩ := (hvol.range 3 32 n w).1 hw
    exact ⟨n, rfl, (hbounds n).1 hn, hx⟩
  · rintro ⟨n, rfl, hn, hx⟩
    exact ⟨.int n, hx, (hvol.range 3 32 n _).2 ⟨(hbounds n).2 hn, rfl⟩⟩

theorem idempotent_addrSchema : Idempotent vol (addrSchema vol cv) := by
  intro v w h
  obtain ⟨n, hw, hn, hint⟩ := (addrSchema_iff hvol hcv).1 h
  exact (addrSchema_iff hvol hcv).2 ⟨n, hw, hn, idempotent_positiveInt hcv v w hint⟩

theorem idempotent_temperatureSchema : Idempotent vol (temperatureSchema vol cv) := by
  apply idempotent_mapping hvol false
  simp only [List.forall_mem_cons, required]
  exact ⟨idempotent_literal hvol _, idempotent_addrSchema hvol hcv,
    fun v w h => (hcv.entityId_ok v w h).2, fun e he => absurd he List.not_mem_nil⟩

theorem idempotent_channelsSchema : Idempotent vol (channelsSchema vol cv) := by
  apply idempotent_mapping hvol false
  simp only [List.forall_mem_cons, required]
  exact ⟨idempotent_isIn hvol _, idempotent_addrSchema hvol hcv,
    fun e he => absurd he List.not_mem_nil⟩

/-! ## One device -/

theorem temperature_fields (h : vol.validate (temperatureSchema vol cv) v = some w) :
    ∃ data data', v = .dict data ∧ w = .dict data' ∧
      data.lookup "type" = some (.str "temperature_sensor") ∧
      data'.lookup "type" = some (.str "temperature_sensor") ∧
      (∃ n : ℕ, data'.lookup "addr" = some (.int n) ∧ DeviceConf.AddrInRange n) ∧
      ∃ s, data'.lookup "entity_id" = some (.str s) ∧
        vol.validate cv.entityId (.str s) = some (.str s) := by
  obtain ⟨data, _, data', rfl, rfl, _⟩ := hvol.mapping_ok _ _ _ _ h
  obtain ⟨data₁, t, t', hcompleted, ht, htype, ht'⟩ := lookup_of_mapping hvol h
    (e := required "type" (vol.literal "temperature_sensor")) rfl (Or.inl rfl)
  obtain ⟨_, _, a, _, _, haddr, ha⟩ := lookup_of_mapping hvol h
    (e := required "addr" (addrSchema vol cv)) rfl (Or.inl rfl)
  obtain ⟨_, _, i, _, _, hentity, hi⟩ := lookup_of_mapping hvol h
    (e := required "entity_id" cv.entityId) rfl (Or.inl rfl)
  obtain ⟨rfl, rfl⟩ := (hvol.literal _ _ _).1 htype
  obtain ⟨n, rfl, hn, _⟩ := (addrSchema_iff hvol hcv).1 haddr
  obtain ⟨⟨entityId, rfl⟩, hid⟩ := hcv.entityId_ok _ _ hentity
  rw [completed_iff (by simp [required])] at hcompleted
  subst hcompleted
  exact ⟨data₁, data', rfl, rfl, ht, ht', ⟨n, ha, hn⟩, entityId, hi, hid⟩

theorem channels_fields (h : vol.validate (channelsSchema vol cv) v = some w) :
    ∃ data', w = .dict data' ∧
      (∃ s ∈ ["binary_sensor_10ch", "relay_10ch"], data'.lookup "type" = some (.str s)) ∧
      (∃ n : ℕ, data'.lookup "addr" = some (.int n) ∧ DeviceConf.AddrInRange n) ∧
      data'.lookup "entity_id" = none := by
  obtain ⟨data, _, data', rfl, rfl, _⟩ := hvol.mapping_ok _ _ _ _ h
  obtain ⟨_, t, t', _, _, htype, ht'⟩ := lookup_of_mapping hvol h
    (e := required "type" (vol.isIn ["binary_sensor_10ch", "relay_10ch"])) rfl (Or.inl rfl)
  obtain ⟨_, _, a, _, _, haddr, ha⟩ := lookup_of_mapping hvol h
    (e := required "addr" (addrSchema vol cv)) rfl (Or.inl rfl)
  obtain ⟨⟨s, hs, rfl⟩, rfl⟩ := (hvol.isIn _ _ _).1 htype
  obtain ⟨n, rfl, hn, _⟩ := (addrSchema_iff hvol hcv).1 haddr
  refine ⟨data', rfl, ⟨s, hs, ht'⟩, ⟨n, ha, hn⟩, ?_⟩
  cases hid : data'.lookup "entity_id" with
  | none => rfl
  | some w =>
    obtain ⟨e, he, hkey, _⟩ | hextra := find_of_mapping hvol h hid
    · simp only [List.mem_cons, List.not_mem_nil, or_false] at he
      rcases he with rfl | rfl
      · exact absurd hkey (show "type" ≠ "entity_id" by decide)
      · exact absurd hkey (show "addr" ≠ "entity_id" by decide)
    · exact Bool.noConfusion hextra

/-- The two kinds of entries are told apart by their type. -/
theorem temperatureSchema_none {data : List (String × Yaml)} {s : String}
    (hs : s ∈ ["binary_sensor_10ch", "relay_10ch"]) (h : data.lookup "type" = some (.str s)) :
    vol.validate (temperatureSchema vol cv) (.dict data) = none := by
  cases ht : vol.validate (temperatureSchema vol cv) (.dict data) with
  | none => rfl
  | some w =>
    obtain ⟨_, _, hd, _, htype, _⟩ := temperature_fields hvol hcv ht
    cases hd
    rw [h] at htype
    cases htype
    exact absurd hs (by decide)

theorem idempotent_deviceSchema : Idempotent vol (deviceSchema vol cv) := by
  apply (idempotent_temperatureSchema hvol hcv).any hvol (idempotent_channelsSchema hvol hcv)
  intro v w h
  obtain ⟨data', rfl, ⟨s, hs, htype⟩, _⟩ := channels_fields hvol hcv h
  exact temperatureSchema_none hvol hcv hs htype

def validEntityId (vol : Voluptuous S) (cv : ConfigValidation S) (entityId : String) : Prop :=
  vol.validate cv.entityId (.str entityId) = some (.str entityId)

/-- An entry that the schema lets through is read without an error. -/
theorem deviceConf_of_schema (h : vol.validate (deviceSchema vol cv) v = some w) :
    ∃ conf, deviceConf w = .ok conf ∧ conf.Accepted (validEntityId vol cv) := by
  rcases (any_eq_some hvol).1 h with h | ⟨_, h⟩
  · obtain ⟨_, data', rfl, rfl, _, htype, ⟨n, haddr, hn⟩, s, hid, hs⟩ :=
      temperature_fields hvol hcv h
    refine ⟨⟨.temperatureSensor, n, some s⟩, ?_, Or.inl ⟨rfl, hn, s, rfl, hs⟩⟩
    simp only [deviceConf, getItem, get, htype, haddr, hid]
    rfl
  · obtain ⟨data', rfl, ⟨s, hs, htype⟩, ⟨n, haddr, hn⟩, hid⟩ := channels_fields hvol hcv h
    simp only [List.mem_cons, List.not_mem_nil, or_false] at hs
    rcases hs with rfl | rfl
    · refine ⟨⟨.binarySensor10ch, n, none⟩, ?_, Or.inr ⟨by simp, hn, rfl⟩⟩
      simp only [deviceConf, getItem, get, htype, haddr, hid]
      rfl
    · refine ⟨⟨.relay10ch, n, none⟩, ?_, Or.inr ⟨by simp, hn, rfl⟩⟩
      simp only [deviceConf, getItem, get, htype, haddr, hid]
      rfl

/-! ## The whole configuration -/

theorem idempotent_devices :
    Idempotent vol (vol.all cv.ensureList (vol.listOf (deviceSchema vol cv))) := by
  intro v w h
  obtain ⟨x, hx, hw⟩ := (all_eq_some hvol).1 h
  obtain ⟨l, rfl⟩ := hcv.ensureList_ok v x hx
  obtain ⟨l', rfl, _⟩ := (hvol.listOf _ l w).1 hw
  exact (all_eq_some hvol).2 ⟨.list l', hcv.ensureList_list l',
    (idempotent_deviceSchema hvol hcv).listOf hvol hw⟩

theorem idempotent_CONFIG_SCHEMA : Idempotent vol (CONFIG_SCHEMA vol cv) := by
  apply idempotent_mapping hvol true
  rw [List.forall_mem_singleton]
  apply idempotent_mapping hvol false
  simp only [List.forall_mem_cons, required, optional]
  exact ⟨idempotent_str hvol, idempotent_isIn hvol _, idempotent_positiveInt hcv,
    idempotent_devices hvol hcv, fun e he => absurd he List.not_mem_nil⟩

end

end Config

/-- What `async_setup` reads under `DOMAIN`. -/
structure DomainConf where
  port : String
  portType : String
  baudrate : ℕ
  devices : List DeviceConf
  deriving DecidableEq, Repr

namespace DomainConf
open Config

structure Accepted {S : Type} (vol : Voluptuous S) (cv : ConfigValidation S) (conf : DomainConf) :
    Prop where
  portType : conf.portType ∈ [PORT_TYPE_SERIAL, PORT_TYPE_RS485]
  devices : ∀ device ∈ conf.devices, device.Accepted (validEntityId vol cv)

theorem Accepted.addrInRange {S : Type} {vol : Voluptuous S} {cv : ConfigValidation S}
    {conf : DomainConf} (h : conf.Accepted vol cv) :
    ∀ device ∈ conf.devices, DeviceConf.AddrInRange device.addr := by
  intro device hd
  rcases h.devices device hd with ⟨_, h, _⟩ | ⟨_, h, _⟩
  · exact h
  · exact h

structure Reads (v : Yaml) (conf : DomainConf) : Prop where
  port : get v "port" .null = .ok (.str conf.port)
  portType : get v "port_type" (.str PORT_TYPE_RS485) = .ok (.str conf.portType)
  baudrate : get v "baudrate" (.int DEFAULT_BAUDRATE) = .ok (.int conf.baudrate)
  devices : ∃ ys, getItem v "devices" = .ok (.list ys) ∧
    List.Forall₂ (fun y device => deviceConf y = .ok device) ys conf.devices

end DomainConf

namespace Config
open DomainConf

/-! ## A configuration written out -/

def deviceYaml (conf : DeviceConf) : Yaml :=
  let type := match conf.type with
    | .binarySensor10ch => "binary_sensor_10ch"
    | .relay10ch => "relay_10ch"
    | .temperatureSensor => "temperature_sensor"
  .dict ([("type", .str type), ("addr", .int conf.addr)] ++
    (conf.entityId.map fun entityId => ("entity_id", Yaml.str entityId)).toList)

def domainYaml (conf : DomainConf) : Yaml := .dict [
  ("port", .str conf.port),
  ("port_type", .str conf.portType),
  ("baudrate", .int conf.baudrate),
  ("devices", .list (conf.devices.map deviceYaml))]

/-- The configuration with nothing left to its default. -/
def toYaml (conf : DomainConf) : Yaml := .dict [(DOMAIN, domainYaml conf)]

section
variable {S : Type} {vol : Voluptuous S} {cv : ConfigValidation S} {v w c c' : Yaml}
  (hvol : vol.Lawful) (hcv : cv.Lawful vol)
include hvol hcv

theorem devices_of_schema
    (h : vol.validate (vol.all cv.ensureList (vol.listOf (deviceSchema vol cv))) v = some w) :
    ∃ ys devices, w = .list ys ∧
      List.Forall₂ (fun y device => deviceConf y = .ok device) ys devices ∧
      ∀ device ∈ devices, device.Accepted (validEntityId vol cv) := by
  obtain ⟨x, hx, hw⟩ := (all_eq_some hvol).1 h
  obtain ⟨l, rfl⟩ := hcv.ensureList_ok v x hx
  obtain ⟨ys, rfl, hys⟩ := (hvol.listOf _ l w).1 hw
  have hread : ∀ y ∈ ys, ∃ device,
      deviceConf y = .ok device ∧ device.Accepted (validEntityId vol cv) :=
    forall_mem_right (fun v w hv => deviceConf_of_schema hvol hcv hv) hys
  obtain ⟨devices, hall⟩ := exists_forall₂ hread
  exact ⟨ys, devices, rfl, hall.imp fun _ _ h => h.1, forall_mem_right (fun _ _ h => h.2) hall⟩

theorem reads_of_schema (h : vol.validate (domainSchema vol cv) v = some w) :
    ∃ conf : DomainConf, Reads w conf ∧ conf.Accepted vol cv := by
  obtain ⟨data, _, data', rfl, rfl, _⟩ := hvol.mapping_ok _ _ _ _ h
  obtain ⟨_, _, p, _, _, hport, hp⟩ := lookup_of_mapping hvol h (e := required "port" vol.str) rfl
    (Or.inl rfl)
  -- these two have defaults, so they are there in any case
  obtain ⟨_, _, t, _, _, htype, ht⟩ := lookup_of_mapping hvol h
    (e := optional "port_type" (.str PORT_TYPE_RS485)
      (vol.isIn [PORT_TYPE_SERIAL, PORT_TYPE_RS485])) rfl (Or.inr rfl)
  obtain ⟨_, _, r, _, _, hrate, hr⟩ := lookup_of_mapping hvol h
    (e := optional "baudrate" (.int DEFAULT_BAUDRATE) cv.positiveInt) rfl (Or.inr rfl)
  obtain ⟨_, _, l, _, _, hdevices, hl⟩ := lookup_of_mapping hvol h
    (e := required "devices" (vol.all cv.ensureList (vol.listOf (deviceSchema vol cv)))) rfl
    (Or.inl rfl)
  obtain ⟨⟨port, rfl⟩, rfl⟩ := (hvol.str _ _).1 hport
  obtain ⟨⟨portType, hone, rfl⟩, rfl⟩ := (hvol.isIn _ _ _).1 htype
  obtain ⟨baudrate, rfl⟩ := hcv.positiveInt_ok _ _ hrate
  obtain ⟨ys, devices, rfl, hall, hacc⟩ := devices_of_schema hvol hcv hdevices
  refine ⟨⟨port, portType, baudrate, devices⟩, ⟨?_, ?_, ?_, ys, ?_, hall⟩, hone, hacc⟩
  · show Except.ok ((data'.lookup "port").getD .null) = _
    rw [show data'.lookup "port" = _ from hp]
    rfl
  · show Except.ok ((data'.lookup "port_type").getD _) = _
    rw [show data'.lookup "port_type" = _ from ht]
    rfl
  · show Except.ok ((data'.lookup "baudrate").getD _) = _
    rw [show data'.lookup "baudrate" = _ from hr]
    rfl
  · simp only [getItem, show data'.lookup "devices" = _ from hl]

/-- What `async_setup` finds in a configuration that the schema has let through. -/
theorem reads_of_CONFIG_SCHEMA (h : vol.validate (CONFIG_SCHEMA vol cv) c = some c') :
    getItem c' DOMAIN = .error .keyError ∨ ∃ v, getItem c' DOMAIN = .ok v ∧
      ∃ conf : DomainConf, Reads v conf ∧ conf.Accepted vol cv := by
  obtain ⟨data, _, data', rfl, rfl, _⟩ := hvol.mapping_ok _ _ _ _ h
  unfold getItem
  dsimp only
  cases hlookup : data'.lookup DOMAIN with
  | none => exact Or.inl rfl
  | some v =>
    obtain ⟨_, data₁, _, hd, hd', _, _, hall⟩ := hvol.mapping_ok _ _ _ _ h
    cases hd
    cases hd'
    obtain ⟨w, _, hfield⟩ := lookup_of_fields hall hlookup
    have hdomain : vol.validate (domainSchema vol cv) w = some v := hfield.2
    exact Or.inr ⟨v, rfl, reads_of_schema hvol hcv hdomain⟩

theorem temperatureSchema_yaml {addr : ℕ} (hn : DeviceConf.AddrInRange addr) {entityId : String}
    (hid : validEntityId vol cv entityId) :
    let y : Yaml := .dict [("type", .str "temperature_sensor"), ("addr", .int addr),
      ("entity_id", .str entityId)]
    vol.validate (temperatureSchema vol cv) y = some y := by
  have htype := (hvol.literal "temperature_sensor" _ _).2 ⟨rfl, rfl⟩
  have haddr := (addrSchema_iff hvol hcv).2 ⟨addr, rfl, hn, hcv.positiveInt_int addr⟩
  apply mapping_self hvol
  · simp [Complete, required, hasKey]
  · simp only [List.forall_mem_cons]
    exact ⟨⟨rfl, htype⟩, ⟨rfl, haddr⟩, ⟨rfl, hid⟩, fun kv hkv => absurd hkv List.not_mem_nil⟩

theorem channelsSchema_yaml {addr : ℕ} (hn : DeviceConf.AddrInRange addr) {s : String}
    (hs : s ∈ ["binary_sensor_10ch", "relay_10ch"]) :
    let y : Yaml := .dict [("type", .str s), ("addr", .int addr)]
    vol.validate (deviceSchema vol cv) y = some y := by
  have htype := (hvol.isIn ["binary_sensor_10ch", "relay_10ch"] _ _).2 ⟨⟨s, hs, rfl⟩, rfl⟩
  have haddr := (addrSchema_iff hvol hcv).2 ⟨addr, rfl, hn, hcv.positiveInt_int addr⟩
  refine (any_eq_some hvol).2 (Or.inr ⟨temperatureSchema_none hvol hcv hs rfl, ?_⟩)
  apply mapping_self hvol
  · simp [Complete, required, hasKey]
  · simp only [List.forall_mem_cons]
    exact ⟨⟨rfl, htype⟩, ⟨rfl, haddr⟩, fun kv hkv => absurd hkv List.not_mem_nil⟩

theorem deviceSchema_yaml {conf : DeviceConf} (h : conf.Accepted (validEntityId vol cv)) :
    vol.validate (deviceSchema vol cv) (deviceYaml conf) = some (deviceYaml conf) ∧
      deviceConf (deviceYaml conf) = .ok conf := by
  obtain ⟨type, addr, entityId⟩ := conf
  rcases h with ⟨rfl, hn, id, rfl, hid⟩ | ⟨htype, hn, rfl⟩
  · exact ⟨(any_eq_some hvol).2 (Or.inl (temperatureSchema_yaml hvol hcv hn hid)), rfl⟩
  · simp only [List.mem_cons, List.not_mem_nil, or_false] at htype
    rcases htype with rfl | rfl
    · exact ⟨channelsSchema_yaml hvol hcv hn (by simp), rfl⟩
    · exact ⟨channelsSchema_yaml hvol hcv hn (by simp), rfl⟩

theorem domainSchema_yaml {conf : DomainConf} (h : conf.Accepted vol cv) :
    vol.validate (domainSchema vol cv) (domainYaml conf) = some (domainYaml conf) := by
  have hport := (hvol.str (.str conf.port) _).2 ⟨⟨_, rfl⟩, rfl⟩
  have htype := (hvol.isIn [PORT_TYPE_SERIAL, PORT_TYPE_RS485] _ _).2
    ⟨⟨conf.portType, h.portType, rfl⟩, rfl⟩
  have hdevices : vol.validate (vol.all cv.ensureList (vol.listOf (deviceSchema vol cv)))
      (.list (conf.devices.map deviceYaml)) = some (.list (conf.devices.map deviceYaml)) := by
    refine (all_eq_some hvol).2 ⟨_, hcv.ensureList_list _, (hvol.listOf _ _ _).2 ⟨_, rfl, ?_⟩⟩
    apply List.forall₂_same.2
    intro y hy
    obtain ⟨device, hd, rfl⟩ := List.mem_map.1 hy
    exact (deviceSchema_yaml hvol hcv (h.devices device hd)).1
  apply mapping_self hvol
  · simp [Complete, required, optional, hasKey]
  · simp only [List.forall_mem_cons]
    exact ⟨⟨rfl, hport⟩, ⟨rfl, htype⟩, ⟨rfl, hcv.positiveInt_int conf.baudrate⟩, ⟨rfl, hdevices⟩,
      fun kv hkv => absurd hkv List.not_mem_nil⟩

theorem CONFIG_SCHEMA_toYaml {conf : DomainConf} (h : conf.Accepted vol cv) :
    vol.validate (CONFIG_SCHEMA vol cv) (toYaml conf) = some (toYaml conf) := by
  apply mapping_self hvol
  · simp [Complete]
  · rw [List.forall_mem_singleton]
    refine ⟨rfl, ?_⟩
    simp only [List.find?_cons_of_pos, decide_true]
    exact domainSchema_yaml hvol hcv h

theorem reads_toYaml {conf : DomainConf} (h : conf.Accepted vol cv) :
    Reads (domainYaml conf) conf := by
  refine ⟨rfl, rfl, rfl, _, rfl, ?_⟩
  rw [List.forall₂_map_left_iff, List.forall₂_same]
  exact fun device hd => (deviceSchema_yaml hvol hcv (h.devices device hd)).2

/-- What the schema has made of a configuration it takes as it is, and `async_setup` can read what
it then has under `DOMAIN`; and every configuration that `async_setup` could be meant to read passes
the schema unchanged. -/
theorem schema_round_trip :
    (∀ c c', vol.validate (CONFIG_SCHEMA vol cv) c = some c' →
      vol.validate (CONFIG_SCHEMA vol cv) c' = some c' ∧
      (getItem c' DOMAIN = .error .keyError ∨ ∃ v, getItem c' DOMAIN = .ok v ∧
        ∃ conf : DomainConf, Reads v conf ∧ conf.Accepted vol cv)) ∧
    ∀ conf : DomainConf, conf.Accepted vol cv →
      vol.validate (CONFIG_SCHEMA vol cv) (toYaml conf) = some (toYaml conf) ∧
      ∃ v, getItem (toYaml conf) DOMAIN = .ok v ∧ Reads v conf :=
  ⟨fun c c' h =>
      ⟨idempotent_CONFIG_SCHEMA hvol hcv c c' h, reads_of_CONFIG_SCHEMA hvol hcv h⟩,
    fun _ h => ⟨CONFIG_SCHEMA_toYaml hvol hcv h, _, rfl, reads_toYaml hvol hcv h⟩⟩

end

/-- Texts with a dot are entity identifiers here, and the numbers are those that need no
conversion. -/
def validation : ConfigValidation Validator where
  positiveInt
    | .int (.ofNat n) => some (.int n)
    | _ => none
  ensureList
    | .null => some (.list [])
    | .list l => some (.list l)
    | v => some (.list [v])
  entityId
    | .str s => if '.' ∈ s.toList then some (.str s) else none
    | _ => none

theorem validation_lawful : validation.Lawful Validator.voluptuous where
  positiveInt_int _ := rfl
  positiveInt_ok v w h := by
    change validation.positiveInt v = some w at h
    unfold validation at h
    dsimp only at h
    split at h
    · exact ⟨_, (Option.some.inj h).symm⟩
    · cases h
  ensureList_list _ := rfl
  ensureList_ok v w h := by
    cases v <;> exact ⟨_, (Option.some.inj h).symm⟩
  entityId_ok v w h := by
    change validation.entityId v = some w at h
    unfold validation at h
    dsimp only at h
    split at h
    · split_ifs at h with hs
      cases h
      exact ⟨⟨_, rfl⟩, if_pos hs⟩
    · cases h

def written : Yaml := .dict [(DOMAIN, .dict [("port", .str "/dev/ttyUSB0"),
  ("devices", .dict [("type", .str "relay_10ch"), ("addr", .int 3)])])]

/-- The defaults are put behind what is written, and the only device into a list. -/
theorem written_schema_round_trip :
    let schema := CONFIG_SCHEMA Validator.voluptuous validation
    let c' : Yaml := .dict [(DOMAIN, .dict [("port", .str "/dev/ttyUSB0"),
      ("devices", .list [.dict [("type", .str "relay_10ch"), ("addr", .int 3)]]),
      ("port_type", .str "rs485"), ("baudrate", .int 19200)])]
    Validator.voluptuous.validate schema written = some c' ∧
      Validator.voluptuous.validate schema c' = some c' := by
  intro schema c'
  have h : Validator.voluptuous.validate schema written = some c' := rfl
  exact ⟨h, ((schema_round_trip Validator.voluptuous_lawful validation_lawful).1 written c' h).1⟩

end Config
end Ecto
