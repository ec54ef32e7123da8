import EctoModbus.AsyncSetupDefs
import EctoModbus.Config
import EctoModbus.Devices.Relay

/-! How `async_setup` can end. The port may not open, the server may not come about, and an address
that the schema has let through twice stops the loop with the server running and half of the devices
registered. -/

namespace Ecto
open Python Schema BlockTable Config

/-! ## The loop -/

namespace Setup
open DeviceConf PyM
variable {ς σ κ : Type} [ModbusSlave σ] [LawfulModbusSlave σ] [RtuServer ς σ] [LawfulRtuServer ς]
  {confs : List DeviceConf} {s : Setup ς σ κ}

/-- With addresses in range, only an address that the server has already ends the loop. -/
theorem setupDevices_cases (haddr : ∀ conf ∈ confs, AddrInRange conf.addr) (s : Setup ς σ κ) :
    (∃ s', setupDevices confs s = .ok () s') ∨
      ∃ confs₁ conf confs₂ s₁ e, confs = confs₁ ++ conf :: confs₂ ∧
        setupDevices confs₁ s = .ok () s₁ ∧ conf.addr ∈ slaveIds s₁.server ∧
        setupDevices confs s = .error e s₁ := by
  induction confs generalizing s with
  | nil => exact Or.inl ⟨s, rfl⟩
  | cons conf confs ih =>
    obtain ⟨⟨h3, h32⟩, hrest⟩ := List.forall_mem_cons.1 haddr
    by_cases hid : conf.addr ∈ slaveIds s.server
    · -- the server refuses the address before anything else is done
      obtain ⟨e, he⟩ := LawfulRtuServer.addSlave_dup hid
      refine Or.inr ⟨[], conf, confs, s, e, rfl, rfl, hid, ?_⟩
      rw [setupDevices_cons]
      exact bind_error (setupDevice_rejected he)
    · obtain ⟨⟨slave, server⟩, ha⟩ := LawfulRtuServer.addSlave_new hid (by omega) (by omega)
      obtain ⟨device, s₁, h₁, _⟩ := setupDevice_added ha
      have hcons : ∀ confs, setupDevices (conf :: confs) s = setupDevices confs s₁ := by
        intro confs
        rw [setupDevices_cons, bind_ok h₁]
      rcases ih hrest s₁ with ⟨s', hs'⟩ | ⟨confs₁, conf', confs₂, s₂, e, rfl, hok, hid', herr⟩
      · exact Or.inl ⟨s', (hcons confs).trans hs'⟩
      · exact Or.inr ⟨conf :: confs₁, conf', confs₂, s₂, e, rfl, (hcons confs₁).trans hok, hid',
          (hcons _).trans herr⟩

end Setup

namespace Integration
open DeviceConf PyM Setup
variable {ρ V ς σ κ : Type} [ModbusSlave σ] [RtuServer ς σ] {confs : List DeviceConf}
  {ys : List Yaml}

theorem setupEntries_eq (h : List.Forall₂ (fun y conf => deviceConf y = .ok conf) ys confs) :
    (setupEntries ys : PyM (Setup ς σ κ) Unit) = setupDevices confs := by
  induction h with
  | nil => rfl
  | @cons y conf ys confs hy _ ih =>
    show (PyM.ofExcept (deviceConf y) >>= setupDevice) >>= (fun _ => setupEntries ys) = _
    rw [hy, ofExcept_ok, pure_bind, ih]
    rfl

/-! ## The loop on the integration -/

variable {self : Integration ς σ} {server : ς} {s : Setup ς σ (Fin 10)}

/-- The state the loop starts from. -/
def loopStart (server : ς) (self : Integration ς σ) : Setup ς σ (Fin 10) :=
  ⟨server, [], self.trackedEntities, self.deviceRegistry⟩

/-- What the loop has got to, also when it raises. -/
def afterLoop (s : Setup ς σ (Fin 10)) (self : Integration ς σ) : Integration ς σ :=
  { self with
    server := some s.server
    trackedEntities := s.trackedEntities
    deviceRegistry := s.deviceRegistry }

theorem setupLoop_ok (h : List.Forall₂ (fun y conf => deviceConf y = .ok conf) ys confs)
    (hs : setupDevices confs (loopStart server self) = .ok () s) :
    setupLoop server ys self = .ok (s.ectoDevices, s.server) (afterLoop s self) := by
  rw [← setupEntries_eq h] at hs
  have hloop : (do
      setupEntries ys
      let s ← get
      return (s.ectoDevices, s.server) : PyM (Setup ς σ (Fin 10)) _) (loopStart server self) =
      .ok (s.ectoDevices, s.server) s := bind_ok hs
  exact zoom_ok hloop

theorem setupLoop_error (h : List.Forall₂ (fun y conf => deviceConf y = .ok conf) ys confs)
    {e : PyException} (hs : setupDevices confs (loopStart server self) = .error e s) :
    setupLoop server ys self = .error e (afterLoop s self) := by
  rw [← setupEntries_eq h] at hs
  have hloop : (do
      setupEntries ys
      let s ← get
      return (s.ectoDevices, s.server) : PyM (Setup ς σ (Fin 10)) _) (loopStart server self) =
      .error e s := bind_error hs
  exact zoom_error hloop

/-! ## The whole set-up -/

variable {c v : Yaml} {lib : Libraries ρ V ς} {conf : DomainConf}

def spec (conf : DomainConf) : PortSpec :=
  portSpec (.str conf.portType) (.str conf.port) (.int conf.baudrate)

def hooked (self : Integration ς σ) : Integration ς σ :=
  { self with hooks := self.hooks ++ ["modbus.Databank.on_error"] }

def opened (conf : DomainConf) (self : Integration ς σ) : Integration ς σ :=
  { hooked self with ports := self.ports ++ [spec conf] }

def started (conf : DomainConf) (server : ς) (self : Integration ς σ) : Integration ς σ :=
  { opened conf self with server := some server }

theorem asyncSetup_no_domain {e : PyException} (hv : getItem c DOMAIN = .error e) :
    asyncSetup lib c self = .error e self := by
  unfold asyncSetup
  rw [hv]
  rfl

theorem asyncSetup_no_port (hv : getItem c DOMAIN = .ok v) (hr : conf.Reads v) {e : PyException}
    (hp : lib.openPort (spec conf) = .error e) :
    asyncSetup lib c self = .error e (hooked self) := by
  unfold asyncSetup
  simp only [hv, hr.port, hr.portType, hr.baudrate, ofExcept_ok, pure_bind, modify_bind]
  rw [show lib.openPort (portSpec _ _ _) = _ from hp]
  rfl

theorem asyncSetup_no_server (hv : getItem c DOMAIN = .ok v) (hr : conf.Reads v) {port : Port ρ V}
    (hp : lib.openPort (spec conf) = .ok port) {e : PyException}
    (hs : lib.rtuServer (LoggingSerialWrapper.init port) = .error e) :
    asyncSetup lib c self = .error e (opened conf self) := by
  unfold asyncSetup
  simp only [hv, hr.port, hr.portType, hr.baudrate, ofExcept_ok, pure_bind, modify_bind]
  rw [show lib.openPort (portSpec _ _ _) = _ from hp]
  simp only [ofExcept_ok, pure_bind, modify_bind, hs]
  rfl

theorem asyncSetup_open (hv : getItem c DOMAIN = .ok v) (hr : conf.Reads v) {port : Port ρ V}
    (hp : lib.openPort (spec conf) = .ok port)
    (hs : lib.rtuServer (LoggingSerialWrapper.init port) = .ok server)
    (hys : getItem v "devices" = .ok (.list ys)) :
    asyncSetup lib c self =
      (setupLoop server ys >>= fun p => installDevices p.1 p.2) (started conf server self) := by
  have hlist : getList v "devices" = .ok ys := by
    unfold getList
    rw [hys]
    rfl
  unfold asyncSetup
  simp only [hv, hr.port, hr.portType, hr.baudrate, hlist, ofExcept_ok, pure_bind, modify_bind]
  rw [show lib.openPort (portSpec _ _ _) = _ from hp]
  simp only [ofExcept_ok, pure_bind, modify_bind, hs]
  rfl

variable [LawfulModbusSlave σ] [LawfulRtuServer ς]

/-- A new relay has nothing to copy. -/
theorem updateDevice_built {conf : DeviceConf} {device : Device σ κ} (h : Built conf device)
    (invoke : Call κ → PyM Unit Unit) :
    EctoCoordinator.updateDevice invoke (device, ()) = .ok () (device, ()) := by
  obtain ⟨slave, d₀, entityId, hs, hd, ha⟩ := h
  have hsetUp := (setUp_of_construct hs hd).1
  clear hs hd
  rcases hsetUp with ⟨hs, hd⟩ | ⟨hs, hd⟩ | ⟨hs, hd⟩
  · cases ha
    have hinit := EctoRelay10CH.models_of_init hs hd
    have hsync := EctoRelay10CH.syncChannelsFromRegister_eq hinit invoke ()
    have hidle : EctoRelay10CH.parse invoke _ _ = _ :=
      EctoRelay10CH.parse_idle hinit decode_zero.symm ()
    simp only [EctoCoordinator.updateDevice, hsync.trans hidle]
  · cases ha
    rfl
  · -- `async_init` sets `hass` and nothing that a poll looks at
    rename_i d₁
    obtain ⟨entityId', hok⟩ := EctoTemperatureSensor.asyncInit_ok d₁
    simp only [Device.asyncInit, hok] at ha
    cases ha
    rfl

theorem asyncRefresh_built {devices : List (Device σ (Fin 10))}
    (h : List.Forall₂ Built confs devices) : asyncRefresh devices = devices := by
  have hround : ∀ (d : Device σ (Fin 10)) (w : Unit), (∃ conf, Built conf d) →
      ∃ a v, EctoCoordinator.updateDevice (fun _ => (pure () : PyM Unit Unit)) (d, w) =
        .ok a (id d, v) :=
    fun d _ ⟨_, hd⟩ => ⟨(), (), updateDevice_built hd _⟩
  have hall : ∀ d ∈ devices, ∃ conf, Built conf d := by
    intro d hd
    obtain ⟨conf, _, hb⟩ := exists_left_of_mem h hd
    exact ⟨conf, hb⟩
  obtain ⟨v, hok⟩ := each_ok hround hall ()
  rw [List.map_id] at hok
  have hafter := after_ok hok
  show ((PyM.each _ >>= fun _ => pure true).after _).1 = devices
  rw [after_bind_pure, hafter]

/-- The loop runs on a new server, if port and server come about, and `async_setup` ends as the loop
does. -/
theorem asyncSetup_cases (hlib : lib.Lawful) (hv : getItem c DOMAIN = .ok v) (hr : conf.Reads v)
    (haddr : ∀ device ∈ conf.devices, AddrInRange device.addr) (self : Integration ς σ) :
    (∃ e, lib.openPort (spec conf) = .error e ∧ asyncSetup lib c self = .error e (hooked self)) ∨
    (∃ port e, lib.openPort (spec conf) = .ok port ∧
      lib.rtuServer (LoggingSerialWrapper.init port) = .error e ∧
      asyncSetup lib c self = .error e (opened conf self)) ∨
    ∃ port server, lib.openPort (spec conf) = .ok port ∧
      lib.rtuServer (LoggingSerialWrapper.init port) = .ok server ∧ Fresh (loopStart server self) ∧
      ((∃ s, setupDevices conf.devices (loopStart server self) = .ok () s ∧
          asyncSetup lib c self =
            installDevices s.ectoDevices s.server (afterLoop s (started conf server self))) ∨
        ∃ confs₁ conf' confs₂ s e, conf.devices = confs₁ ++ conf' :: confs₂ ∧
          setupDevices confs₁ (loopStart server self) = .ok () s ∧
          conf'.addr ∈ slaveIds s.server ∧
          asyncSetup lib c self = .error e (afterLoop s (started conf server self))) := by
  cases hp : lib.openPort (spec conf) with
  | error e => exact Or.inl ⟨e, rfl, asyncSetup_no_port hv hr hp⟩
  | ok port =>
    cases hs : lib.rtuServer (LoggingSerialWrapper.init port) with
    | error e => exact Or.inr (Or.inl ⟨port, e, rfl, hs, asyncSetup_no_server hv hr hp hs⟩)
    | ok server =>
      obtain ⟨ys, hys, hall⟩ := hr.devices
      have hopen : asyncSetup lib c self = _ := asyncSetup_open hv hr hp hs hys
      refine Or.inr (Or.inr ⟨port, server, rfl, hs, ⟨hlib _ server hs, rfl⟩, ?_⟩)
      -- entries and addresses have been checked, so only a repeated address can end the loop
      rcases setupDevices_cases haddr (loopStart server (started conf server self)) with
        ⟨s, hloop⟩ | ⟨confs₁, conf', confs₂, s, e, heq, hloop, hid, herr⟩
      · exact Or.inl ⟨s, hloop, hopen.trans (bind_ok (setupLoop_ok hall hloop))⟩
      · exact Or.inr ⟨confs₁, conf', confs₂, s, e, heq, hloop, hid,
          hopen.trans (bind_error (setupLoop_error hall herr))⟩

/-- `async_setup` has returned: there is one device for each entry of the configuration, on the
server that is running, registered under its address, and all of it is in `hass.data`. -/
structure Installed (conf : DomainConf) (self self' : Integration ς σ) : Prop where
  hooks : self'.hooks = self.hooks ++ ["modbus.Databank.on_error"]
  ports : self'.ports = self.ports ++ [spec conf]
  intervals : self'.intervals = self.intervals + 1
  platforms : self'.platforms = self.platforms ++ ["switch"]
  devices : ∃ devices server, self'.server = some server ∧ slaveIds server = conf.devices.map addr ∧
    self'.data = some (devices, server) ∧
    List.Forall₂ (fun conf device => Built conf device ∧
      self'.deviceRegistry conf.addr = some device) conf.devices devices

/-- The loop has raised at an address that came twice. The server is running, with the devices of
the entries before, and these are registered; Home Assistant has been given nothing. -/
structure HalfInstalled (conf : DomainConf) (self self' : Integration ς σ) : Prop where
  hooks : self'.hooks = self.hooks ++ ["modbus.Databank.on_error"]
  ports : self'.ports = self.ports ++ [spec conf]
  intervals : self'.intervals = self.intervals
  platforms : self'.platforms = self.platforms
  data : self'.data = self.data
  devices : ∃ confs₁ again confs₂ devices server, conf.devices = confs₁ ++ again :: confs₂ ∧
    (confs₁.map addr).Nodup ∧ again.addr ∈ confs₁.map addr ∧
    self'.server = some server ∧ slaveIds server = confs₁.map addr ∧
    List.Forall₂ (fun conf device => Built conf device ∧
      self'.deviceRegistry conf.addr = some device) confs₁ devices

/-- How a set-up can end. -/
inductive Outcome (lib : Libraries ρ V ς) (conf : DomainConf) (self : Integration ς σ) :
    EStateM.Result PyException (Integration ς σ) Bool → Prop
  | noPort {e : PyException} (hp : lib.openPort (spec conf) = .error e) :
      Outcome lib conf self (.error e (hooked self))
  | noServer {port : Port ρ V} {e : PyException} (hp : lib.openPort (spec conf) = .ok port)
      (hs : lib.rtuServer (LoggingSerialWrapper.init port) = .error e) :
      Outcome lib conf self (.error e (opened conf self))
  | repeated {port : Port ρ V} {server : ς} {e : PyException} {self' : Integration ς σ}
      (hp : lib.openPort (spec conf) = .ok port)
      (hs : lib.rtuServer (LoggingSerialWrapper.init port) = .ok server)
      (hd : ¬ (conf.devices.map addr).Nodup) (h : HalfInstalled conf self self') :
      Outcome lib conf self (.error e self')
  | installed {port : Port ρ V} {server : ς} {self' : Integration ς σ}
      (hp : lib.openPort (spec conf) = .ok port)
      (hs : lib.rtuServer (LoggingSerialWrapper.init port) = .ok server)
      (hd : (conf.devices.map addr).Nodup) (h : Installed conf self self') :
      Outcome lib conf self (.ok true self')

section
variable {S : Type} {vol : Voluptuous S} {cv : ConfigValidation S}

theorem outcome_of_accepted (hlib : lib.Lawful) (hv : getItem c DOMAIN = .ok v) (hr : conf.Reads v)
    (hacc : conf.Accepted vol cv) (self : Integration ς σ) :
    Outcome lib conf self (asyncSetup lib c self) := by
  rcases asyncSetup_cases hlib hv hr hacc.addrInRange self with
    ⟨e, hp, h⟩ | ⟨port, e, hp, hs, h⟩ | ⟨port, server, hp, hs, hfresh,
      ⟨s, hloop, h⟩ | ⟨confs₁, again, confs₂, s, e, heq, hloop, hid, h⟩⟩
  · rw [h]
    exact .noPort hp
  · rw [h]
    exact .noServer hp hs
  · have hcomplete := complete_of_ok hfresh hloop
    have hbuilt : List.Forall₂ Built conf.devices s.ectoDevices :=
      hcomplete.devices.imp fun _ _ h => h.1
    rw [h, installDevices, asyncRefresh_built hbuilt]
    exact .installed hp hs (nodup_of_ok hfresh hloop) ⟨rfl, rfl, rfl, rfl, s.ectoDevices, s.server,
      rfl, hcomplete.ids, rfl, hcomplete.devices⟩
  · have hcomplete := complete_of_ok hfresh hloop
    rw [hcomplete.ids] at hid
    rw [h]
    refine .repeated hp hs (fun hnodup => ?_) ⟨rfl, rfl, rfl, rfl, rfl, confs₁, again, confs₂,
      s.ectoDevices, s.server, heq, nodup_of_ok hfresh hloop, hid, rfl, hcomplete.ids,
      hcomplete.devices⟩
    -- the server has the address from an entry further up
    rw [heq, List.map_append, List.nodup_append] at hnodup
    exact hnodup.2.2 _ hid _ (by simp) rfl

/-- Of a configuration that the schema has let through, `async_setup` makes all there is to make, or
raises because there is nothing under its domain, the port does not open, the server does not come
about, or an address comes twice. -/
theorem asyncSetup_outcome (hvol : vol.Lawful) (hcv : cv.Lawful vol) (hlib : lib.Lawful)
    {c' : Yaml} (hc : vol.validate (CONFIG_SCHEMA vol cv) c' = some c) (self : Integration ς σ) :
    (getItem c DOMAIN = .error .keyError ∧ asyncSetup lib c self = .error .keyError self) ∨
      ∃ v, getItem c DOMAIN = .ok v ∧ ∃ conf : DomainConf, conf.Reads v ∧ conf.Accepted vol cv ∧
        Outcome lib conf self (asyncSetup lib c self) := by
  rcases reads_of_CONFIG_SCHEMA hvol hcv hc with hv | ⟨v, hv, conf, hr, hacc⟩
  · exact Or.inl ⟨hv, asyncSetup_no_domain hv⟩
  · exact Or.inr ⟨v, hv, conf, hr, hacc, outcome_of_accepted hlib hv hr hacc self⟩

end

/-- Libraries that open any port. A server takes the rate of its port to compute its timeouts, and
only keeps its slaves' identifiers. -/
def anyPort : Libraries (List UInt8) ℤ SlaveIds where
  openPort
    | .rs485 _ (.int baudrate) _ =>
      .ok ⟨[], Function.update (fun _ => none) "baudrate" (some baudrate)⟩
    | .serial _ (.int baudrate) _ =>
      .ok ⟨[], Function.update (fun _ => none) "baudrate" (some baudrate)⟩
    | _ => .error .valueError
  rtuServer wrapper :=
    if wrapper.serial.attributes "baudrate" = some 0 then .error (.other "ZeroDivisionError")
    else .ok []

theorem anyPort_lawful : (anyPort.Lawful : Prop) := by
  intro wrapper server h
  unfold anyPort at h
  dsimp only at h
  split_ifs at h
  cases h
  rfl

def noDevices : Integration SlaveIds RegTable := ⟨[], [], none, [], fun _ => none, none, 0, []⟩

/-- Two relays at one address. -/
def twice : Yaml := .dict [(DOMAIN, .dict [("port", .str "/dev/ttyUSB0"),
  ("devices", .list [.dict [("type", .str "relay_10ch"), ("addr", .int 3)],
    .dict [("type", .str "relay_10ch"), ("addr", .int 3)]])])]

theorem twice_asyncSetup_outcome :
    let v : Yaml := .dict [("port", .str "/dev/ttyUSB0"),
      ("devices", .list [.dict [("type", .str "relay_10ch"), ("addr", .int 3)],
        .dict [("type", .str "relay_10ch"), ("addr", .int 3)]]),
      ("port_type", .str "rs485"), ("baudrate", .int 19200)]
    let c : Yaml := .dict [(DOMAIN, v)]
    Validator.voluptuous.validate (CONFIG_SCHEMA Validator.voluptuous validation) twice = some c ∧
      ∃ conf : DomainConf, conf.Reads v ∧ conf.Accepted Validator.voluptuous validation ∧
        Outcome anyPort conf noDevices (asyncSetup anyPort c noDevices) := by
  intro v c
  have hc : Validator.voluptuous.validate (CONFIG_SCHEMA Validator.voluptuous validation) twice =
      some c := rfl
  have hv : getItem c DOMAIN = .ok v := rfl
  rcases asyncSetup_outcome Validator.voluptuous_lawful validation_lawful anyPort_lawful hc
    noDevices with ⟨hno, _⟩ | ⟨v', hv', h⟩
  · cases hv.symm.trans hno
  · cases hv.symm.trans hv'
    exact ⟨hc, h⟩

end Integration
end Ecto
