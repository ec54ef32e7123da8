import EctoModbus.AsyncSetup
import EctoModbus.Bus.History

/-! From the configuration file to the bus: the devices that the runs of the bus start with are the
ones that `async_setup` has put into `hass.data`. -/

namespace Ecto
open Python Schema Transition BlockTable Config

namespace Integration
open DeviceConf PyM Setup
variable {ρ V ς σ η S : Type} [ModbusSlave σ] [LawfulModbusSlave σ] [RtuServer ς σ]
  [LawfulRtuServer ς] {vol : Voluptuous S} {cv : ConfigValidation S} {c c' v : Yaml}
  {lib : Libraries ρ V ς} {conf : DomainConf} {self self' : Integration ς σ} {r : Bool}

/-- The bus of the devices in `hass.data`, whose entities have not been added yet. -/
def bus (self : Integration ς σ) (hass : η) : Bus σ η :=
  ⟨(self.data.elim [] Prod.fst).map Node.fresh, hass⟩

theorem setup_of_asyncSetup (hlib : lib.Lawful) (hv : getItem c DOMAIN = .ok v)
    (hr : conf.Reads v) (hacc : conf.Accepted vol cv) (h : asyncSetup lib c self = .ok r self') :
    ∃ start s : Setup ς σ (Fin 10), Fresh start ∧ setupDevices conf.devices start = .ok () s ∧
      ∀ hass : η, self'.bus hass = BusSystem.ofSetup s hass := by
  rcases asyncSetup_cases hlib hv hr hacc.addrInRange self with
    ⟨_, _, he⟩ | ⟨_, _, _, _, he⟩ | ⟨_, server, _, _, hfresh,
      ⟨s, hs, hok⟩ | ⟨_, _, _, _, _, _, _, _, he⟩⟩
  · cases h.symm.trans he
  · cases h.symm.trans he
  · have hbuilt : List.Forall₂ Built conf.devices s.ectoDevices :=
      (complete_of_ok hfresh hs).devices.imp fun _ _ h => h.1
    rw [hok, installDevices, asyncRefresh_built hbuilt] at h
    cases h
    exact ⟨loopStart server self, s, hfresh, hs, fun _ => rfl⟩
  · cases h.symm.trans he

variable [HassStates η]

/-- Of any configuration that the schema has let through: if `async_setup` returns, then in every
run of the devices it has put into `hass.data`, what a master reads of each of them and what its
entities show follows from its entry in the file and from what has come to the bus. -/
theorem configuration_shown (hvol : vol.Lawful) (hcv : cv.Lawful vol) (hlib : lib.Lawful)
    (hh : HassStates.NeverRaises η) (hc : vol.validate (CONFIG_SCHEMA vol cv) c' = some c)
    (h : asyncSetup lib c self = .ok r self')
    (float : String → Except PyException PyFloat) (hass : η) {as : List BusSystem.Action}
    (hr : (BusSystem.machine η float).IsRun (self'.bus hass) as) :
    ∃ v, getItem c DOMAIN = .ok v ∧ ∃ conf : DomainConf, conf.Reads v ∧ conf.Accepted vol cv ∧
      List.Forall₂ (fun device n => n.addr = device.addr ∧ n.device.deviceClass = device.type ∧
          n.Observed (device.panel float as)) conf.devices
        ((BusSystem.machine η float).run (self'.bus hass) as).nodes := by
  rcases reads_of_CONFIG_SCHEMA hvol hcv hc with hno | ⟨v, hv, conf, hreads, hacc⟩
  · cases h.symm.trans (asyncSetup_no_domain hno)
  · obtain ⟨start, s, hfresh, hs, hbus⟩ := setup_of_asyncSetup (η := η) hlib hv hreads hacc h
    rw [hbus hass] at hr ⊢
    refine ⟨v, hv, conf, hreads, hacc, (BusSystem.forall₂_history hh hfresh hs hass hr).imp ?_⟩
    exact fun _ _ hn => ⟨hn.1, hn.2.1, hn.2.2.2.observed⟩

/-- The values that the schema makes of a relay and a contact sensor. -/
def pair : Yaml := .dict [("port", .str "/dev/ttyUSB0"),
  ("devices", .list [.dict [("type", .str "relay_10ch"), ("addr", .int 3)],
    .dict [("type", .str "binary_sensor_10ch"), ("addr", .int 4)]]),
  ("port_type", .str "serial"), ("baudrate", .int 9600)]

def setUpPair : Integration SlaveIds RegTable :=
  (asyncSetup anyPort (.dict [(DOMAIN, pair)])).after noDevices

theorem pair_configuration_shown :
    let as : List BusSystem.Action := [.addEntity 3 0 none, .addEntity 4 9 none, .turnOn 4 9,
      .masterWrite 3 0x10 [0x0100#16]]
    ∃ v, getItem (.dict [(DOMAIN, pair)]) DOMAIN = .ok v ∧ ∃ conf : DomainConf, conf.Reads v ∧
      conf.Accepted Validator.voluptuous validation ∧
      List.Forall₂ (fun device n => n.addr = device.addr ∧ n.device.deviceClass = device.type ∧
          n.Observed (device.panel EctoTemperatureSensor.parsed as)) conf.devices
        ((BusSystem.machine Display EctoTemperatureSensor.parsed).run
          (setUpPair.bus fun _ => none) as).nodes := by
  intro as
  have hc : Validator.voluptuous.validate (CONFIG_SCHEMA Validator.voluptuous validation)
      (.dict [(DOMAIN, pair)]) = some (.dict [(DOMAIN, pair)]) := rfl
  have h : asyncSetup anyPort (.dict [(DOMAIN, pair)]) noDevices = .ok true setUpPair := rfl
  have hr : (BusSystem.machine Display EctoTemperatureSensor.parsed).IsRun
      (setUpPair.bus fun _ => none) as := by decide +kernel
  exact configuration_shown Validator.voluptuous_lawful validation_lawful anyPort_lawful
    display_neverRaises hc h _ _ hr

end Integration
end Ecto
