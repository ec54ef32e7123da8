import EctoModbus.Library.Schema
import EctoModbus.Setup

/-! `CONFIG_SCHEMA` in `__init__.py`, and what `async_setup` reads of a configuration. -/

namespace Ecto
open Python Schema

/-- The schemas of `homeassistant.helpers.config_validation`, which is not part of this
repository. -/
structure ConfigValidation (S : Type) where
  positiveInt : S
  ensureList : S
  entityId : S

/-- Each returns values of its kind, and takes such values as they are. -/
structure ConfigValidation.Lawful {S : Type} (vol : Voluptuous S) (cv : ConfigValidation S) :
    Prop where
  positiveInt_int : ∀ n : ℕ, vol.validate cv.positiveInt (.int n) = some (.int n)
  positiveInt_ok : ∀ v w, vol.validate cv.positiveInt v = some w → ∃ n : ℕ, w = .int n
  ensureList_list : ∀ l, vol.validate cv.ensureList (.list l) = some (.list l)
  ensureList_ok : ∀ v w, vol.validate cv.ensureList v = some w → ∃ l, w = .list l
  entityId_ok : ∀ v w, vol.validate cv.entityId v = some w →
    (∃ s, w = .str s) ∧ vol.validate cv.entityId w = some w

namespace Config

def DOMAIN : String := "ecto_modbus"
def DEFAULT_BAUDRATE : ℤ := 19200
def PORT_TYPE_SERIAL : String := "serial"
def PORT_TYPE_RS485 : String := "rs485"

/-! ## The schema -/

section
variable {S : Type}

/-- `vol.Required(key): schema` -/
def required (key : String) (schema : S) : Entry S := ⟨key, true, none, schema⟩

/-- `vol.Optional(key, default): schema` -/
def optional (key : String) (default : Yaml) (schema : S) : Entry S :=
  ⟨key, false, some default, schema⟩

variable (vol : Voluptuous S) (cv : ConfigValidation S)

def addrSchema : S := vol.all cv.positiveInt (vol.range 3 32)

def temperatureSchema : S := vol.mapping false [
  required "type" (vol.literal "temperature_sensor"),
  required "addr" (addrSchema vol cv),
  required "entity_id" cv.entityId]

def channelsSchema : S := vol.mapping false [
  required "type" (vol.isIn ["binary_sensor_10ch", "relay_10ch"]),
  required "addr" (addrSchema vol cv)]

def deviceSchema : S := vol.any (temperatureSchema vol cv) (channelsSchema vol cv)

def domainSchema : S := vol.mapping false [
  required "port" vol.str,
  optional "port_type" (.str PORT_TYPE_RS485) (vol.isIn [PORT_TYPE_SERIAL, PORT_TYPE_RS485]),
  optional "baudrate" (.int DEFAULT_BAUDRATE) cv.positiveInt,
  required "devices" (vol.all cv.ensureList (vol.listOf (deviceSchema vol cv)))]

def CONFIG_SCHEMA : S := vol.mapping true [⟨DOMAIN, false, none, domainSchema vol cv⟩]

end

/-! ## Reading -/

/-- `v[key]` -/
def getItem (v : Yaml) (key : String) : Except PyException Yaml :=
  match v with
  | .dict data =>
    match data.lookup key with
    | some w => .ok w
    | none => .error .keyError
  | _ => .error .typeError

/-- `v.get(key, default)` -/
def get (v : Yaml) (key : String) (default : Yaml) : Except PyException Yaml :=
  match v with
  | .dict data => .ok ((data.lookup key).getD default)
  | _ => .error .attributeError

/-- `DEVICE_CLASSES[device_type]` -/
def deviceClass : Yaml → Except PyException DeviceClass
  | .str "binary_sensor_10ch" => .ok .binarySensor10ch
  | .str "relay_10ch" => .ok .relay10ch
  | .str "temperature_sensor" => .ok .temperatureSensor
  | .list _ => .error .typeError
  | .dict _ => .error .typeError
  | _ => .error .keyError

/-- What the loop and the constructors read of an entry of `devices`. -/
def deviceConf (v : Yaml) : Except PyException DeviceConf := do
  let deviceType ← getItem v "type"
  let deviceAddr ← getItem v "addr"
  let type ← deviceClass deviceType
  match deviceAddr, ← get v "entity_id" .null with
  | .int (.ofNat addr), .str entityId => return ⟨type, addr, some entityId⟩
  | .int (.ofNat addr), .null => return ⟨type, addr, none⟩
  | _, _ => throw .typeError

end Config
end Ecto
