import EctoModbus.Library.PyM
import EctoModbus.Library.Transition

/-! `LoggingSerialWrapper` in `__init__.py`: the serial port as it is handed to the Modbus server.
Attributes that every Python object has are left out. -/

namespace Ecto
open Python Transition

/-- How a kind of serial port acts. Reads and writes may depend on its attributes, which are plain
values, and change its byte stream. -/
structure SerialPort (ρ V : Type) where
  read : (String → Option V) → ℤ → PyM ρ (List UInt8)
  write : (String → Option V) → List UInt8 → PyM ρ V

structure Port (ρ V : Type) where
  stream : ρ
  attributes : String → Option V

inductive PortOp (V : Type) where
  | read (size : ℤ)
  | write (data : List UInt8)
  | getattr (name : String)
  | setattr (name : String) (value : V)

/-- What an operation returns; `object` is something only the wrapper has. -/
inductive Reply (V : Type) where
  | bytes (data : List UInt8)
  | value (v : V)
  | none
  | object (name : String)
  deriving DecidableEq, Repr

namespace Port
variable {ρ V : Type}

def onStream {α : Type} (m : PyM ρ α) : PyM (Port ρ V) α :=
  PyM.zoom Port.stream (fun stream self => { self with stream := stream }) m

def read (port : SerialPort ρ V) (size : ℤ) : PyM (Port ρ V) (List UInt8) := do
  let self ← get
  onStream (port.read self.attributes size)

def write (port : SerialPort ρ V) (data : List UInt8) : PyM (Port ρ V) V := do
  let self ← get
  onStream (port.write self.attributes data)

def getattr (name : String) : PyM (Port ρ V) V := do
  let self ← get
  PyM.ofOption .attributeError (self.attributes name)

def setattr (name : String) (v : V) : PyM (Port ρ V) Unit :=
  modify fun self => { self with attributes := Function.update self.attributes name (some v) }

def call (port : SerialPort ρ V) : PortOp V → PyM (Port ρ V) (Reply V)
  | .read size => return .bytes (← read port size)
  | .write data => return .value (← write port data)
  | .getattr name => return .value (← getattr name)
  | .setattr name v => do
    setattr name v
    return .none

end Port

/-- What an attribute of the wrapper can hold: what `__init__` stores, or a value assigned since. -/
inductive Attribute (V : Type) where
  | serial
  | logger
  | portName
  | plain (v : V)

structure LogEntry (V : Type) where
  format : String
  portName : Attribute V
  len : ℕ
  hexStr : String

/-- The object's `__dict__`, the port it was made for, and what has been logged. -/
structure LoggingSerialWrapper (ρ V : Type) where
  dict : String → Option (Attribute V)
  serial : Port ρ V
  log : List (LogEntry V)

namespace LoggingSerialWrapper
variable {ρ V α : Type}

def initialDict : String → Option (Attribute V) :=
  Function.update (Function.update (Function.update (fun _ => none)
    "_serial" (some .serial)) "_logger" (some .logger)) "_port_name" (some .portName)

def init (port : Port ρ V) : LoggingSerialWrapper ρ V := ⟨initialDict, port, []⟩

/-- The methods of the class. There is no `__setattr__` among them. -/
def classAttributes : List String := ["__init__", "read", "write", "__getattr__"]

def hexByte (b : UInt8) : String :=
  String.ofList [Nat.digitChar (b.toNat / 16), Nat.digitChar (b.toNat % 16)]

def hexStr (data : List UInt8) : String := " ".intercalate (data.map hexByte)

def ownAttribute (name : String) : PyM (LoggingSerialWrapper ρ V) (Attribute V) := do
  let self ← get
  PyM.ofOption .attributeError (self.dict name)

/-- A call on `self._serial`; a plain value has no such method. -/
def onSerial (m : PyM (Port ρ V) α) : PyM (LoggingSerialWrapper ρ V) α := do
  match ← ownAttribute "_serial" with
  | .serial =>
    PyM.zoom LoggingSerialWrapper.serial (fun port self => { self with serial := port }) m
  | _ => throw .attributeError

def debug (format : String) (data : List UInt8) : PyM (LoggingSerialWrapper ρ V) Unit := do
  match ← ownAttribute "_logger" with
  | .logger =>
    let name ← ownAttribute "_port_name"
    modify fun self =>
      { self with log := self.log ++ [⟨format, name, data.length, hexStr data⟩] }
  | _ => throw .attributeError

def read (port : SerialPort ρ V) (size : ℤ) : PyM (LoggingSerialWrapper ρ V) (List UInt8) := do
  let data ← onSerial (Port.read port size)
  if data ≠ [] then debug "RT: %s RX (%d bytes): %s" data else pure ()
  return data

def write (port : SerialPort ρ V) (data : List UInt8) : PyM (LoggingSerialWrapper ρ V) V := do
  debug "TX: %s TX (%d bytes): %s" data
  onSerial (Port.write port data)

/-- The object's own attributes come first, then those of the class, then `__getattr__`. -/
def getattr (name : String) : PyM (LoggingSerialWrapper ρ V) (Reply V) := do
  let self ← get
  match self.dict name with
  | some (.plain v) => return .value v
  | some _ => return .object name
  | none =>
    if name ∈ classAttributes then return .object name
    else return .value (← onSerial (Port.getattr name))

def setattr (name : String) (v : V) : PyM (LoggingSerialWrapper ρ V) Unit :=
  modify fun self => { self with dict := Function.update self.dict name (some (.plain v)) }

/-- A method that an assignment has hidden is a plain value, and cannot be called. -/
def method (name : String) (m : PyM (LoggingSerialWrapper ρ V) α) :
    PyM (LoggingSerialWrapper ρ V) α := do
  let self ← get
  match self.dict name with
  | some _ => throw .typeError
  | none => m

def call (port : SerialPort ρ V) : PortOp V → PyM (LoggingSerialWrapper ρ V) (Reply V)
  | .read size => return .bytes (← method "read" (read port size))
  | .write data => return .value (← method "write" (write port data))
  | .getattr name => getattr name
  | .setattr name v => do
    setattr name v
    return .none

end LoggingSerialWrapper

namespace SerialWrapper
variable {ρ V : Type}

/-- A wrapped port, and the same port used directly. -/
abbrev State (ρ V : Type) := LoggingSerialWrapper ρ V × Port ρ V

def machine (port : SerialPort ρ V) : Machine (State ρ V) (PortOp V) where
  Init s := s.1 = LoggingSerialWrapper.init s.2
  Enabled _ _ := True
  step s a := ((LoggingSerialWrapper.call port a).after s.1, (Port.call port a).after s.2)

/-- The operation has the same outcome on both and leaves both ports alike. -/
def Agrees (port : SerialPort ρ V) (s : State ρ V) (a : PortOp V) : Prop :=
  (LoggingSerialWrapper.call port a).outcome s.1 = (Port.call port a).outcome s.2 ∧
    ((machine port).step s a).1.serial = ((machine port).step s a).2

end SerialWrapper
end Ecto
