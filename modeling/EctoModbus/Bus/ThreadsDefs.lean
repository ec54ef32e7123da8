import EctoModbus.Bus.BusDefs

/-! The two threads of the integration. Home Assistant's calls and the coordinator run in the event
loop, one after another. Meanwhile the thread of the RTU server serves the master's requests: each
takes the lock of its slave, so one may come between any two devices of a poll. -/

namespace Ecto
open Python Transition

/-- A bus, and the place of the next device in a poll that is under way. -/
structure Threads (σ η : Type) where
  bus : Bus σ η
  next : Option ℕ

/-- A request for one slave. One for all of them comes to each in turn. -/
structure Request where
  unit : ℕ
  a : ℕ
  ws : List (BitVec 16)
  deriving DecidableEq, Repr

def Request.action (r : Request) : BusSystem.Action := .masterWrite r.unit r.a r.ws

namespace BusSystem

def asRequest : Action → Option Request
  | .masterWrite unit a ws => some ⟨unit, a, ws⟩
  | _ => none

/-- What the event loop does in a run, and the requests that come to one slave. -/
def calls (as : List Action) : List Action := as.filter fun x => (asRequest x).isNone

def requests (unit : ℕ) (as : List Action) : List Request :=
  (as.filterMap asRequest).filter (·.unit = unit)

end BusSystem

namespace Threads
variable {σ η : Type}

inductive Action where
  | call (x : BusSystem.Action)
  | device
  | request (r : Request)
  deriving DecidableEq, Repr

def calls (hs : List Action) : List BusSystem.Action :=
  hs.filterMap fun
    | .call x => some x
    | _ => none

def requests (unit : ℕ) (hs : List Action) : List Request :=
  (hs.filterMap fun
    | .request r => some r
    | _ => none).filter (·.unit = unit)

variable [ModbusSlave σ] [LawfulModbusSlave σ] [HassStates η]

/-- `for device in self.devices`: the next round of the loop, or its end. -/
def pollNext (float : String → Except PyException PyFloat) (s : Threads σ η) : Threads σ η :=
  match s.next with
  | none => s
  | some i =>
    match s.bus.nodes[i]? with
    | none => { s with next := none }
    | some n =>
      match BusSystem.onNode float .poll (n, s.bus.hass) with
      | .ok _ (n', hass) => ⟨⟨s.bus.nodes.set i n', hass⟩, some (i + 1)⟩
      | .error _ (n', hass) => ⟨⟨s.bus.nodes.set i n', hass⟩, none⟩

/-- The event loop takes no other call before a poll has ended. -/
def Enabled (s : Threads σ η) : Action → Prop
  | .call x => s.next = none ∧ BusSystem.asRequest x = none ∧ BusSystem.Enabled s.bus x
  | .device => s.next.isSome
  | .request r => r.unit ≠ 0

instance (s : Threads σ η) (a : Action) : Decidable (s.Enabled a) :=
  match a with
  | .call _ => inferInstanceAs (Decidable (_ ∧ _ ∧ _))
  | .device => inferInstanceAs (Decidable (_ = _))
  | .request r => inferInstanceAs (Decidable (r.unit ≠ 0))

def machine (η : Type) [HassStates η] (float : String → Except PyException PyFloat) :
    Machine (Threads σ η) Action where
  Init s := BusSystem.Init s.bus ∧ s.next = none
  Enabled := Enabled
  step s
    | .call .poll => { s with next := some 0 }
    | .call x => { s with bus := (BusSystem.machine η float).step s.bus x }
    | .device => pollNext float s
    | .request r => { s with bus := (BusSystem.machine η float).step s.bus r.action }

instance (float : String → Except PyException PyFloat) (s : Threads σ η) (a : Action) :
    Decidable ((machine η float).Enabled s a) := inferInstanceAs (Decidable (Enabled s a))

end Threads
end Ecto
