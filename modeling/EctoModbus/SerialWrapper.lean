import EctoModbus.SerialWrapperDefs

/-! The wrapped port against the bare one. Reads and writes pass through, and so do lookups of
names the wrapper does not have. An assignment does not: it stays on the wrapper, hides the
port's attribute from later lookups, and never configures the port. -/

namespace Ecto
open Python Transition

namespace LoggingSerialWrapper
variable {ρ V : Type}

def ownNames : List String := ["_serial", "_logger", "_port_name"] ++ classAttributes

/-- The wrapper holds the port, its own attributes are intact, and what has been assigned to it
under other names is what the port has there. -/
structure Mirrors (w : LoggingSerialWrapper ρ V) (p : Port ρ V) : Prop where
  serial : w.serial = p
  own : ∀ name ∈ ownNames, w.dict name = initialDict name
  stored : ∀ name a, name ∉ ownNames → w.dict name = some a →
    ∃ v, a = .plain v ∧ p.attributes name = some v

variable {w : LoggingSerialWrapper ρ V} {p : Port ρ V} {port : SerialPort ρ V}

theorem mirrors_init (p : Port ρ V) : Mirrors (init p) p where
  serial := rfl
  own := fun _ _ => rfl
  stored := by
    intro name a hn ha
    have hne : name ≠ "_serial" ∧ name ≠ "_logger" ∧ name ≠ "_port_name" := by
      simp only [ownNames, List.cons_append, List.nil_append, List.mem_cons, not_or] at hn
      exact ⟨hn.1, hn.2.1, hn.2.2.1⟩
    simp [init, initialDict, hne] at ha

theorem Mirrors.dict_serial (h : Mirrors w p) : w.dict "_serial" = some .serial := by
  rw [h.own "_serial" (by decide)]
  simp [initialDict]

theorem Mirrors.dict_logger (h : Mirrors w p) : w.dict "_logger" = some .logger := by
  rw [h.own "_logger" (by decide)]
  simp [initialDict]

theorem Mirrors.dict_portName (h : Mirrors w p) : w.dict "_port_name" = some .portName := by
  rw [h.own "_port_name" (by decide)]
  simp [initialDict]

theorem Mirrors.dict_method (h : Mirrors w p) {name : String} (hn : name ∈ classAttributes) :
    w.dict name = none := by
  have hown : name ∈ ownNames := List.mem_append_right _ hn
  rw [h.own name hown]
  simp only [classAttributes, List.mem_cons, List.not_mem_nil, or_false] at hn
  rcases hn with rfl | rfl | rfl | rfl <;> simp [initialDict]

/-! ## Calls that pass through -/

theorem ownAttribute_ok {name : String} {a : Attribute V} (h : w.dict name = some a) :
    ownAttribute name w = .ok a w := by
  simp only [ownAttribute, PyM.get_bind, h, PyM.ofOption_some, PyM.pure_run]

theorem Mirrors.onSerial (h : Mirrors w p) {α : Type} (m : PyM (Port ρ V) α) :
    onSerial m w = PyM.zoom LoggingSerialWrapper.serial
      (fun port w => { w with serial := port }) m w :=
  PyM.bind_ok (ownAttribute_ok h.dict_serial)

theorem Mirrors.debug (h : Mirrors w p) (format : String) (data : List UInt8) :
    debug format data w =
      .ok () { w with log := w.log ++ [⟨format, .portName, data.length, hexStr data⟩] } := by
  have hlogger : ownAttribute "_logger" w = .ok .logger w := ownAttribute_ok h.dict_logger
  have hname : ownAttribute "_port_name" w = .ok .portName w := ownAttribute_ok h.dict_portName
  unfold LoggingSerialWrapper.debug
  rw [PyM.bind_ok hlogger]
  exact PyM.bind_ok hname

theorem Mirrors.method (h : Mirrors w p) {name : String} (hn : name ∈ classAttributes) {α : Type}
    (m : PyM (LoggingSerialWrapper ρ V) α) : method name m w = m w := by
  simp only [LoggingSerialWrapper.method, PyM.get_bind, h.dict_method hn]

theorem Mirrors.setSerial (h : Mirrors w p) {q : Port ρ V} (hq : q.attributes = p.attributes)
    (log : List (LogEntry V)) : Mirrors { w with serial := q, log := log } q where
  serial := rfl
  own := h.own
  stored := by
    rw [hq]
    exact h.stored

/-- The call on the wrapper is the call on the port, apart from what is logged. -/
def Passes {α : Type} (m : PyM (LoggingSerialWrapper ρ V) α) (n : PyM (Port ρ V) α)
    (w : LoggingSerialWrapper ρ V) (p : Port ρ V) : Prop :=
  m.outcome w = n.outcome p ∧ ∃ log, m.after w = { w with serial := n.after p, log := log }

theorem Passes.congr {α : Type} {m m' : PyM (LoggingSerialWrapper ρ V) α} {n : PyM (Port ρ V) α}
    {log : List (LogEntry V)} (hm : m w = m' { w with log := log })
    (h : Passes m' n { w with log := log } p) : Passes m n w p := by
  simp only [Passes, PyM.outcome, PyM.after, hm] at h ⊢
  exact h

theorem Mirrors.passes_onSerial (h : Mirrors w p) {α : Type} (n : PyM (Port ρ V) α) :
    Passes (LoggingSerialWrapper.onSerial n) n w p := by
  have hs := h.onSerial n
  unfold Passes
  rw [PyM.outcome, PyM.after, hs, PyM.zoom, h.serial]
  cases hn : n p with
  | ok a q =>
    have hafter : n.after p = q := PyM.after_ok hn
    exact ⟨(PyM.outcome_ok hn).symm, w.log, by rw [hafter]⟩
  | error e q =>
    have hafter : n.after p = q := PyM.after_error hn
    exact ⟨(PyM.outcome_error hn).symm, w.log, by rw [hafter]⟩

theorem attributes_after_read (port : SerialPort ρ V) (size : ℤ) (p : Port ρ V) :
    ((Port.read port size).after p).attributes = p.attributes := by
  unfold Port.read
  rw [PyM.after_get_bind, Port.onStream, PyM.after_zoom]

theorem attributes_after_write (port : SerialPort ρ V) (data : List UInt8) (p : Port ρ V) :
    ((Port.write port data).after p).attributes = p.attributes := by
  unfold Port.write
  rw [PyM.after_get_bind, Port.onStream, PyM.after_zoom]

theorem Passes.bind_pure {α β : Type} {m : PyM (LoggingSerialWrapper ρ V) α}
    {n : PyM (Port ρ V) α} (h : Passes m n w p) (f : α → β) :
    Passes (m >>= fun a => pure (f a)) (n >>= fun a => pure (f a)) w p := by
  unfold Passes
  rw [PyM.outcome_bind_pure, PyM.outcome_bind_pure, PyM.after_bind_pure,
    PyM.after_bind_pure, h.1]
  exact ⟨rfl, h.2⟩

theorem Mirrors.passes_read (h : Mirrors w p) (size : ℤ) :
    Passes (LoggingSerialWrapper.read port size) (Port.read port size) w p := by
  have hs := h.onSerial (Port.read port size)
  rw [PyM.zoom, h.serial] at hs
  have hattr := attributes_after_read port size p
  cases hr : Port.read port size p with
  | error e q =>
    -- nothing is logged when the port raises
    rw [hr] at hs
    have hw : LoggingSerialWrapper.read port size w = .error e { w with serial := q } :=
      PyM.bind_error hs
    refine ⟨?_, w.log, ?_⟩
    · rw [PyM.outcome_error hw, PyM.outcome_error hr]
    · rw [PyM.after_error hw, PyM.after_error hr]
  | ok data q =>
    rw [hr] at hs
    rw [PyM.after_ok hr] at hattr
    obtain ⟨log, hw⟩ : ∃ log, LoggingSerialWrapper.read port size w =
        .ok data { w with serial := q, log := log } := by
      by_cases hd : data = []
      · -- `if data:` skips the log entry of an empty read
        refine ⟨w.log, ?_⟩
        unfold LoggingSerialWrapper.read
        rw [PyM.bind_ok hs]
        simp only [hd, ne_eq, not_true_eq_false, if_false]
        rfl
      · have hq : Mirrors { w with serial := q } q := h.setSerial hattr w.log
        refine ⟨w.log ++ [⟨"RT: %s RX (%d bytes): %s", .portName, data.length, hexStr data⟩], ?_⟩
        unfold LoggingSerialWrapper.read
        rw [PyM.bind_ok hs]
        simp only [ne_eq, hd, not_false_eq_true, if_true]
        exact PyM.bind_ok (hq.debug ..)
    refine ⟨?_, log, ?_⟩
    · rw [PyM.outcome_ok hw, PyM.outcome_ok hr]
    · rw [PyM.after_ok hw, PyM.after_ok hr]

theorem Mirrors.passes_write (h : Mirrors w p) (data : List UInt8) :
    Passes (LoggingSerialWrapper.write port data) (Port.write port data) w p := by
  obtain ⟨log, hlog⟩ : ∃ log, LoggingSerialWrapper.debug "TX: %s TX (%d bytes): %s" data w =
      .ok () { w with log := log } := ⟨_, h.debug _ data⟩
  have hw' : Mirrors { w with log := log } p := ⟨h.serial, h.own, h.stored⟩
  exact Passes.congr (PyM.bind_ok hlog) (hw'.passes_onSerial (Port.write port data))

/-! ## Lookups and assignments -/

theorem Mirrors.getattr_own (h : Mirrors w p) {name : String} (hn : name ∈ ownNames) :
    LoggingSerialWrapper.getattr name w = .ok (.object name) w := by
  rcases List.mem_append.1 hn with hd | hc
  · simp only [List.mem_cons, List.not_mem_nil, or_false] at hd
    rcases hd with rfl | rfl | rfl
    · simp only [LoggingSerialWrapper.getattr, PyM.get_bind, h.dict_serial, PyM.pure_run]
    · simp only [LoggingSerialWrapper.getattr, PyM.get_bind, h.dict_logger, PyM.pure_run]
    · simp only [LoggingSerialWrapper.getattr, PyM.get_bind, h.dict_portName, PyM.pure_run]
  · simp only [LoggingSerialWrapper.getattr, PyM.get_bind, h.dict_method hc, if_pos hc,
      PyM.pure_run]

theorem Mirrors.passes_getattr (h : Mirrors w p) {name : String} (hn : name ∉ ownNames) :
    Passes (LoggingSerialWrapper.getattr name) (Port.call port (.getattr name)) w p := by
  have hclass : name ∉ classAttributes := fun hc => hn (List.mem_append_right _ hc)
  cases hd : w.dict name with
  | some a =>
    -- an attribute that was assigned is found on the wrapper, with the port's value
    obtain ⟨v, rfl, hv⟩ := h.stored name a hn hd
    have hw : LoggingSerialWrapper.getattr name w = .ok (.value v) w := by
      simp only [LoggingSerialWrapper.getattr, PyM.get_bind, hd, PyM.pure_run]
    have hp : Port.call port (.getattr name) p = .ok (.value v) p := by
      simp only [Port.call, Port.getattr, bind_assoc, PyM.get_bind, hv, PyM.ofOption_some,
        pure_bind, PyM.pure_run]
    refine ⟨?_, w.log, ?_⟩
    · rw [PyM.outcome_ok hw, PyM.outcome_ok hp]
    · rw [PyM.after_ok hw, PyM.after_ok hp, ← h.serial]
  | none =>
    -- `__getattr__` asks the port
    have hw : LoggingSerialWrapper.getattr name w =
        (LoggingSerialWrapper.onSerial (Port.getattr name) >>= fun v => pure (.value v)) w := by
      simp only [LoggingSerialWrapper.getattr, PyM.get_bind, hd, if_neg hclass]
    exact Passes.congr hw ((h.passes_onSerial (Port.getattr name)).bind_pure Reply.value)

theorem dict_after_setattr (w : LoggingSerialWrapper ρ V) (name : String) (v : V) :
    ((setattr name v).after w).dict = Function.update w.dict name (some (.plain v)) := rfl

theorem Mirrors.assign (h : Mirrors w p) {name : String} {v : V} (hn : name ∉ ownNames)
    (hv : p.attributes name = some v) : Mirrors ((setattr name v).after w) p where
  serial := h.serial
  own := by
    intro own ho
    have hne : own ≠ name := by
      rintro rfl
      exact hn ho
    rw [dict_after_setattr, Function.update_of_ne hne]
    exact h.own own ho
  stored := by
    intro other a ho ha
    rw [dict_after_setattr] at ha
    by_cases he : other = name
    · rw [he, Function.update_self, Option.some.injEq] at ha
      rw [he]
      exact ⟨v, ha.symm, hv⟩
    · rw [Function.update_of_ne he] at ha
      exact h.stored other a ho ha

end LoggingSerialWrapper

namespace SerialWrapper
open LoggingSerialWrapper
variable {ρ V : Type} {port : SerialPort ρ V} {s : State ρ V} {a : PortOp V}

/-- No name of the wrapper's own is used, and an assignment stores what the port already has. -/
def Untouched (s : State ρ V) : PortOp V → Prop
  | .getattr name => name ∉ ownNames
  | .setattr name v => name ∉ ownNames ∧ s.2.attributes name = some v
  | _ => True

instance [DecidableEq V] (s : State ρ V) : ∀ a, Decidable (Untouched s a)
  | .getattr name => inferInstanceAs (Decidable (name ∉ ownNames))
  | .setattr name v => inferInstanceAs (Decidable (name ∉ ownNames ∧ s.2.attributes name = some v))
  | .read _ => isTrue trivial
  | .write _ => isTrue trivial

theorem attributes_step (port : SerialPort ρ V) (hu : Untouched s a) :
    ((machine port).step s a).2.attributes = s.2.attributes := by
  cases a with
  | read size =>
    have hs : ((machine port).step s (.read size)).2 = (Port.read port size).after s.2 :=
      PyM.after_bind_pure ..
    rw [hs, attributes_after_read]
  | write data =>
    have hs : ((machine port).step s (.write data)).2 = (Port.write port data).after s.2 :=
      PyM.after_bind_pure ..
    rw [hs, attributes_after_write]
  | getattr name =>
    have hs : ((machine port).step s (.getattr name)).2 = (Port.getattr name).after s.2 :=
      PyM.after_bind_pure ..
    rw [hs, Port.getattr, PyM.after_get_bind, PyM.after_ofOption]
  | setattr name v =>
    have hs : ((machine port).step s (.setattr name v)).2.attributes =
        Function.update s.2.attributes name (some v) := rfl
    rw [hs, ← hu.2, Function.update_eq_self]

theorem agrees_of_passes (h : Mirrors s.1 s.2)
    (hp : Passes (LoggingSerialWrapper.call port a) (Port.call port a) s.1 s.2)
    (hattr : ((machine port).step s a).2.attributes = s.2.attributes) :
    Agrees port s a ∧ Mirrors ((machine port).step s a).1 ((machine port).step s a).2 := by
  obtain ⟨hout, log, hafter⟩ := hp
  have hw : ((machine port).step s a).1 =
      { s.1 with serial := ((machine port).step s a).2, log := log } := hafter
  refine ⟨⟨hout, congrArg LoggingSerialWrapper.serial hw⟩, ?_⟩
  rw [hw]
  exact h.setSerial hattr log

theorem agrees_of_untouched (h : Mirrors s.1 s.2) (hu : Untouched s a) :
    Agrees port s a ∧ Mirrors ((machine port).step s a).1 ((machine port).step s a).2 := by
  have hattr := attributes_step port hu
  cases a with
  | read size =>
    have hm := h.method (show "read" ∈ classAttributes by decide)
      (LoggingSerialWrapper.read port size)
    exact agrees_of_passes h ((Passes.congr hm (h.passes_read size)).bind_pure Reply.bytes) hattr
  | write data =>
    have hm := h.method (show "write" ∈ classAttributes by decide)
      (LoggingSerialWrapper.write port data)
    exact agrees_of_passes h ((Passes.congr hm (h.passes_write data)).bind_pure Reply.value) hattr
  | getattr name => exact agrees_of_passes h (h.passes_getattr hu) hattr
  | setattr name v =>
    -- only the wrapper's `__dict__` changes, and the port already has the value
    have hp : ((machine port).step s (.setattr name v)).2 = s.2 :=
      congrArg (Port.mk s.2.stream) hattr
    have hserial : ((machine port).step s (.setattr name v)).1.serial = s.2 := h.serial
    refine ⟨⟨rfl, ?_⟩, ?_⟩
    · rw [hserial, hp]
    · rw [hp]
      exact h.assign hu.1 hu.2

theorem untouched_of_agrees (h : Mirrors s.1 s.2)
    (hown : ∀ name ∈ ownNames, s.2.attributes name = none) (ha : Agrees port s a) :
    Untouched s a := by
  cases a with
  | read size => trivial
  | write data => trivial
  | getattr name =>
    intro hn
    have hw : (LoggingSerialWrapper.call port (.getattr name)).outcome s.1 =
        .ok (.object name) := PyM.outcome_ok (h.getattr_own hn)
    have hp : (Port.call port (.getattr name)).outcome s.2 = .error .attributeError := by
      rw [Port.call, PyM.outcome_bind_pure, Port.getattr, PyM.outcome, PyM.get_bind, hown name hn]
      rfl
    have hout := ha.1
    rw [hw, hp] at hout
    cases hout
  | setattr name v =>
    have hport : s.1.serial = Port.mk s.2.stream
        (Function.update s.2.attributes name (some v)) := ha.2
    rw [h.serial] at hport
    have hv : s.2.attributes name = some v := by
      have hattr := congrFun (congrArg Port.attributes hport) name
      rw [hattr]
      exact Function.update_self ..
    have hn : name ∉ ownNames := by
      intro hn
      rw [hown name hn] at hv
      cases hv
    exact ⟨hn, hv⟩

def Apart (s : State ρ V) : Prop :=
  Mirrors s.1 s.2 ∧ ∀ name ∈ ownNames, s.2.attributes name = none

theorem untouched_step (h : Apart s) (ha : Agrees port s a) :
    Untouched s a ∧ Apart ((machine port).step s a) := by
  have hu := untouched_of_agrees h.1 h.2 ha
  refine ⟨hu, (agrees_of_untouched h.1 hu).2, ?_⟩
  rw [attributes_step port hu]
  exact h.2

/-- The wrapper is transparent as long as it is left untouched; and over a port that has none of
the wrapper's own names, only so long. -/
theorem agrees_run_iff (port : SerialPort ρ V) (h : (machine port).Init s) (as : List (PortOp V)) :
    ((machine port).EveryStep Untouched s as → (machine port).EveryStep (Agrees port) s as) ∧
      ((∀ name ∈ ownNames, s.2.attributes name = none) →
        ((machine port).EveryStep (Agrees port) s as ↔
          (machine port).EveryStep Untouched s as)) := by
  have hs : Mirrors s.1 s.2 := by
    rw [show s.1 = LoggingSerialWrapper.init s.2 from h]
    exact mirrors_init s.2
  have hstep : ∀ (s : State ρ V) a, Mirrors s.1 s.2 → Untouched s a → Agrees port s a ∧
      Mirrors ((machine port).step s a).1 ((machine port).step s a).2 :=
    fun _ _ hm hu => agrees_of_untouched hm hu
  have hagrees : (machine port).EveryStep Untouched s as →
      (machine port).EveryStep (Agrees port) s as :=
    fun hu => Machine.EveryStep.imp_of_good hstep hs hu
  refine ⟨hagrees, fun hown => ⟨fun ha => ?_, hagrees⟩⟩
  have hback : ∀ (s : State ρ V) a, Apart s → Agrees port s a →
      Untouched s a ∧ Apart ((machine port).step s a) := fun _ _ hp ha => untouched_step hp ha
  exact Machine.EveryStep.imp_of_good hback ⟨hs, hown⟩ ha

/-- Bytes with the time each takes to arrive; a read gives up after `timeout`. -/
def framePort : SerialPort (List (ℕ × UInt8)) ℕ where
  read attributes size := do
    let pending ← get
    let timeout := (attributes "timeout").getD 0
    let arrived := (pending.take size.toNat).takeWhile fun b => b.1 ≤ timeout
    set (pending.drop arrived.length)
    return arrived.map Prod.snd
  write _ data := return data.length

def frame : Port (List (ℕ × UInt8)) ℕ where
  stream := [(1, 0x01), (3, 0x03)]
  attributes := Function.update (fun _ => none) "timeout" (some 2)

def wrapped (p : Port (List (ℕ × UInt8)) ℕ) : State (List (ℕ × UInt8)) ℕ :=
  (LoggingSerialWrapper.init p, p)

theorem same_timeout_agrees :
    let as := [.read 2, .setattr "timeout" 2, .getattr "timeout", .write [0x01, 0x83], .read 1]
    (machine framePort).EveryStep Untouched (wrapped frame) as ∧
      (machine framePort).EveryStep (Agrees framePort) (wrapped frame) as := by
  intro as
  have hinit : (machine framePort).Init (wrapped frame) := rfl
  have hown : ∀ name ∈ ownNames, frame.attributes name = none := by decide
  have hu : (machine framePort).EveryStep Untouched (wrapped frame) as := by decide +kernel
  have hrun := agrees_run_iff framePort hinit as
  exact ⟨(hrun.2 hown).1 (hrun.1 hu), hrun.1 hu⟩

/-- A longer timeout stays on the wrapper: the port gives up before the second byte. -/
theorem longer_timeout_is_lost :
    let as := [.read 1, .setattr "timeout" 5, .read 1]
    ¬ (machine framePort).EveryStep (Agrees framePort) (wrapped frame) as := by
  intro as h
  exact absurd h.2.2.1.1 (by decide +kernel)

end SerialWrapper
end Ecto
