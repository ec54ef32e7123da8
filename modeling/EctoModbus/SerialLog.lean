import EctoModbus.Library.Hex
import EctoModbus.SerialWrapper

/-! The log of a wrapped port as a journal of the line. Every chunk of bytes that was received or
handed over to be sent can be read back from it, in order; of the latter the port may have sent
less. -/

namespace Ecto
open Python Transition

inductive Traffic where
  | received (data : List UInt8)
  | sent (data : List UInt8)
  deriving DecidableEq, Repr

/-- What has gone over the line of a chunk that the log tells of: all of what was received, and of
what was to be sent the part that the port got through. -/
inductive Traffic.Carried : Traffic → Traffic → Prop
  | received (data : List UInt8) : Carried (.received data) (.received data)
  | sent {data part : List UInt8} (h : part <+: data) : Carried (.sent data) (.sent part)

/-- A serial port of which it is known, too, how many bytes of a chunk it has put on the line by the
time that the write has returned or raised. -/
structure LinePort (ρ V : Type) extends SerialPort ρ V where
  transmits : (String → Option V) → List UInt8 → ρ → ℕ

/-- The port, with a record of what has gone over the line: what its reads delivered, and what it
transmitted in its writes. -/
def LinePort.recorded {ρ V : Type} (port : LinePort ρ V) : SerialPort (ρ × List Traffic) V where
  read attributes size := do
    let data ← PyM.first (port.read attributes size)
    if data ≠ [] then PyM.second (modify (· ++ [.received data]))
    return data
  write attributes data p :=
    let line := p.2 ++ [.sent (data.take (port.transmits attributes data p.1))]
    match port.write attributes data p.1 with
    | .ok v r => .ok v (r, line)
    | .error e r => .error e (r, line)

/-- What an entry of the log tells. -/
def LogEntry.traffic {V : Type} (entry : LogEntry V) : Option Traffic := do
  let data ← Hex.readBytes entry.hexStr.toList
  if entry.len ≠ data.length then none
  else if entry.format = "RT: %s RX (%d bytes): %s" then some (.received data)
  else if entry.format = "TX: %s TX (%d bytes): %s" then some (.sent data)
  else none

namespace LoggingSerialWrapper
open PyM
variable {ρ V α : Type}

def readLog (log : List (LogEntry V)) : Option (List Traffic) := log.mapM LogEntry.traffic

theorem toList_hexStr (data : List UInt8) : (hexStr data).toList = Hex.text data := by
  have hbytes : (data.map hexByte).map String.toList = data.map Hex.pair := by
    rw [List.map_map]
    exact List.map_congr_left fun b _ => String.toList_ofList
  rw [hexStr, String.toList_intercalate, hbytes]
  rfl

theorem traffic_received (name : Attribute V) (data : List UInt8) :
    (LogEntry.mk "RT: %s RX (%d bytes): %s" name data.length (hexStr data)).traffic =
      some (.received data) := by
  unfold LogEntry.traffic
  rw [toList_hexStr, Hex.readBytes_text]
  simp

theorem traffic_sent (name : Attribute V) (data : List UInt8) :
    (LogEntry.mk "TX: %s TX (%d bytes): %s" name data.length (hexStr data)).traffic =
      some (.sent data) := by
  unfold LogEntry.traffic
  rw [toList_hexStr, Hex.readBytes_text]
  simp

theorem readLog_append {log : List (LogEntry V)} {trace : List Traffic} {entry : LogEntry V}
    {t : Traffic} (h : readLog log = some trace) (ht : entry.traffic = some t) :
    readLog (log ++ [entry]) = some (trace ++ [t]) := by
  rw [readLog] at h ⊢
  simp [List.mapM_append, h, ht]

/-- The wrapper can still reach its port and its logger. -/
structure Intact (w : LoggingSerialWrapper ρ V) : Prop where
  serial : w.dict "_serial" = some .serial
  logger : w.dict "_logger" = some .logger
  portName : ∃ a, w.dict "_port_name" = some a

theorem intact_init (p : Port ρ V) : Intact (init p) :=
  ⟨by simp [init, initialDict], by simp [init, initialDict], .portName, by simp [init, initialDict]⟩

section
variable {w : LoggingSerialWrapper ρ V}

theorem Intact.onSerial (h : Intact w) (m : PyM (Port ρ V) α) :
    onSerial m w = zoom LoggingSerialWrapper.serial (fun port w => { w with serial := port }) m w :=
  bind_ok (ownAttribute_ok h.serial)

theorem Intact.after_onSerial (h : Intact w) (m : PyM (Port ρ V) α) :
    (LoggingSerialWrapper.onSerial m).after w = { w with serial := m.after w.serial } := by
  have hs := h.onSerial m
  rw [after, hs]
  exact after_zoom ..

theorem Intact.debug (h : Intact w) (format : String) (data : List UInt8) :
    ∃ name, debug format data w =
      .ok () { w with log := w.log ++ [⟨format, name, data.length, hexStr data⟩] } := by
  obtain ⟨name, hname⟩ := h.portName
  refine ⟨name, ?_⟩
  unfold LoggingSerialWrapper.debug
  rw [bind_ok (ownAttribute_ok h.logger)]
  exact bind_ok (ownAttribute_ok hname)

end

/-! ## What a call adds to log and line -/

/-- What was logged has been carried, and all of it if `whole` holds. -/
structure Carries (logged carried : List Traffic) (whole : Prop) : Prop where
  forall₂ : List.Forall₂ Traffic.Carried logged carried
  eq_iff : logged = carried ↔ whole

theorem carries_nil : Carries [] [] True := ⟨.nil, iff_of_true rfl trivial⟩

theorem carries_received (data : List UInt8) : Carries [.received data] [.received data] True :=
  ⟨.cons (.received data) .nil, iff_of_true rfl trivial⟩

theorem carries_sent (data : List UInt8) (k : ℕ) :
    Carries [.sent data] [.sent (data.take k)] (data.length ≤ k) := by
  refine ⟨.cons (.sent (List.take_prefix k data)) .nil, ?_⟩
  rw [List.singleton_inj, Traffic.sent.injEq, eq_comm, List.take_eq_self_iff]

theorem Carries.append {ts us ts' us' : List Traffic} {p q : Prop} (h : Carries ts us p)
    (h' : Carries ts' us' q) : Carries (ts ++ ts') (us ++ us') (p ∧ q) := by
  refine ⟨List.rel_append h.forall₂ h'.forall₂, ?_⟩
  rw [List.append_eq_append_iff_of_size_eq_left h.forall₂.length_eq]
  exact and_congr h.eq_iff h'.eq_iff

/-- The log can be read back as `journal`. -/
structure Journals (journal : List Traffic) (w : LoggingSerialWrapper ρ V) : Prop where
  intact : Intact w
  log : readLog w.log = some journal

def line (w : LoggingSerialWrapper (ρ × List Traffic) V) : List Traffic := w.serial.stream.2

/-- Log and line have grown by chunks that the one tells of and the other has carried. -/
def Grows (w w' : LoggingSerialWrapper (ρ × List Traffic) V) (whole : Prop) : Prop :=
  ∀ journal, Journals journal w →
    ∃ ts us, Journals (journal ++ ts) w' ∧ line w' = line w ++ us ∧ Carries ts us whole

section
variable {w w' w'' : LoggingSerialWrapper (ρ × List Traffic) V} {p q : Prop}

theorem grows_idle (h : ∀ journal, Journals journal w → Journals journal w' ∧ line w' = line w)
    (hp : p) : Grows w w' p := by
  intro journal hj
  obtain ⟨hj', hline⟩ := h journal hj
  refine ⟨[], [], ?_, ?_, .nil, iff_of_true rfl hp⟩
  · rwa [List.append_nil]
  · rw [List.append_nil, hline]

theorem Grows.refl (w : LoggingSerialWrapper (ρ × List Traffic) V) (hp : p) : Grows w w p :=
  grows_idle (fun _ hj => ⟨hj, rfl⟩) hp

theorem Grows.trans (h : Grows w w' p) (h' : Grows w' w'' q) : Grows w w'' (p ∧ q) := by
  intro journal hj
  obtain ⟨ts, us, hts, hus, hc⟩ := h journal hj
  obtain ⟨ts', us', hts', hus', hc'⟩ := h' _ hts
  refine ⟨ts ++ ts', us ++ us', ?_, ?_, hc.append hc'⟩
  · rwa [← List.append_assoc]
  · rw [hus', hus, List.append_assoc]

theorem Grows.method {m : PyM (LoggingSerialWrapper (ρ × List Traffic) V) α}
    (h : Grows w (m.after w) p) (name : String) :
    Grows w ((LoggingSerialWrapper.method name m).after w) (w.dict name = none → p) := by
  unfold LoggingSerialWrapper.method
  rw [after_get_bind]
  cases w.dict name with
  | some a => exact .refl w fun hn => (nomatch hn)
  | none =>
    dsimp only
    rwa [eq_self, true_implies]

end

variable {port : LinePort ρ V} {w : LoggingSerialWrapper (ρ × List Traffic) V}

theorem recorded_read_ok {attributes : String → Option V} {size : ℤ} {data : List UInt8} {r r' : ρ}
    (h : port.read attributes size r = .ok data r') (line : List Traffic) :
    port.recorded.read attributes size (r, line) =
      .ok data (r', if data ≠ [] then line ++ [.received data] else line) := by
  unfold LinePort.recorded
  dsimp only
  rw [bind_ok (first_ok h)]
  by_cases hd : data = []
  · subst hd
    rfl
  · simp only [ne_eq, hd, not_false_eq_true, if_true]
    rfl

theorem recorded_read_error {attributes : String → Option V} {size : ℤ} {e : PyException} {r r' : ρ}
    (h : port.read attributes size r = .error e r') (line : List Traffic) :
    port.recorded.read attributes size (r, line) = .error e (r', line) :=
  bind_error (first_error h)

/-- Also when the port raises, something may have been sent. -/
theorem snd_after_recorded_write (attributes : String → Option V) (data : List UInt8)
    (p : ρ × List Traffic) : ((port.recorded.write attributes data).after p).2 =
      p.2 ++ [.sent (data.take (port.transmits attributes data p.1))] := by
  unfold LinePort.recorded PyM.after
  dsimp only
  cases port.write attributes data p.1 <;> rfl

theorem onSerial_ok {w : LoggingSerialWrapper ρ V} (h : Intact w) {m : PyM ρ α} {a : α} {r : ρ}
    (hm : m w.serial.stream = .ok a r) :
    onSerial (Port.onStream m) w = .ok a { w with serial := { w.serial with stream := r } } := by
  rw [h.onSerial]
  exact zoom_ok (zoom_ok hm)

theorem onSerial_error {w : LoggingSerialWrapper ρ V} (h : Intact w) {m : PyM ρ α}
    {e : PyException} {r : ρ} (hm : m w.serial.stream = .error e r) :
    onSerial (Port.onStream m) w =
      .error (α := α) e { w with serial := { w.serial with stream := r } } := by
  rw [h.onSerial]
  exact zoom_error (zoom_error hm)

theorem onSerial_read {w : LoggingSerialWrapper ρ V} (h : Intact w) (port : SerialPort ρ V)
    (size : ℤ) : onSerial (Port.read port size) w =
      onSerial (Port.onStream (port.read w.serial.attributes size)) w := by
  rw [h.onSerial, h.onSerial]
  rfl

theorem grows_read (size : ℤ) :
    Grows w ((LoggingSerialWrapper.read port.recorded size).after w) True := by
  cases hr : port.read w.serial.attributes size w.serial.stream.1 with
  | error e r =>
    refine grows_idle (fun journal h => ?_) trivial
    have hs := onSerial_error h.intact (recorded_read_error hr w.serial.stream.2)
    rw [← onSerial_read h.intact] at hs
    have hread : LoggingSerialWrapper.read port.recorded size w = .error e _ := bind_error hs
    rw [after_error hread]
    exact ⟨⟨⟨h.intact.serial, h.intact.logger, h.intact.portName⟩, h.log⟩, rfl⟩
  | ok data r =>
    intro journal h
    have hs := onSerial_ok h.intact (recorded_read_ok hr w.serial.stream.2)
    rw [← onSerial_read h.intact] at hs
    unfold LoggingSerialWrapper.read
    rw [after_bind_ok hs]
    by_cases hd : data = []
    · subst hd
      -- `if data:` keeps an empty read out of the log, and nothing came in
      refine ⟨[], [], ?_, (List.append_nil _).symm, carries_nil⟩
      rw [List.append_nil]
      exact ⟨⟨h.intact.serial, h.intact.logger, h.intact.portName⟩, h.log⟩
    · rw [if_pos hd, if_pos hd]
      have hi : Intact { w with serial :=
          { w.serial with stream := (r, w.serial.stream.2 ++ [.received data]) } } :=
        ⟨h.intact.serial, h.intact.logger, h.intact.portName⟩
      obtain ⟨name, hdebug⟩ := hi.debug "RT: %s RX (%d bytes): %s" data
      rw [after_bind_ok hdebug]
      exact ⟨_, _, ⟨⟨hi.serial, hi.logger, hi.portName⟩,
        readLog_append h.log (traffic_received name data)⟩, rfl, carries_received data⟩

/-- What is to be sent is logged before it is known how much of it the port gets through. -/
theorem grows_write (data : List UInt8) :
    Grows w ((LoggingSerialWrapper.write port.recorded data).after w)
      (data.length ≤ port.transmits w.serial.attributes data w.serial.stream.1) := by
  intro journal h
  obtain ⟨name, hdebug⟩ := h.intact.debug "TX: %s TX (%d bytes): %s" data
  have hi : Intact { w with
      log := w.log ++ [⟨"TX: %s TX (%d bytes): %s", name, data.length, hexStr data⟩] } :=
    ⟨h.intact.serial, h.intact.logger, h.intact.portName⟩
  unfold LoggingSerialWrapper.write
  rw [after_bind_ok hdebug, hi.after_onSerial]
  refine ⟨_, _, ⟨⟨hi.serial, hi.logger, hi.portName⟩,
    readLog_append h.log (traffic_sent name data)⟩, ?_, carries_sent data _⟩
  -- from here on the log stands, whatever the port does
  have hport : (Port.write port.recorded data).after w.serial = { w.serial with
      stream := (port.recorded.write w.serial.attributes data).after w.serial.stream } := by
    rw [Port.write, after_get_bind]
    exact after_zoom ..
  show ((Port.write port.recorded data).after w.serial).stream.2 = _
  rw [hport]
  exact snd_after_recorded_write w.serial.attributes data w.serial.stream

theorem grows_getattr (name : String) :
    Grows w ((LoggingSerialWrapper.getattr name).after w) True := by
  unfold LoggingSerialWrapper.getattr
  rw [after_get_bind]
  rcases w.dict name with _ | _ | _ | _ | v
  · dsimp only
    split_ifs
    · exact .refl w trivial
    · -- `__getattr__` looks the name up on the port
      refine grows_idle (fun journal h => ?_) trivial
      have hport : (Port.getattr name).after w.serial = w.serial := by
        rw [Port.getattr, after_get_bind, after_ofOption]
      rw [after_bind_pure, h.intact.after_onSerial, hport]
      exact ⟨h, rfl⟩
  · exact .refl w trivial
  · exact .refl w trivial
  · exact .refl w trivial
  · exact .refl w trivial

/-- An assignment under any other name leaves port and logger in reach. -/
theorem grows_setattr {name : String} (hs : name ≠ "_serial") (hl : name ≠ "_logger") (v : V) :
    Grows w ((LoggingSerialWrapper.setattr name v).after w) True := by
  refine grows_idle (fun journal h => ⟨⟨⟨?_, ?_, ?_⟩, h.log⟩, rfl⟩) trivial
  · rw [dict_after_setattr, Function.update_of_ne hs.symm]
    exact h.intact.serial
  · rw [dict_after_setattr, Function.update_of_ne hl.symm]
    exact h.intact.logger
  · rw [dict_after_setattr]
    by_cases hp : name = "_port_name"
    · subst hp
      exact ⟨_, Function.update_self ..⟩
    · rw [Function.update_of_ne (Ne.symm hp)]
      exact h.intact.portName

/-- Assigns to one of the attributes through which the wrapper reaches its port and its logger. -/
def Severs : PortOp V → Prop
  | .setattr name _ => name = "_serial" ∨ name = "_logger"
  | _ => False

/-- A write that reaches the port has all its data transmitted. -/
def Whole (port : LinePort ρ V) (w : LoggingSerialWrapper (ρ × List Traffic) V) : PortOp V → Prop
  | .write data => w.dict "write" = none →
    data.length ≤ port.transmits w.serial.attributes data w.serial.stream.1
  | _ => True

instance (port : LinePort ρ V) (w : LoggingSerialWrapper (ρ × List Traffic) V) (a : PortOp V) :
    Decidable (Whole port w a) :=
  match a with
  | .read _ => inferInstanceAs (Decidable True)
  | .write data =>
    match h : w.dict "write" with
    | some _ => isTrue fun hn => by rw [h] at hn; cases hn
    | none => decidable_of_iff
      (data.length ≤ port.transmits w.serial.attributes data w.serial.stream.1)
      ⟨fun hle _ => hle, fun hw => hw h⟩
  | .getattr _ => inferInstanceAs (Decidable True)
  | .setattr _ _ => inferInstanceAs (Decidable True)

theorem grows_call {a : PortOp V} (ha : ¬ Severs a) :
    Grows w ((LoggingSerialWrapper.call port.recorded a).after w) (Whole port w a) := by
  cases a with
  | read size =>
    have hs : (LoggingSerialWrapper.call port.recorded (.read size)).after w = _ :=
      after_bind_pure ..
    have hread : Grows w ((LoggingSerialWrapper.read port.recorded size).after w) True :=
      grows_read size
    have hmethod := hread.method "read"
    rw [hs]
    rwa [implies_true] at hmethod
  | write data =>
    have hs : (LoggingSerialWrapper.call port.recorded (.write data)).after w = _ :=
      after_bind_pure ..
    rw [hs]
    exact (grows_write data).method "write"
  | getattr name => exact grows_getattr name
  | setattr name v =>
    obtain ⟨hs, hl⟩ := not_or.1 ha
    exact grows_setattr hs hl v

end LoggingSerialWrapper

namespace SerialWrapper
open LoggingSerialWrapper
variable {ρ V : Type} {s : State (ρ × List Traffic) V}

theorem grows_run (port : LinePort ρ V) (s : State (ρ × List Traffic) V) {as : List (PortOp V)}
    (ha : ∀ a ∈ as, ¬ Severs a) :
    Grows s.1 ((machine port.recorded).run s as).1
      ((machine port.recorded).EveryStep (fun s a => Whole port s.1 a) s as) := by
  induction as generalizing s with
  | nil => exact .refl s.1 trivial
  | cons a as ih =>
    obtain ⟨ha, has⟩ := List.forall_mem_cons.1 ha
    exact (grows_call ha).trans (ih ((machine port.recorded).step s a) has)

/-- Whatever the server does with the wrapped port, and whatever the port raises: chunk by chunk,
what is read back from the log has gone over the line, apart from the ends of chunks that the port
did not get through; and it is just what has gone over the line if and only if the port got through
every chunk that it was given. -/
theorem log_is_journal (port : LinePort ρ V) (h : (machine port.recorded).Init s)
    (h₀ : s.2.stream.2 = []) {as : List (PortOp V)} (ha : ∀ a ∈ as, ¬ Severs a) :
    ∃ journal, readLog ((machine port.recorded).run s as).1.log = some journal ∧
      List.Forall₂ Traffic.Carried journal (line ((machine port.recorded).run s as).1) ∧
      (journal = line ((machine port.recorded).run s as).1 ↔
        (machine port.recorded).EveryStep (fun s a => Whole port s.1 a) s as) := by
  have hinit : s.1 = LoggingSerialWrapper.init s.2 := h
  have hstart : Journals [] s.1 := by
    rw [hinit]
    exact ⟨intact_init s.2, rfl⟩
  obtain ⟨journal, carried, hj, hline, hc⟩ := grows_run port s ha [] hstart
  have hempty : line s.1 = [] := by rw [hinit]; exact h₀
  rw [hempty, List.nil_append] at hline
  rw [hline]
  exact ⟨journal, hj.log, hc.forall₂, hc.eq_iff⟩

/-- A port that raises when the second byte of a write does not get through in time. -/
def slowPort : LinePort (List (ℕ × UInt8)) ℕ where
  read := framePort.read
  write _ data := if data.length ≤ 1 then return data.length
    else throw (.other "SerialTimeoutException")
  transmits _ data _ := min data.length 1

def frameLine : Port (List (ℕ × UInt8) × List Traffic) ℕ := ⟨(frame.stream, []), frame.attributes⟩

/-- The log tells of two bytes, of which one has been sent. -/
theorem frame_log_is_journal :
    let s := (machine slowPort.recorded).run (LoggingSerialWrapper.init frameLine, frameLine)
      [.read 1, .setattr "timeout" 5, .write [0x01, 0x83]]
    line s.1 = [.received [0x01], .sent [0x01]] ∧
      ∃ journal, readLog s.1.log = some journal ∧
        List.Forall₂ Traffic.Carried journal (line s.1) ∧ journal ≠ line s.1 := by
  have ha : ∀ a ∈ [PortOp.read 1, .setattr "timeout" 5, .write [0x01, 0x83]], ¬ Severs a := by
    simp [Severs]
  have hinit : (machine slowPort.recorded).Init (LoggingSerialWrapper.init frameLine, frameLine) :=
    rfl
  obtain ⟨journal, hlog, hcarried, heq⟩ := log_is_journal slowPort hinit rfl ha
  refine ⟨by decide +kernel, journal, hlog, hcarried, fun h => ?_⟩
  exact absurd (heq.1 h) (by decide +kernel)

end SerialWrapper
end Ecto
