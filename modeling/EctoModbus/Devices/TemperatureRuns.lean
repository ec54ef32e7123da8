import EctoModbus.Devices.Temperature
import EctoModbus.Library.Transition

/-! The temperature sensor over a history of state changes. The register follows the finite
temperatures; an infinite one ends in an exception that the handler does not catch. -/

namespace Ecto
open Python Transition BlockTable

namespace EctoTemperatureSensor
variable {σ : Type} [ModbusSlave σ]

/-- What `_state_changed` is called with: a state that may be missing, and so may its text. -/
abbrev NewState := Option (Option String)

/-- A sensor as `__init__` left it, before or after `async_init`. -/
def Fresh [LawfulModbusSlave σ] (d : EctoTemperatureSensor σ) : Prop :=
  ∃ addr entityId slave d₀, table slave = Table.empty ∧ init addr entityId slave = .ok d₀ ∧
    (d = d₀ ∨ d = asyncInit.after d₀)

def history [LawfulModbusSlave σ] (float : String → Except PyException PyFloat) :
    Machine (EctoTemperatureSensor σ) NewState where
  Init := Fresh
  Enabled _ _ := True
  step d newState := (stateChanged float newState).after d

def finiteTemp (float : String → Except PyException PyFloat) : NewState → Option ℚ
  | some (some text) =>
    match float text with
    | .ok (.finite t) => some t
    | _ => none
  | _ => none

def Infinite (float : String → Except PyException PyFloat) (newState : NewState) : Prop :=
  ∃ text, newState = some (some text) ∧ (float text = .ok .posInf ∨ float text = .ok .negInf)

/-- `self.registers[0x20].set_raw_value([value])`. -/
def store (value : ℤ) (d : EctoTemperatureSensor σ) : EctoTemperatureSensor σ :=
  { d with toEctoDevice := (EctoDevice.setRegister 0x20 [value]).after d.toEctoDevice }

/-- No exception leaves the call. -/
def Returns (float : String → Except PyException PyFloat) (d : EctoTemperatureSensor σ)
    (newState : NewState) : Prop :=
  ∃ d', stateChanged float newState d = .ok () d'

variable [LawfulModbusSlave σ]
variable {float : String → Except PyException PyFloat} {newState : NewState}
variable {d : EctoTemperatureSensor σ} {info : List ℤ} {x : ℤ}

/-! ## One call -/

theorem scaledValue_toOption (float : String → Except PyException PyFloat) (newState : NewState) :
    (scaledValue float newState).toOption =
      (finiteTemp float newState).map fun t => trunc (10 * t) := by
  rcases newState with _ | _ | text
  · rfl
  · rfl
  · cases hf : float text with
    | error e => simp [scaledValue, finiteTemp, hf, bind, Except.bind, Except.toOption]
    | ok y =>
      cases y <;> simp [scaledValue, finiteTemp, hf, bind, Except.bind, Except.toOption,
        PyFloat.scale, PyFloat.toInt, mul_comm]

theorem history_step (float : String → Except PyException PyFloat) (newState : NewState)
    (d : EctoTemperatureSensor σ) :
    (history float).step d newState =
      match finiteTemp float newState with
      | some t => store (trunc (10 * t)) d
      | none => d := by
  have hv := scaledValue_toOption float newState
  show (stateChanged float newState).after d = _
  rw [after_stateChanged]
  cases hs : scaledValue float newState with
  | ok v =>
    rw [hs] at hv
    obtain ⟨t, ht, rfl⟩ := Option.map_eq_some_iff.1 hv.symm
    rw [ht]
    rfl
  | error e =>
    rw [hs] at hv
    rw [Option.map_eq_none_iff.1 hv.symm]

theorem stateChanged_of_ok (h : d.toEctoDevice.HasInput 0x20 none info x) {v : ℤ}
    (hv : scaledValue float newState = .ok v) :
    stateChanged float newState d = .ok () (store v d) := by
  obtain ⟨slave', hset, _⟩ := h.setRegister v
  unfold stateChanged
  apply PyM.tryCatch_ok
  rw [hv, PyM.ofExcept_ok, pure_bind, PyM.zoom_ok hset, store, PyM.after_ok hset]

omit [LawfulModbusSlave σ] in
theorem stateChanged_of_error {e : PyException} (he : scaledValue float newState = .error e)
    (d : EctoTemperatureSensor σ) :
    stateChanged float newState d = if Logged e then .ok () d else .error e d := by
  have hbody : ∀ k : ℤ → PyM (EctoTemperatureSensor σ) Unit,
      (PyM.ofExcept (scaledValue float newState) >>= k) d = .error e d := by
    intro k
    rw [he]
    rfl
  unfold stateChanged
  rw [PyM.tryCatch_error (hbody _)]
  split_ifs <;> rfl

/-- `OverflowError`, which `int` raises of an infinity, is the one that the handler misses. -/
theorem infinite_iff (hfloat : ∀ text e, float text = .error e → e = .valueError) :
    Infinite float newState ↔ ∃ e, scaledValue float newState = .error e ∧ Logged e = false := by
  rcases newState with _ | _ | text
  · simp [Infinite, scaledValue, Logged]
  · simp [Infinite, scaledValue, Logged]
  · cases hf : float text with
    | error e =>
      obtain rfl := hfloat text e hf
      simp [Infinite, scaledValue, hf, bind, Except.bind, Logged]
    | ok y =>
      cases y <;> simp [Infinite, scaledValue, hf, bind, Except.bind, PyFloat.scale, PyFloat.toInt,
        Logged]

theorem returns_iff (hfloat : ∀ text e, float text = .error e → e = .valueError)
    (h : d.toEctoDevice.HasInput 0x20 none info x) :
    Returns float d newState ↔ ¬ Infinite float newState := by
  rw [infinite_iff hfloat]
  cases hs : scaledValue float newState with
  | ok v => exact iff_of_true ⟨_, stateChanged_of_ok h hs⟩ (by rintro ⟨e, he, _⟩; cases he)
  | error e =>
    have hstep := stateChanged_of_error hs d
    cases hl : Logged e with
    | true =>
      rw [hl, if_pos rfl] at hstep
      refine iff_of_true ⟨d, hstep⟩ ?_
      rintro ⟨e', he', hl'⟩
      rw [Except.error.inj he', hl'] at hl
      cases hl
    | false =>
      rw [hl] at hstep
      refine iff_of_false ?_ (not_not_intro ⟨e, rfl, hl⟩)
      rintro ⟨d', hd'⟩
      rw [hstep] at hd'
      cases hd'

/-! ## Histories -/

/-- The values that a history has given to `set_raw_value`, in order. -/
def stored (float : String → Except PyException PyFloat) (es : List NewState) : List ℤ :=
  (es.filterMap (finiteTemp float)).map fun t => trunc (10 * t)

theorem run_history (float : String → Except PyException PyFloat) (es : List NewState)
    (d : EctoTemperatureSensor σ) :
    (history float).run d es = (stored float es).foldl (fun d v => store v d) d := by
  induction es generalizing d with
  | nil => rfl
  | cons e es ih =>
    rw [Machine.run, ih, history_step]
    cases ht : finiteTemp float e with
    | none => simp only [stored, List.filterMap_cons, ht]
    | some t => simp only [stored, List.filterMap_cons, ht, List.map_cons, List.foldl_cons]

theorem hasInput_store (h : d.toEctoDevice.HasInput 0x20 none info x) (v : ℤ) :
    (store v d).toEctoDevice.HasInput 0x20 none info v := by
  obtain ⟨slave', hset, h'⟩ := h.setRegister v
  rw [store, PyM.after_ok hset]
  exact h'

theorem hasInput_foldl (h : d.toEctoDevice.HasInput 0x20 none info x) (vs : List ℤ) :
    (vs.foldl (fun d v => store v d) d).toEctoDevice.HasInput 0x20 none info (vs.getLastD x) := by
  induction vs generalizing d x with
  | nil => exact h
  | cons v vs ih =>
    rw [List.foldl_cons, List.getLastD_cons]
    exact ih (hasInput_store h v)

theorem hasInput_preserves : (history float).Preserves fun d : EctoTemperatureSensor σ =>
    ∃ info x, d.toEctoDevice.HasInput 0x20 none info x := by
  rintro d e ⟨info, x, h⟩ _
  rw [history_step]
  cases finiteTemp float e with
  | none => exact ⟨info, x, h⟩
  | some t => exact ⟨info, _, hasInput_store h _⟩

theorem Fresh.hasInput (h : Fresh d) : ∃ info, d.toEctoDevice.HasInput 0x20 none info 0 := by
  obtain ⟨addr, entityId, slave, d₀, hs, hd₀, hd⟩ := h
  have h₀ := input_of_init hs hd₀
  rcases hd with rfl | rfl
  · exact ⟨_, h₀⟩
  · rw [after_asyncInit]
    exact ⟨_, h₀⟩

/-- After every call the register holds the last finite temperature in truncated tenths, and the
sensor is what storing just these values makes of it. -/
def FollowsFinite (float : String → Except PyException PyFloat) (d : EctoTemperatureSensor σ)
    (es : List NewState) : Prop :=
  ∀ bs, bs <+: es →
    (history float).run d bs = (stored float bs).foldl (fun d v => store v d) d ∧
    ((history float).run d bs).toEctoDevice.input 0x20 = (stored float bs).getLastD 0

theorem Fresh.followsFinite (h : Fresh d) (float : String → Except PyException PyFloat)
    (es : List NewState) : FollowsFinite float d es := by
  intro bs _
  obtain ⟨info, hi⟩ := h.hasInput
  have hrun := run_history float bs d
  have hin := (hasInput_foldl hi (stored float bs)).input_eq
  exact ⟨hrun, by rw [hrun, hin]⟩

/-- A history ends without an exception, and with the register following it, exactly if no
temperature of it is infinite. Up to an exception the register follows all the same. -/
theorem history_ok_iff (hfloat : ∀ text e, float text = .error e → e = .valueError) (h : Fresh d)
    (es : List NewState) :
    (((history float).EveryStep (Returns float) d es ∧ FollowsFinite float d es) ↔
      ∀ e ∈ es, ¬ Infinite float e) ∧
    FollowsFinite float d es := by
  have hf := h.followsFinite float es
  obtain ⟨info, hi⟩ := h.hasInput
  have hrun : (history float).IsRun d es := Machine.everyStep_const_iff.2 fun _ _ => trivial
  have hagree : ∀ (q : EctoTemperatureSensor σ) e,
      (∃ info x, q.toEctoDevice.HasInput 0x20 none info x) → (history float).Enabled q e →
        (Returns float q e ↔ ¬ Infinite float e) := by
    rintro q e ⟨info', x, hq⟩ _
    exact returns_iff hfloat hq
  have hsteps := hasInput_preserves.everyStep_congr hagree ⟨info, 0, hi⟩ hrun
  refine ⟨?_, hf⟩
  rw [and_iff_left hf, hsteps, Machine.everyStep_const_iff]

def parsed : String → Except PyException PyFloat
  | "21.57" => .ok (.finite (2157 / 100))
  | "-3.19" => .ok (.finite (-319 / 100))
  | "nan" => .ok .nan
  | "inf" => .ok .posInf
  | "-inf" => .ok .negInf
  | _ => .error .valueError

theorem fresh_onTable (addr : ℕ) (entityId : Option String) : Fresh (onTable addr entityId) :=
  ⟨addr, entityId, Table.empty, _, rfl, init_onTable addr entityId, Or.inl rfl⟩

theorem infinity_raises :
    let d := onTable 5 (some "sensor.outside")
    Fresh d ∧ ¬ (history parsed).EveryStep (Returns parsed) d [some (some "inf")] ∧
      (stateChanged parsed (some (some "inf"))).outcome d = .error .overflowError := by
  intro d
  have hraise : stateChanged parsed (some (some "inf")) d = .error .overflowError d := rfl
  refine ⟨fresh_onTable 5 _, ?_, PyM.outcome_error hraise⟩
  rintro ⟨⟨d', hd'⟩, _⟩
  rw [hraise] at hd'
  cases hd'

theorem mixed_history_is_followed :
    let d := onTable 5 (some "sensor.outside")
    let es := [none, some (some "21.57"), some none, some (some "nan"), some (some "-3.19"),
      some (some "unknown")]
    (history parsed).EveryStep (Returns parsed) d es ∧ FollowsFinite parsed d es ∧
      stored parsed es = [215, -31] := by
  intro d es
  have hfloat : ∀ text e, parsed text = .error e → e = .valueError := by
    intro text e he
    unfold parsed at he
    split at he
    case h_6 => exact (Except.error.inj he).symm
    all_goals cases he
  have hfinite : ∀ e ∈ es, ¬ Infinite parsed e := by
    rintro e he ⟨text, rfl, ht⟩
    simp only [es, List.mem_cons, List.not_mem_nil, or_false, Option.some.injEq, reduceCtorEq,
      false_or] at he
    rcases he with rfl | rfl | rfl | rfl <;> rcases ht with ht | ht <;> cases ht
  obtain ⟨hsteps, hfollows⟩ := (history_ok_iff hfloat (fresh_onTable 5 _) es).1.2 hfinite
  exact ⟨hsteps, hfollows, by decide +kernel⟩

end EctoTemperatureSensor
end Ecto
