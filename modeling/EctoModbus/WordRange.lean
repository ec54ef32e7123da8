import EctoModbus.DeviceRunsDefs
import EctoModbus.Devices.Relay
import EctoModbus.Devices.TimerWord
import EctoModbus.Devices.BinarySensor
import EctoModbus.Devices.Temperature

/-! Which words a device stores. Relays and contact sensors only ever store 16-bit words. The
temperature sensor stores the truncated tenths of any temperature, negative ones as they are. -/

namespace Ecto
open Python Transition BlockTable

/-! ## Relay -/

namespace EctoRelay10CH
variable {σ κ W : Type} [ModbusSlave σ] [LawfulModbusSlave σ]

theorem isWord_finalValue (channels : Fin 10 → ℤ) : IsWord (finalValue channels) :=
  isWord_natCast (finalValue_lt channels)

theorem isWord_timerValue (initialState : Bool) (timeoutSeconds : ℚ) :
    IsWord (timerValue initialState timeoutSeconds) := by
  obtain ⟨n, hlt, _, hw⟩ := timerValue_eq initialState timeoutSeconds
  rw [hw]
  apply isWord_natCast
  cases initialState with
  | false =>
    rw [Bool.toNat_false]
    omega
  | true =>
    rw [Bool.toNat_true]
    omega

structure Fits (d : EctoRelay10CH σ κ) : Prop where
  words : (table d.slave).All IsWord
  timers : ∀ i, IsWord (d.timers i)

variable {d : EctoRelay10CH σ κ}

theorem Fits.setSwitchState (h : Fits d) (c : Fin 10) (state : ℤ) :
    Fits ((setSwitchState c state).after d) := by
  rw [after_setSwitchState]
  split_ifs with hs
  · refine ⟨EctoDevice.all_setRegister h.words 0x10 ?_, h.timers⟩
    simp [isWord_finalValue]
  · exact h

theorem Fits.setTimer (h : Fits d) (channel : ℤ) (initialState : Bool) (timeoutSeconds : ℚ) :
    Fits ((setTimer channel initialState timeoutSeconds).after d) := by
  cases hc : channel? channel with
  | none => rwa [PyM.after_ok (setTimer_out_of_range hc ..)]
  | some i =>
    have ht : ∀ j,
        IsWord (Function.update d.timers i (timerValue initialState timeoutSeconds) j) := by
      intro j
      by_cases hj : j = i
      · subst hj
        rw [Function.update_self]
        exact isWord_timerValue ..
      · rw [Function.update_of_ne hj]
        exact h.timers j
    rw [after_setTimer hc]
    refine ⟨EctoDevice.all_setRegister h.words 0x20 fun v hv => ?_, ht⟩
    obtain ⟨j, _, rfl⟩ := List.mem_map.1 hv
    exact ht j

theorem Fits.sync (h : Fits d) (invoke : Call κ → PyM W Unit) (w : W) :
    Fits ((syncChannelsFromRegister invoke).after (d, w)).1 := by
  obtain ⟨hbase, htimers⟩ := after_sync_frame invoke (d, w)
  refine ⟨?_, ?_⟩
  · rw [hbase]
    exact h.words
  · rw [htimers]
    exact h.timers

theorem fits_init {addr : ℕ} (h3 : 3 ≤ addr) (h32 : addr ≤ 32) {slave : σ}
    (hs : table slave = Table.empty) (hd : init addr slave = .ok d) : Fits d := by
  have hm := models_of_init hs hd
  have hz : IsWord 0 := by decide
  refine ⟨?_, fun i => ?_⟩
  · intro b hb v hv
    rw [hm.blocks] at hb
    simp only [RelayImage.blocks, List.mem_cons, List.not_mem_nil, or_false] at hb
    rcases hb with rfl | rfl | rfl
    · exact EctoDevice.isWord_uidData h3 h32 (by decide) v hv
    · rw [List.mem_singleton.1 hv]
      exact hz
    · rw [List.eq_of_mem_replicate hv]
      exact hz
  · rw [hm.timers]
    exact hz

end EctoRelay10CH

/-! ## Contact sensor -/

namespace EctoCH10BinarySensor
variable {σ : Type} [ModbusSlave σ] [LawfulModbusSlave σ]

theorem isWord_stored {switch : Fin 8 → ℤ} (h : ∀ i, switch i = 0 ∨ switch i = 1) :
    IsWord (stored switch) := by
  rw [stored_eq_finalValue h]
  exact EctoRelay10CH.isWord_finalValue _

structure Fits (d : EctoCH10BinarySensor σ) : Prop where
  words : (table d.slave).All IsWord
  bits : ∀ i, d.switch i = 0 ∨ d.switch i = 1

variable {d : EctoCH10BinarySensor σ}

theorem Fits.setSwitchState (h : Fits d) (c : Fin 10) (state : ℤ) :
    Fits ((setSwitchState c state).after d) := by
  rw [after_setSwitchState]
  split_ifs with hs
  · have hb := bits_update h.bits (slot c) (oneIf_bit state)
    refine ⟨EctoDevice.all_setRegister h.words 0x10 fun v hv => ?_, hb⟩
    rw [List.mem_singleton.1 hv]
    exact isWord_stored hb
  · exact h

theorem fits_init {addr : ℕ} (h3 : 3 ≤ addr) (h32 : addr ≤ 32) {slave : σ}
    (hs : table slave = Table.empty) (hd : init addr slave = .ok d) : Fits d := by
  obtain ⟨hl, hi⟩ := input_of_init hs hd
  have hinfo : ∀ v ∈ EctoDevice.uidData DEVICE_TYPE CHANNEL_COUNT addr, IsWord v :=
    EctoDevice.isWord_uidData h3 h32 (by decide)
  refine ⟨hi.all_iff.2 ⟨hinfo, by decide⟩, fun i => ?_⟩
  rw [hl]
  exact Or.inl rfl

end EctoCH10BinarySensor

/-! ## Temperature sensor -/

namespace EctoTemperatureSensor
variable {σ : Type} [ModbusSlave σ] [LawfulModbusSlave σ]

theorem isWord_trunc_iff {t : ℚ} :
    IsWord (trunc (t * 10)) ↔ -(1 / 10) < t ∧ t < 65536 / 10 := by
  have h1 : -1 < t * 10 ↔ -(1 / 10) < t := by constructor <;> intro h <;> linarith
  have h2 : t * 10 < ((0xFFFF : ℤ) : ℚ) + 1 ↔ t < 65536 / 10 := by
    push_cast
    constructor <;> intro h <;> linarith
  unfold IsWord
  rw [trunc_nonneg_iff, trunc_le_iff (by decide), h1, h2]

structure Fits (d : EctoTemperatureSensor σ) : Prop where
  words : (table d.slave).All IsWord
  input : ∃ info x, d.toEctoDevice.HasInput 0x20 none info x

variable {d : EctoTemperatureSensor σ}

theorem fits_init {addr : ℕ} (h3 : 3 ≤ addr) (h32 : addr ≤ 32) {entityId : Option String}
    {slave : σ}
    (hs : table slave = Table.empty) (hd : init addr entityId slave = .ok d) : Fits d := by
  have hi := input_of_init hs hd
  exact ⟨hi.all_iff.2 ⟨EctoDevice.isWord_uidData h3 h32 (by decide), by decide⟩, _, _, hi⟩

theorem Fits.store (h : Fits d) {v : ℤ}
    {d' : EctoTemperatureSensor σ} (hd : d' =
      { d with toEctoDevice := (EctoDevice.setRegister 0x20 [v]).after d.toEctoDevice }) :
    ((table d'.slave).All IsWord ↔ IsWord v) ∧
      ∃ info x, d'.toEctoDevice.HasInput 0x20 none info x := by
  obtain ⟨info, x, hi⟩ := h.input
  obtain ⟨slave', hok, hi'⟩ := hi.setRegister v
  rw [PyM.after_ok hok] at hd
  subst hd
  have hinfo := (hi.all_iff.1 h.words).1
  refine ⟨?_, info, v, hi'⟩
  rw [hi'.all_iff]
  exact and_iff_right hinfo

end EctoTemperatureSensor
/-! ## Any device -/

namespace DeviceRuns
variable {σ κ W : Type} [ModbusSlave σ] [LawfulModbusSlave σ]
variable {float : String → Except PyException PyFloat} {invoke : Call κ → PyM W Unit}

/-- Every word in every block of the device fits in 16 bits. -/
def WordsFit (d : Device σ κ) : Prop := (table d.base.slave).All IsWord

/-- A temperature, where the action brings one, of which the tenths fit in an unsigned word. -/
def InRange (float : String → Except PyException PyFloat) : Action → Prop
  | .stateChanged newState => ∀ text t, newState = some (some text) →
      float text = .ok (.finite t) → -(1 / 10) < t ∧ t < 65536 / 10
  | _ => True

def Fits : Device σ κ → Prop
  | .relay10ch d => d.Fits
  | .binarySensor10ch d => d.Fits
  | .temperatureSensor d => d.Fits

theorem Fits.words {d : Device σ κ} (h : Fits d) : WordsFit d := by
  cases d with
  | relay10ch d => exact EctoRelay10CH.Fits.words h
  | binarySensor10ch d => exact EctoCH10BinarySensor.Fits.words h
  | temperatureSensor d => exact EctoTemperatureSensor.Fits.words h

theorem fits_init {p : Device σ κ × W} (h : (machine float invoke).Init p) : Fits p.1 := by
  obtain ⟨addr, h3, h32, hd⟩ := h
  cases hd' : p.1 with
  | relay10ch d =>
    rw [hd'] at hd
    cases hd with
    | relay10ch hs hd => exact EctoRelay10CH.fits_init h3 h32 hs hd
  | binarySensor10ch d =>
    rw [hd'] at hd
    cases hd with
    | binarySensor10ch hs hd => exact EctoCH10BinarySensor.fits_init h3 h32 hs hd
  | temperatureSensor d =>
    rw [hd'] at hd
    cases hd with
    | temperatureSensor hs hd => exact EctoTemperatureSensor.fits_init h3 h32 hs hd

variable {w : W} {a : Action}

theorem relay_step {d : EctoRelay10CH σ κ} (h : d.Fits)
    (he : Enabled (.relay10ch d : Device σ κ) a) :
    Fits (step float invoke (.relay10ch d, w) a).1 ∧ InRange float a := by
  cases a with
  | setSwitchState c state => exact ⟨h.setSwitchState c state, trivial⟩
  | setTimer channel initialState timeoutSeconds =>
    exact ⟨h.setTimer channel initialState timeoutSeconds, trivial⟩
  | stateChanged newState => exact he.elim
  | poll =>
    refine ⟨?_, trivial⟩
    simp only [step, EctoCoordinator.after_updateDevice_relay]
    exact h.sync invoke w
  | masterWrite a ws =>
    exact ⟨⟨EctoDevice.all_masterWrite h.words a (isWord_requestValues ws), h.timers⟩, trivial⟩

theorem binarySensor_step {d : EctoCH10BinarySensor σ} (h : d.Fits)
    (he : Enabled (.binarySensor10ch d : Device σ κ) a) :
    Fits (step float invoke (.binarySensor10ch d, w) a).1 ∧ InRange float a := by
  cases a with
  | setSwitchState c state => exact ⟨h.setSwitchState c state, trivial⟩
  | setTimer channel initialState timeoutSeconds => exact he.elim
  | stateChanged newState => exact he.elim
  | poll => exact ⟨h, trivial⟩
  | masterWrite a ws =>
    exact ⟨⟨EctoDevice.all_masterWrite h.words a (isWord_requestValues ws), h.bits⟩, trivial⟩

theorem inRange_stateChanged_iff {newState : Option (Option String)} :
    InRange float (.stateChanged newState) ↔
      ∀ v, EctoTemperatureSensor.scaledValue float newState = .ok v → IsWord v := by
  simp only [InRange, EctoTemperatureSensor.scaledValue_eq_ok_iff]
  constructor
  · rintro h v ⟨text, t, hn, hf, rfl⟩
    exact EctoTemperatureSensor.isWord_trunc_iff.2 (h text t hn hf)
  · intro h text t hn hf
    exact EctoTemperatureSensor.isWord_trunc_iff.1 (h _ ⟨text, t, hn, hf, rfl⟩)

/-- A temperature sensor stores a word exactly if the temperature is in range. -/
theorem temperatureSensor_step {d : EctoTemperatureSensor σ} (h : d.Fits)
    (he : Enabled (.temperatureSensor d : Device σ κ) a) :
    (WordsFit (step float invoke (.temperatureSensor d, w) a).1 ↔ InRange float a) ∧
      (WordsFit (step float invoke (.temperatureSensor d, w) a).1 →
        Fits (step float invoke (.temperatureSensor d, w) a).1) := by
  cases a with
  | setSwitchState c state => exact he.elim
  | setTimer channel initialState timeoutSeconds => exact he.elim
  | poll => exact ⟨iff_of_true h.words trivial, fun _ => h⟩
  | masterWrite a ws =>
    obtain ⟨info, x, hi⟩ := h.input
    obtain ⟨info', hi'⟩ := hi.masterWrite a (requestValues ws)
    have hw := EctoDevice.all_masterWrite h.words a (isWord_requestValues ws)
    exact ⟨iff_of_true hw trivial, fun _ => ⟨hw, info', x, hi'⟩⟩
  | stateChanged newState =>
    rw [inRange_stateChanged_iff]
    simp only [step]
    cases hv : EctoTemperatureSensor.scaledValue float newState with
    | error e =>
      have hd : (EctoTemperatureSensor.stateChanged float newState).after d = d := by
        rw [EctoTemperatureSensor.after_stateChanged, hv]
      rw [hd]
      exact ⟨iff_of_true h.words fun v hv => (by cases hv), fun _ => h⟩
    | ok v =>
      have hd := EctoTemperatureSensor.after_stateChanged float newState d
      rw [hv] at hd
      obtain ⟨hw, hi⟩ := h.store hd
      exact ⟨hw.trans (by simp), fun hw' => ⟨hw', hi⟩⟩

theorem wordsFit_step_iff {p : Device σ κ × W} (h : Fits p.1)
    (he : (machine float invoke).Enabled p a) :
    (WordsFit ((machine float invoke).step p a).1 ↔ InRange float a) ∧
      (WordsFit ((machine float invoke).step p a).1 →
        Fits ((machine float invoke).step p a).1) := by
  obtain ⟨d, w⟩ := p
  cases d with
  | relay10ch d =>
    obtain ⟨hf, hr⟩ : Fits (step float invoke (.relay10ch d, w) a).1 ∧ InRange float a :=
      relay_step h he
    exact ⟨iff_of_true hf.words hr, fun _ => hf⟩
  | binarySensor10ch d =>
    obtain ⟨hf, hr⟩ : Fits (step float invoke (.binarySensor10ch d, w) a).1 ∧ InRange float a :=
      binarySensor_step h he
    exact ⟨iff_of_true hf.words hr, fun _ => hf⟩
  | temperatureSensor d => exact temperatureSensor_step h he

/-- Whatever the device, all its words fit in 16 bits throughout a run exactly if every finite
temperature in the run is above -0.1 and below 6553.6 degrees. -/
theorem wordsFit_run_iff {p : Device σ κ × W} (hp : (machine float invoke).Init p)
    {as : List Action} (h : (machine float invoke).IsRun p as) :
    WordsFit p.1 ∧
      ((machine float invoke).EveryStep
          (fun q a => WordsFit ((machine float invoke).step q a).1) p as ↔
        ∀ a ∈ as, InRange float a) := by
  have hf := fits_init hp
  refine ⟨hf.words, ?_⟩
  rw [← Machine.everyStep_const_iff (M := machine float invoke) (s := p)]
  have hI : (machine float invoke).Preserves fun _ : Device σ κ × W => True :=
    fun _ _ _ _ => trivial
  exact hI.everyStep_congr_of_good (fun _ _ _ hg he => (wordsFit_step_iff hg he).1)
    (fun _ _ _ hg he hw => (wordsFit_step_iff hg he).2 hw) trivial hf h

instance (d : Device RegTable κ) : Decidable (WordsFit d) :=
  inferInstanceAs (Decidable (Table.All _ _))

def thermometer : Device RegTable Empty × Unit :=
  (.temperatureSensor (EctoTemperatureSensor.onTable 5 (some "sensor.outside")), ())

def readings : String → Except PyException PyFloat
  | "21.5" => .ok (.finite (43 / 2))
  | "-5.0" => .ok (.finite (-5))
  | _ => .error .valueError

theorem init_thermometer :
    (machine readings fun _ : Call Empty => (pure () : PyM Unit Unit)).Init thermometer :=
  ⟨5, by decide, by decide, .temperatureSensor rfl (EctoTemperatureSensor.init_onTable 5 _)⟩

theorem negative_temperature_is_no_word :
    (machine readings fun _ : Call Empty => (pure () : PyM Unit Unit)).IsRun thermometer
        [.stateChanged (some (some "-5.0"))] ∧
      ¬ WordsFit ((machine readings fun _ : Call Empty => (pure () : PyM Unit Unit)).run thermometer
        [.stateChanged (some (some "-5.0"))]).1 :=
  ⟨⟨trivial, trivial⟩, by decide +kernel⟩

theorem positive_temperature_fits :
    (machine readings fun _ : Call Empty => (pure () : PyM Unit Unit)).EveryStep
      (fun q a => WordsFit ((machine readings fun _ => pure ()).step q a).1) thermometer
      [.stateChanged (some (some "21.5")), .masterWrite 3 [0xFFFF], .stateChanged none] := by
  have hr : (machine readings fun _ : Call Empty => (pure () : PyM Unit Unit)).IsRun thermometer
      [.stateChanged (some (some "21.5")), .masterWrite 3 [0xFFFF], .stateChanged none] :=
    ⟨trivial, trivial, trivial, trivial⟩
  have hread : readings "21.5" = .ok (.finite (43 / 2)) := rfl
  apply (wordsFit_run_iff init_thermometer hr).2.2
  simp only [List.mem_cons, List.not_mem_nil, or_false]
  rintro a (rfl | rfl | rfl)
  · rintro text t ⟨⟩ hf
    rw [hread] at hf
    cases hf
    norm_num
  · trivial
  · rintro text t ⟨⟩

end DeviceRuns
end Ecto
