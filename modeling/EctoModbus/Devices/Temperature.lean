import EctoModbus.Devices.TemperatureDefs
import EctoModbus.Devices.InputRegister

/-! What a state change leaves in the temperature register. -/

namespace Ecto
open Python BlockTable

namespace EctoTemperatureSensor
variable {σ : Type}
variable {float : String → Except PyException PyFloat} {newState : Option (Option String)}

/-- Only a text that `float` takes for a finite number gives a value, its truncated tenths. -/
theorem scaledValue_eq_ok_iff {v : ℤ} : scaledValue float newState = .ok v ↔
    ∃ text t, newState = some (some text) ∧ float text = .ok (.finite t) ∧ trunc (t * 10) = v := by
  rcases newState with _ | _ | text
  · simp [scaledValue]
  · simp [scaledValue]
  · cases hf : float text with
    | error e => simp [scaledValue, hf, bind, Except.bind]
    | ok x => cases x <;> simp [scaledValue, hf, bind, Except.bind, PyFloat.scale, PyFloat.toInt]

theorem asyncInit_ok (d : EctoTemperatureSensor σ) :
    ∃ entityId, asyncInit d = .ok entityId { d with hass := true } := by
  unfold asyncInit
  rw [PyM.modify_bind, PyM.get_bind]
  cases d.entityId with
  | none => exact ⟨none, rfl⟩
  | some entityId =>
    simp only
    split_ifs
    · exact ⟨some entityId, rfl⟩
    · exact ⟨none, rfl⟩

theorem after_asyncInit (d : EctoTemperatureSensor σ) :
    asyncInit.after d = { d with hass := true } := by
  obtain ⟨entityId, h⟩ := asyncInit_ok d
  exact PyM.after_ok h

variable [ModbusSlave σ]

theorem after_stateChanged (float : String → Except PyException PyFloat)
    (newState : Option (Option String)) (d : EctoTemperatureSensor σ) :
    (stateChanged float newState).after d =
      match scaledValue float newState with
      | .ok v => { d with toEctoDevice := (EctoDevice.setRegister 0x20 [v]).after d.toEctoDevice }
      | .error _ => d := by
  unfold stateChanged
  rw [PyM.after_tryCatch]
  · cases scaledValue float newState with
    | ok v => exact PyM.after_zoom ..
    | error e => rfl
  · intro e s
    split_ifs <;> rfl

theorem entityId_of_init {addr : ℕ} {entityId : Option String} {slave : σ}
    {d : EctoTemperatureSensor σ} (hd : init addr entityId slave = .ok d) :
    d.entityId = entityId := by
  obtain ⟨_, _, hd⟩ := bind_eq_ok hd
  obtain ⟨_, _, hd⟩ := bind_eq_ok hd
  cases hd
  rfl

variable [LawfulModbusSlave σ]

theorem init_input (addr : ℕ) (entityId : Option String) (slave : σ)
    (hs : table slave = Table.empty) :
    ∃ d, init addr entityId slave = .ok d ∧ d.toEctoDevice.HasInput 0x20 none
      (EctoDevice.uidData DEVICE_TYPE CHANNEL_COUNT addr) 0 := by
  obtain ⟨d₀, d, h₀, h, hi⟩ := EctoDevice.init_input_ok DEVICE_TYPE CHANNEL_COUNT addr hs
    (by decide : 0 < 0x20) none
  refine ⟨⟨d, entityId, false⟩, ?_, hi⟩
  simp only [init, h₀, h, bind, Except.bind, pure, Except.pure]

theorem input_of_init {addr : ℕ} {entityId : Option String} {slave : σ}
    (hs : table slave = Table.empty) {d : EctoTemperatureSensor σ}
    (hd : init addr entityId slave = .ok d) : d.toEctoDevice.HasInput 0x20 none
      (EctoDevice.uidData DEVICE_TYPE CHANNEL_COUNT addr) 0 :=
  (exists_ok_iff hd).1 (init_input addr entityId slave hs)

theorem init_isSome (addr : ℕ) (entityId : Option String) :
    (init addr entityId (Table.empty : RegTable)).toOption.isSome := by
  obtain ⟨d, hd, _⟩ := init_input addr entityId (Table.empty : RegTable) rfl
  exact isSome_of_ok hd

def onTable (addr : ℕ) (entityId : Option String) : EctoTemperatureSensor RegTable :=
  (init addr entityId Table.empty).toOption.get (init_isSome addr entityId)

theorem init_onTable (addr : ℕ) (entityId : Option String) :
    init addr entityId Table.empty = .ok (onTable addr entityId) :=
  eq_ok_get (init_isSome addr entityId)

end EctoTemperatureSensor
end Ecto
