import EctoModbus.Entity.SwitchDefs

/-! What the methods of an entity do to its own attributes and to the device. Home Assistant may
raise when it is told of a change; that comes last and undoes nothing. -/

namespace Ecto
open Python

namespace SwitchBank
variable {η δ : Type}

@[simp] theorem setEntity_self (e : Fin 10) (f : EctoChannelSwitch → EctoChannelSwitch)
    (bank : SwitchBank η) : (bank.setEntity e f).entities e = f (bank.entities e) :=
  Function.update_self ..

@[simp] theorem setEntity_of_ne {e i : Fin 10} (h : i ≠ e)
    (f : EctoChannelSwitch → EctoChannelSwitch) (bank : SwitchBank η) :
    (bank.setEntity e f).entities i = bank.entities i :=
  Function.update_of_ne h ..

theorem setEntity_attr {α : Type} (attr : EctoChannelSwitch → α)
    {f : EctoChannelSwitch → EctoChannelSwitch} (hf : ∀ self, attr (f self) = attr self)
    (e i : Fin 10)
    (bank : SwitchBank η) : attr ((bank.setEntity e f).entities i) = attr (bank.entities i) := by
  by_cases h : i = e
  · rw [h, setEntity_self, hf]
  · rw [setEntity_of_ne h]

variable [HomeAssistant η]

@[simp] theorem entities_after_scheduleUpdate (e : Fin 10) (bank : SwitchBank η) :
    ((scheduleUpdate e).after bank).entities = bank.entities := by
  unfold scheduleUpdate
  rw [PyM.after_get_bind, PyM.after_zoom]

/-- A callback for the entity's own channel stores the state, even if Home Assistant raises. -/
theorem entities_after_onDeviceStateChange {e : Fin 10} {bank : SwitchBank η} {channel : ℤ}
    (h : (bank.entities e).channel = channel) (state : ℤ) :
    ((onDeviceStateChange e channel state).after bank).entities =
      (bank.setEntity e fun self => { self with state := truthy state }).entities := by
  simp only [onDeviceStateChange, PyM.after_get_bind, h, if_true, PyM.after_modify_bind]
  split_ifs
  · exact entities_after_scheduleUpdate e _
  · rfl

theorem scheduleUpdate_returns (hh : HomeAssistant.NeverRaises η) (e : Fin 10)
    (bank : SwitchBank η) : ∃ bank', scheduleUpdate e bank = .ok () bank' := by
  obtain ⟨h', hok⟩ := hh e (bank.entities e).state bank.hass
  unfold scheduleUpdate
  rw [PyM.get_bind]
  exact ⟨_, PyM.zoom_ok hok⟩

theorem onDeviceStateChange_returns (hh : HomeAssistant.NeverRaises η) (e : Fin 10)
    (channel state : ℤ) (bank : SwitchBank η) :
    ∃ bank', onDeviceStateChange e channel state bank = .ok () bank' := by
  simp only [onDeviceStateChange, PyM.get_bind]
  split_ifs
  · rw [PyM.modify_bind]
    exact scheduleUpdate_returns hh e _
  · exact ⟨_, rfl⟩
  · exact ⟨_, rfl⟩

variable [SwitchDevice δ]

theorem after_updateState {e : Fin 10} {b : Bool} (d : δ) (bank : SwitchBank η) {d' : δ}
    (h : SwitchDevice.setSwitchState (bank.entities e).channel b.toInt d = .ok () d') :
    ((updateState e b).after (d, bank)).1 = d' ∧
      ((updateState e b).after (d, bank)).2.entities =
        (bank.setEntity e fun self => { self with state := b }).entities := by
  have hstate : (PyM.second (modify (setEntity e fun self => { self with state := b })))
      (d', bank) =
      .ok ⟨⟩ (d', bank.setEntity e fun self => { self with state := b }) := PyM.second_ok rfl
  have hd : (updateState e b).after (d, bank) =
      ((if (bank.entities e).hass then PyM.second (scheduleUpdate e) else pure ()).after
        (d', bank.setEntity e fun self => { self with state := b })) := by
    cases b
    · exact (PyM.after_bind_ok (PyM.first_ok h)).trans (PyM.after_bind_ok hstate)
    · exact (PyM.after_bind_ok (PyM.first_ok h)).trans (PyM.after_bind_ok hstate)
  rw [hd]
  split_ifs
  · -- Home Assistant may raise here, after everything is done
    simp
  · exact ⟨rfl, rfl⟩

end SwitchBank
end Ecto
