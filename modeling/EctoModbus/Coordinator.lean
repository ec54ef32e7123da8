import EctoModbus.CoordinatorDefs
import EctoModbus.Devices.BinarySensor
import EctoModbus.Devices.Relay
import EctoModbus.Library.Delivery

/-! Repeated polls of all devices. A relay advances a channel before it calls back, so a poll cut
short by a callback has still delivered that change, and the next one goes on behind it. -/

namespace Ecto
open Python BlockTable Delivery

namespace EctoCoordinator
open EctoRelay10CH
variable {σ κ W : Type} [ModbusSlave σ] [LawfulModbusSlave σ]

/-! ## One relay -/

/-- The calls a relay owes: one for each channel that has a callback and differs from its bit. -/
def pending (d : EctoRelay10CH σ κ) : List (Call κ) :=
  pendingCalls d.stateChangeCallbacks (decode d.word) d.channels (List.finRange 10)

def Synced (d : EctoRelay10CH σ κ) : Prop := d.channels = decode d.word

theorem pending_eq {d : EctoRelay10CH σ κ} {v : RelayImage κ} (h : Models d v) :
    pending d = pendingCalls v.callbacks (decode v.word) v.channels (List.finRange 10) := by
  unfold pending
  rw [h.callbacks, h.word_eq, h.channels]

theorem mem_pending {d : EctoRelay10CH σ κ} {call : Call κ} :
    call ∈ pending d ↔ ∃ c k, d.stateChangeCallbacks c = some k ∧
      d.channels c ≠ decode d.word c ∧ call = ⟨k, c, decode d.word c⟩ := by
  simp only [pending, pendingCalls, List.mem_filterMap, List.mem_finRange, true_and]
  constructor
  · rintro ⟨c, hc⟩
    split at hc
    · cases hc
    · obtain ⟨k, hk, rfl⟩ := Option.map_eq_some_iff.1 hc
      exact ⟨c, k, hk, by assumption, rfl⟩
  · rintro ⟨c, k, hk, hne, rfl⟩
    exact ⟨c, by rw [if_neg hne, hk, Option.map_some]⟩

theorem nodup_pending (d : EctoRelay10CH σ κ) : (pending d).Nodup := by
  refine (List.nodup_finRange 10).filterMap fun c c' call hc hc' => ?_
  -- a call carries its channel
  have hchannel : ∀ i : Fin 10, (if d.channels i = decode d.word i then none
      else (d.stateChangeCallbacks i).map fun k => (⟨k, i, decode d.word i⟩ : Call κ)) = some call →
      call.channel = i := by
    intro i hi
    split at hi
    · cases hi
    · obtain ⟨k, _, rfl⟩ := Option.map_eq_some_iff.1 hi
      rfl
  have hcc : (c : ℤ) = c' := by rw [← hchannel c hc, ← hchannel c' hc']
  exact Fin.ext (by exact_mod_cast hcc)

variable (handle : Call κ → PyM W Unit)

theorem sync_delivers :
    Delivers (fun d : EctoRelay10CH σ κ => ∃ v, Models d v) pending Synced
      (syncChannelsFromRegister (traced handle)) where
  ok := by
    rintro d t w a d' t' w' ⟨v, h⟩ he
    rw [syncChannelsFromRegister_eq h] at he
    cases hu : rounds (traced handle) v v.word (t, w) with
    | ok c q =>
      obtain ⟨ch, t₁, w₁⟩ := q
      rw [parse_ok h hu] at he
      cases he
      have hm := h.setChannels ch
      -- all ten rounds have been made
      have hch : ch = decode v.word := by rw [updateChannels_ok hu, setAll_finRange]
      refine ⟨⟨_, hm⟩, ?_, ?_⟩
      · rw [Synced, hm.word_eq]
        exact hch
      · rw [pending_eq h]
        exact updateChannels_traced_ok (List.nodup_finRange 10) hu
    | error e q =>
      rw [parse_error h hu] at he
      cases he
  error := by
    rintro d t w e d' t' w' ⟨v, h⟩ he
    rw [syncChannelsFromRegister_eq h] at he
    cases hu : rounds (traced handle) v v.word (t, w) with
    | ok c q =>
      rw [parse_ok h hu] at he
      cases he
    | error e q =>
      obtain ⟨ch, t₁, w₁⟩ := q
      rw [parse_error h hu] at he
      cases he
      have hm := h.setChannels ch
      obtain ⟨_, sent, hs, ht, hp⟩ := updateChannels_traced_error (List.nodup_finRange 10) hu
      refine ⟨⟨_, hm⟩, sent, hs, ht, ?_⟩
      rw [pending_eq h, pending_eq hm]
      exact hp
  idle := by
    rintro d t w ⟨v, h⟩ hd
    rw [syncChannelsFromRegister_eq h]
    have hv : v.channels = decode v.word := by
      rw [← h.channels, ← h.word_eq]
      exact hd
    exact ⟨false, parse_idle h hv (t, w)⟩

/-! ## All devices -/

/-- The device was set up; a relay may hold any word, channels and callbacks. -/
def InPlace : Device σ κ → Prop
  | .relay10ch d => ∃ v, Models d v
  | _ => True

def devicePending : Device σ κ → List (Call κ)
  | .relay10ch d => pending d
  | _ => []

def DeviceSynced : Device σ κ → Prop
  | .relay10ch d => Synced d
  | _ => True

/-- A device but for the cached channels. -/
def besidesChannels : Device σ κ → Device σ κ
  | .relay10ch d => .relay10ch { d with channels := fun _ => 0 }
  | d => d

theorem updateDevice_delivers :
    Delivers (InPlace (σ := σ)) devicePending DeviceSynced (updateDevice (traced handle)) where
  ok := by
    intro d t w a d' t' w' hi he
    cases d with
    | relay10ch d =>
      simp only [updateDevice] at he
      cases hs : syncChannelsFromRegister (traced handle) (d, t, w) with
      | ok c q =>
        obtain ⟨d₁, t₁, w₁⟩ := q
        rw [hs] at he
        cases he
        exact (sync_delivers handle).ok hi hs
      | error e q =>
        rw [hs] at he
        cases he
    | binarySensor10ch d =>
      cases he
      exact ⟨trivial, trivial, (List.append_nil t).symm⟩
    | temperatureSensor d =>
      cases he
      exact ⟨trivial, trivial, (List.append_nil t).symm⟩
  error := by
    intro d t w e d' t' w' hi he
    cases d with
    | relay10ch d =>
      simp only [updateDevice] at he
      cases hs : syncChannelsFromRegister (traced handle) (d, t, w) with
      | ok c q =>
        rw [hs] at he
        cases he
      | error e q =>
        obtain ⟨d₁, t₁, w₁⟩ := q
        rw [hs] at he
        cases he
        exact (sync_delivers handle).error hi hs
    | binarySensor10ch d => cases he
    | temperatureSensor d => cases he
  idle := by
    intro d t w hi hd
    cases d with
    | relay10ch d =>
      obtain ⟨c, hc⟩ := (sync_delivers handle).idle t w hi hd
      exact ⟨(), by simp only [updateDevice, hc]⟩
    | binarySensor10ch d => exact ⟨(), rfl⟩
    | temperatureSensor d => exact ⟨(), rfl⟩

theorem besidesChannels_updateDevice {invoke : Call κ → PyM W Unit} (d : Device σ κ) (w : W)
    (hi : InPlace d) :
    besidesChannels ((updateDevice invoke).after (d, w)).1 = besidesChannels d := by
  cases d with
  | relay10ch d =>
    obtain ⟨v, h⟩ := hi
    have hs := after_syncChannelsFromRegister h invoke w
    rw [after_parse h] at hs
    simp only [PyM.after, updateDevice] at hs ⊢
    cases hr : syncChannelsFromRegister invoke (d, w) with
    | ok c q =>
      rw [hr] at hs
      simp only [hs, besidesChannels]
    | error e q =>
      rw [hr] at hs
      simp only [hs, besidesChannels]
  | binarySensor10ch d => rfl
  | temperatureSensor d => rfl

theorem asyncUpdateData_delivers (ds₀ : List (Device σ κ)) :
    Delivers (fun ds => (∀ d ∈ ds, InPlace d) ∧ ds.map besidesChannels = ds₀.map besidesChannels)
      (fun ds => ds.flatMap devicePending) (fun ds => ∀ d ∈ ds, DeviceSynced d)
      (asyncUpdateData (traced handle)) := by
  have hframe : ∀ (ds : List (Device σ κ)) p, (∀ d ∈ ds, InPlace d) →
      ((PyM.each (updateDevice (traced handle))).after (ds, p)).1.map besidesChannels =
        ds.map besidesChannels :=
    fun _ p hi => PyM.map_after_each (fun d w => besidesChannels_updateDevice d w) hi p
  exact ((updateDevice_delivers handle).each.frame hframe _).discard true

omit [LawfulModbusSlave σ] in
theorem asyncUpdateData_value {invoke : Call κ → PyM W Unit} {p q : List (Device σ κ) × W}
    {b : Bool}
    (h : asyncUpdateData invoke p = .ok b q) : b = true := by
  cases he : PyM.each (updateDevice invoke) p with
  | ok u r =>
    unfold asyncUpdateData at h
    rw [PyM.bind_ok he] at h
    cases h
    rfl
  | error e r =>
    unfold asyncUpdateData at h
    rw [PyM.bind_error he] at h
    cases h

/-- Polled again after each exception, the devices get through within one poll more than there
are pending changes. By then each change has been announced once and nothing else has; the relays
show their registers, which no poll has touched, and further polls do nothing. -/
theorem polls_deliver_once {ds : List (Device σ κ)} (hds : ∀ d ∈ ds, InPlace d)
    (t : List (Call κ)) (w : W) :
    let poll := asyncUpdateData (σ := σ) (traced handle)
    ∃ k, k ≤ (ds.flatMap devicePending).length ∧
      (∀ j, j < k → poll.result (poll.after^[j] (ds, t, w)) = none) ∧
      ∃ ds' w', poll (poll.after^[k] (ds, t, w)) =
          .ok true (ds', t ++ ds.flatMap devicePending, w') ∧
        (∀ d ∈ ds', DeviceSynced d) ∧ ds'.map besidesChannels = ds.map besidesChannels ∧
        ∀ t' w'', poll (ds', t', w'') = .ok true (ds', t', w'') := by
  intro poll
  have h := asyncUpdateData_delivers handle ds
  -- each poll that raises has taken something off the pending list
  obtain ⟨k, hk, hfail, b, ds', w', hok, hi, hd⟩ := h.within ⟨hds, rfl⟩ t w
  have hidle : ∀ t' w'', poll (ds', t', w'') = .ok true (ds', t', w'') := fun t' w'' =>
    PyM.bind_ok (forEach_idle (updateDevice_delivers handle) ds' t' w'' hi.1 hd)
  refine ⟨k, hk, hfail, ds', w', ?_, hd, hi.2, hidle⟩
  obtain rfl : b = true := asyncUpdateData_value hok
  exact hok

/-- A relay that a master has written to behind the back of two of its entities. -/
def twoPending : EctoRelay10CH RegTable ℕ :=
  (do
    setStateChangeCallback 0 5
    setStateChangeCallback 1 6
    onDevice (EctoDevice.masterWrite 0x10 [0x0700]) : PyM _ _).after (onTable ℕ 3)

theorem inPlace_twoPending : ∃ v, Models twoPending v := by
  have hm₀ : Models (onTable ℕ 3) (RelayImage.fresh 3) := models_of_init rfl (init_onTable 3)
  obtain ⟨d₁, h₁, hm₁⟩ := setStateChangeCallback_models hm₀ 0 5
  obtain ⟨d₂, h₂, hm₂⟩ := setStateChangeCallback_models hm₁ 1 6
  obtain ⟨d₃, h₃, hm₃⟩ := masterWrite_word hm₂ 0x0700
  have hd : twoPending = d₃ := by
    rw [twoPending, PyM.after_bind_ok h₁, PyM.after_bind_ok h₂]
    exact PyM.after_ok h₃
  rw [hd]
  exact ⟨_, hm₃⟩

def failing (_ : Call ℕ) : PyM Unit Unit := throw (.other "callback")

theorem polls_deliver_two :
    let ds : List (Device RegTable ℕ) :=
      [.binarySensor10ch (EctoCH10BinarySensor.onTable 4), .relay10ch twoPending]
    let poll := asyncUpdateData (σ := RegTable) (traced failing)
    ∃ k ≤ 2, ∃ ds', (∀ d ∈ ds', DeviceSynced d) ∧
      poll (poll.after^[k] (ds, [], ())) = .ok true (ds', [⟨5, 0, 1⟩, ⟨6, 1, 1⟩], ()) := by
  intro ds poll
  have hds : ∀ d ∈ ds, InPlace d :=
    List.forall_mem_cons.2 ⟨trivial, List.forall_mem_singleton.2 inPlace_twoPending⟩
  have hp : ds.flatMap devicePending = [⟨5, 0, 1⟩, ⟨6, 1, 1⟩] := by decide +kernel
  obtain ⟨k, hk, _, ds', w', hok, hsynced, _⟩ := polls_deliver_once failing hds [] ()
  rw [hp] at hk hok
  exact ⟨k, hk, ds', hsynced, hok⟩

end EctoCoordinator
end Ecto
