import EctoModbus.Bus.Panel

/-! What the bus is for: a device has one state for each channel, which Home Assistant and the
master both set and both see. The panels keep to this as long as no command reaches a relay between
a master's write and the next poll, and none is for a channel that a contact sensor has no place
for. -/

namespace Ecto
open Python Transition Shadow

namespace Board
open NodeSystem

/-- Each write takes effect at once, on its own channels. -/
def step (cells : Fin 10 → ℤ) : DeviceClass → Action → Fin 10 → ℤ
  | .relay10ch, .addEntity e _ => Function.update cells e 0
  | .relay10ch, .turnOn e => Function.update cells e 1
  | .relay10ch, .turnOff e => Function.update cells e 0
  | .relay10ch, .masterWrite a ws =>
    (RelayImage.stateWord a ws).elim cells fun w => decode w.toNat
  | .binarySensor10ch, a =>
    (Panel.contactCommand a).elim cells fun x => Function.update cells x.1 x.2.toInt
  | _, _ => cells

def cells (c : DeviceClass) (as : List Action) : Fin 10 → ℤ :=
  as.foldl (fun cells a => step cells c a) fun _ => 0

def IsCommand : Action → Prop
  | .addEntity _ _ => True
  | .turnOn _ => True
  | .turnOff _ => True
  | _ => False

/-- The state says whether the last poll has seen the word a master wrote. -/
def watch (c : DeviceClass) : Machine Bool Action where
  Init fresh := fresh = true
  Enabled fresh a :=
    match c with
    | .relay10ch => IsCommand a → fresh = true
    | .binarySensor10ch => ∀ x ∈ Panel.contactCommand a, x.1.val < 8
    | .temperatureSensor => True
  step fresh a :=
    match c, a with
    | .relay10ch, .masterWrite a ws => fresh && (RelayImage.stateWord a ws).isNone
    | .relay10ch, .poll => true
    | _, _ => fresh

instance (a : Action) : Decidable (IsCommand a) :=
  match a with
  | .addEntity _ _ => inferInstanceAs (Decidable True)
  | .turnOn _ => inferInstanceAs (Decidable True)
  | .turnOff _ => inferInstanceAs (Decidable True)
  | .stateChanged _ => inferInstanceAs (Decidable False)
  | .masterWrite _ _ => inferInstanceAs (Decidable False)
  | .poll => inferInstanceAs (Decidable False)

instance (c : DeviceClass) (fresh : Bool) (a : Action) : Decidable ((watch c).Enabled fresh a) :=
  match c with
  | .relay10ch => inferInstanceAs (Decidable (IsCommand a → fresh = true))
  | .binarySensor10ch => inferInstanceAs (Decidable (∀ x ∈ Panel.contactCommand a, x.1.val < 8))
  | .temperatureSensor => inferInstanceAs (Decidable True)

end Board

namespace Panel
open NodeSystem EctoCH10BinarySensor

/-- The channels a master reads in the state register. -/
def cells : Panel → Fin 10 → ℤ
  | .relay p => decode p.word
  | .contacts _ places _ => wired (Bool.toInt ∘ places)
  | .thermometer _ _ => fun _ => 0

/-- What the entities show. -/
def shown : Panel → Fin 10 → ℤ
  | .relay p => p.copy
  | .contacts _ _ shown => Bool.toInt ∘ shown
  | .thermometer _ _ => fun _ => 0

variable {float : String → Except PyException PyFloat}

/-- The panel has the states of the board, and shows them if it has seen the last word. -/
inductive Agrees (fresh : Bool) (board : Fin 10 → ℤ) : DeviceClass → Panel → Prop
  | relay {r : RelayPanel} (hword : decode r.word = board) (hcopy : fresh = true → r.copy = board)
      (hbits : ∀ e, r.copy e = 0 ∨ r.copy e = 1) : Agrees fresh board .relay10ch (.relay r)
  | contacts {info : List ℤ} {places : Fin 8 → Bool} {shown : Fin 10 → Bool}
      (hplaces : wired (Bool.toInt ∘ places) = board) (hshown : Bool.toInt ∘ shown = board) :
      Agrees fresh board .binarySensor10ch (.contacts info places shown)
  | thermometer {info : List ℤ} {tenths : ℤ} (hboard : board = fun _ => 0) :
      Agrees fresh board .temperatureSensor (.thermometer info tenths)

variable {fresh : Bool} {board : Fin 10 → ℤ} {c : DeviceClass} {p : Panel}

theorem Agrees.cells_eq (h : Agrees fresh board c p) : p.cells = board := by
  rcases h with ⟨hword, _, _⟩ | ⟨hplaces, _⟩ | hboard
  · exact hword
  · exact hplaces
  · exact hboard.symm

theorem Agrees.shown_eq (h : Agrees fresh board c p) (hf : fresh = true) : p.shown = board := by
  rcases h with ⟨_, hcopy, _⟩ | ⟨_, hshown⟩ | hboard
  · exact hcopy hf
  · exact hshown
  · exact hboard.symm

theorem agrees_fresh (addr : ℕ) (c : DeviceClass) :
    Agrees true (fun _ => 0) c (Panel.fresh addr c) := by
  have hwired : wired (Bool.toInt ∘ fun _ => false) = fun _ => 0 := by decide
  cases c with
  | binarySensor10ch => exact .contacts hwired rfl
  | relay10ch => exact .relay decode_zero (fun _ => rfl) fun _ => Or.inl rfl
  | temperatureSensor => exact .thermometer rfl

/-- A command that finds the copy fresh changes the channel it is for and no other. -/
theorem agrees_command {r : RelayPanel} (hword : decode r.word = board) (hcopy : r.copy = board)
    (hbits : ∀ e, r.copy e = 0 ∨ r.copy e = 1) (e : Fin 10) {b : ℤ} (hb : b = 0 ∨ b = 1)
    (fresh : Bool) :
    Agrees fresh (Function.update board e b) .relay10ch (.relay (r.command e b)) := by
  have hsync : r.shadow.InSync := hword.trans hcopy.symm
  have hshadow : (r.command e b).shadow = r.shadow.command e b := r.shadow_command hbits e hb
  have hc : (r.command e b).copy = Function.update r.copy e b :=
    (congrArg Shadowed.copy hshadow).trans (Shadowed.copy_command e b r.shadow)
  have hw : decode (r.command e b).word = (r.shadow.command e b).copy :=
    (congrArg Shadowed.master hshadow).trans (hsync.command e b)
  rw [Shadowed.copy_command] at hw
  refine .relay (hw.trans ?_) (fun _ => hc.trans ?_) fun i => ?_
  · exact congrArg (Function.update · e b) hcopy
  · rw [hcopy]
  · rw [hc]
    exact bits_update hbits e hb i

theorem agrees_relay_step {r : RelayPanel} (hword : decode r.word = board)
    (hcopy : fresh = true → r.copy = board) (hbits : ∀ e, r.copy e = 0 ∨ r.copy e = 1) {a : Action}
    (ha : Board.IsCommand a → fresh = true) :
    Agrees ((Board.watch .relay10ch).step fresh a) (Board.step board .relay10ch a) .relay10ch
      (.relay (r.step a)) := by
  cases a with
  | addEntity e lastState =>
    exact agrees_command hword (hcopy (ha trivial)) hbits e (Or.inl rfl) _
  | turnOn e => exact agrees_command hword (hcopy (ha trivial)) hbits e (Or.inr rfl) _
  | turnOff e => exact agrees_command hword (hcopy (ha trivial)) hbits e (Or.inl rfl) _
  | stateChanged newState => exact .relay hword hcopy hbits
  | masterWrite a ws =>
    have hshadow : decode (r.request a ws).word =
        ((RelayImage.stateWord a ws).elim r.shadow fun w =>
          r.shadow.overwrite (decode w.toNat)).master :=
      congrArg Shadowed.master (r.shadow_request a ws)
    show Agrees (fresh && (RelayImage.stateWord a ws).isNone)
      ((RelayImage.stateWord a ws).elim board fun w => decode w.toNat) .relay10ch
      (.relay (r.request a ws))
    cases hs : RelayImage.stateWord a ws with
    | none =>
      rw [hs] at hshadow
      rw [Option.isNone_none, Bool.and_true]
      exact .relay (hshadow.trans hword) hcopy hbits
    | some w =>
      rw [hs] at hshadow
      -- nothing is promised of the copy until the next poll
      rw [Option.isNone_some, Bool.and_false]
      exact .relay hshadow (fun h => nomatch h) hbits
  | poll => exact .relay hword (fun _ => hword) (decode_bit r.word)

theorem wired_update (places : Fin 8 → Bool) {e : Fin 10} (he : e.val < 8) (b : Bool) :
    wired (Bool.toInt ∘ Function.update places (slot e) b) =
      Function.update (wired (Bool.toInt ∘ places)) e b.toInt := by
  obtain ⟨i, rfl⟩ : ∃ i, e = EctoRelay10CH.msbChannel i := ⟨⟨e.val, he⟩, rfl⟩
  rw [slot_msbChannel, Function.comp_update]
  funext c
  induction c using EctoRelay10CH.channel_cases with
  | hm j =>
    rw [wired_msb]
    by_cases hj : j = i
    · subst hj
      rw [Function.update_self, Function.update_self]
    · have hrev : j.rev ≠ i.rev := fun h => hj (Fin.rev_injective h)
      have hmsb : EctoRelay10CH.msbChannel j ≠ EctoRelay10CH.msbChannel i :=
        fun h => hj (Fin.castAdd_injective 8 2 h)
      rw [Function.update_of_ne hrev, Function.update_of_ne hmsb, wired_msb]
  | hl j =>
    -- the channels of the low byte have no place of their own
    have hlsb : EctoRelay10CH.lsbChannel j ≠ EctoRelay10CH.msbChannel i := by
      intro h
      have hval := congrArg Fin.val h
      simp only [EctoRelay10CH.lsbChannel, EctoRelay10CH.msbChannel, Fin.val_natAdd,
        Fin.val_castAdd] at hval
      omega
    rw [wired_lsb, Function.update_of_ne hlsb, wired_lsb]

theorem agrees_contacts_step {info : List ℤ} {places : Fin 8 → Bool} {shown : Fin 10 → Bool}
    (hplaces : wired (Bool.toInt ∘ places) = board) (hshown : Bool.toInt ∘ shown = board)
    {a : Action} (ha : ∀ x ∈ contactCommand a, x.1.val < 8) (fresh : Bool) :
    Agrees fresh (Board.step board .binarySensor10ch a) .binarySensor10ch
      ((Panel.contacts info places shown).step float a) := by
  show Agrees fresh ((contactCommand a).elim board fun x => Function.update board x.1 x.2.toInt)
    .binarySensor10ch (.contacts (infoStep info a)
      (Replay.replay places (Replay.through slot (contactCommand a).toList))
      (Replay.replay shown (contactCommand a).toList))
  cases hc : contactCommand a with
  | none => exact .contacts hplaces hshown
  | some x =>
    have hx : x.1.val < 8 := ha x hc
    refine .contacts ((wired_update places hx x.2).trans ?_) ((Function.comp_update ..).trans ?_)
    · rw [hplaces]
      rfl
    · rw [hshown]
      rfl

theorem agrees_step (h : Agrees fresh board c p) {a : Action}
    (ha : (Board.watch c).Enabled fresh a) :
    Agrees ((Board.watch c).step fresh a) (Board.step board c a) c (p.step float a) := by
  rcases h with ⟨hword, hcopy, hbits⟩ | ⟨hplaces, hshown⟩ | hboard
  · exact agrees_relay_step hword hcopy hbits ha
  · exact agrees_contacts_step hplaces hshown ha _
  · exact .thermometer hboard

theorem agrees_run (float : String → Except PyException PyFloat) (h : Agrees fresh board c p)
    {as : List Action} (ha : (Board.watch c).IsRun fresh as) :
    Agrees ((Board.watch c).run fresh as) (as.foldl (fun board a => Board.step board c a) board) c
      (as.foldl (Panel.step float) p) := by
  induction as generalizing fresh board p with
  | nil => exact h
  | cons a as ih => exact ih (agrees_step h ha.1) ha.2

end Panel
end Ecto
