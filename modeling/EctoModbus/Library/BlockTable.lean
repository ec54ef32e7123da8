import Mathlib.Data.List.Basic
import Mathlib.Data.List.Nodup
import Mathlib.Data.List.Pairwise

/-! Named blocks of consecutive cells in several address spaces. Names are unique and blocks of
one address space do not overlap; both facts are carried by the table, so that no operation can
break them. -/

namespace BlockTable
variable {τ ν : Type}

/-- `xs` with `vs` stored from position `k` on. -/
def splice (xs : List ν) (k : ℕ) (vs : List ν) : List ν :=
  xs.take k ++ vs ++ xs.drop (k + vs.length)

theorem length_splice {xs vs : List ν} {k : ℕ} (h : k + vs.length ≤ xs.length) :
    (splice xs k vs).length = xs.length := by
  simp only [splice, List.length_append, List.length_take, List.length_drop]
  omega

theorem mem_splice {xs vs : List ν} {k : ℕ} {v : ν} (h : v ∈ splice xs k vs) :
    v ∈ xs ∨ v ∈ vs := by
  simp only [splice, List.mem_append] at h
  rcases h with (h | h) | h
  · exact Or.inl (List.mem_of_mem_take h)
  · exact Or.inr h
  · exact Or.inl (List.mem_of_mem_drop h)

theorem splice_all {xs vs : List ν} (h : vs.length = xs.length) : splice xs 0 vs = vs := by
  simp only [splice, List.take_zero, List.nil_append, Nat.zero_add, h, List.drop_length,
    List.append_nil]

theorem splice_nil (xs : List ν) (k : ℕ) : splice xs k [] = xs := by
  simp only [splice, List.append_nil, List.length_nil, Nat.add_zero, List.take_append_drop]

theorem splice_eq_self_iff {xs vs : List ν} {k : ℕ} :
    splice xs k vs = xs ↔ vs = (xs.drop k).take vs.length := by
  have hxs : xs.take k ++ (xs.drop k).take vs.length ++ xs.drop (k + vs.length) = xs := by
    rw [List.append_assoc, ← List.drop_drop, List.take_append_drop, List.take_append_drop]
  unfold splice
  constructor
  · intro h
    have he := h.trans hxs.symm
    exact List.append_cancel_left (List.append_cancel_right he)
  · intro h
    rw [← h] at hxs
    exact hxs

theorem getElem?_splice {xs vs : List ν} {k : ℕ} (h : k + vs.length ≤ xs.length) (i : ℕ) :
    (splice xs k vs)[i]? = if k ≤ i ∧ i < k + vs.length then vs[i - k]? else xs[i]? := by
  have hk : (xs.take k).length = k := by
    rw [List.length_take]
    omega
  unfold splice
  split_ifs with hi
  · rw [List.append_assoc, List.getElem?_append_right (by omega), hk,
      List.getElem?_append_left (by omega)]
  · rcases Nat.lt_or_ge i k with hlt | hge
    · rw [List.append_assoc, List.getElem?_append_left (by omega), List.getElem?_take_of_lt hlt]
    · rw [List.getElem?_append_right (by rw [List.length_append]; omega), List.getElem?_drop,
        List.length_append, hk]
      congr 1
      omega

structure Block (τ ν : Type) where
  name : String
  kind : τ
  start : ℕ
  values : List ν
  deriving DecidableEq, Repr

namespace Block

def Contains (b : Block τ ν) (a n : ℕ) : Prop :=
  b.start ≤ a ∧ a + n ≤ b.start + b.values.length

instance (b : Block τ ν) (a n : ℕ) : Decidable (b.Contains a n) :=
  inferInstanceAs (Decidable (_ ∧ _))

/-- Two blocks share no address of one space. -/
def Apart (b c : Block τ ν) : Prop :=
  b.kind = c.kind → b.start + b.values.length ≤ c.start ∨ c.start + c.values.length ≤ b.start

instance [DecidableEq τ] (b c : Block τ ν) : Decidable (b.Apart c) :=
  inferInstanceAs (Decidable (_ → _))

instance : Std.Symm (Block.Apart : Block τ ν → Block τ ν → Prop) where
  symm _ _ h hk := (h hk.symm).symm

/-- Stores `vs` from address `a` on; out of range it does nothing. -/
def put (b : Block τ ν) (a : ℕ) (vs : List ν) : Block τ ν :=
  if b.Contains a vs.length then { b with values := splice b.values (a - b.start) vs } else b

def load (b : Block τ ν) (a n : ℕ) : List ν := (b.values.drop (a - b.start)).take n

variable (b : Block τ ν) (a : ℕ) (vs : List ν)

@[simp] theorem put_name : (b.put a vs).name = b.name := by unfold put; split_ifs <;> rfl

@[simp] theorem put_kind : (b.put a vs).kind = b.kind := by unfold put; split_ifs <;> rfl

@[simp] theorem put_start : (b.put a vs).start = b.start := by unfold put; split_ifs <;> rfl

@[simp] theorem put_length : (b.put a vs).values.length = b.values.length := by
  unfold put
  split_ifs with h
  · exact length_splice (by have h1 := h.1; have h2 := h.2; omega)
  · rfl

theorem put_eq : b.put a vs = ⟨b.name, b.kind, b.start, (b.put a vs).values⟩ := by
  unfold put
  split_ifs <;> rfl

theorem mem_put {v : ν} (h : v ∈ (b.put a vs).values) : v ∈ b.values ∨ v ∈ vs := by
  unfold put at h
  split_ifs at h
  · exact mem_splice h
  · exact Or.inl h

theorem put_nil : b.put a ([] : List ν) = b := by
  unfold put
  split_ifs
  · rw [splice_nil]
  · rfl

theorem put_of_not_contains {vs : List ν} (h : ¬ b.Contains a vs.length) : b.put a vs = b :=
  if_neg h

/-- Two blocks of one kind that share an address are not apart. -/
theorem eq_nil_of_apart {b c : Block τ ν} {a n : ℕ} (h : b.Apart c) (hk : b.kind = c.kind)
    (hb : b.Contains a n) (hc : c.Contains a n) : n = 0 := by
  have hap := h hk
  have h1 := hb.1
  have h2 := hb.2
  have h3 := hc.1
  have h4 := hc.2
  omega

end Block

@[ext] structure Table (τ ν : Type) where
  blocks : List (Block τ ν)
  nodup : (blocks.map Block.name).Nodup
  apart : blocks.Pairwise Block.Apart

namespace Table

def empty : Table τ ν := ⟨[], List.nodup_nil, List.Pairwise.nil⟩

/-- A block whose name is new and whose addresses are free. -/
def Fits (c : Block τ ν) (t : Table τ ν) : Prop :=
  (∀ b ∈ t.blocks, b.name ≠ c.name) ∧ ∀ b ∈ t.blocks, b.Apart c

instance [DecidableEq τ] (c : Block τ ν) (t : Table τ ν) : Decidable (t.Fits c) :=
  inferInstanceAs (Decidable (_ ∧ _))

def append (c : Block τ ν) (t : Table τ ν) (h : t.Fits c) : Table τ ν :=
  ⟨t.blocks ++ [c],
    by
      rw [List.map_append, List.map_singleton]
      apply List.Nodup.append t.nodup (List.nodup_singleton _)
      simpa [List.disjoint_singleton] using h.1,
    by
      refine List.pairwise_append.2 ⟨t.apart, List.pairwise_singleton _ _, ?_⟩
      intro b hb d hd
      rw [List.mem_singleton.1 hd]
      exact h.2 b hb⟩

/-- Stores into the block called `name`. -/
def put (name : String) (a : ℕ) (vs : List ν) (t : Table τ ν) : Table τ ν :=
  ⟨t.blocks.map fun b => if b.name = name then b.put a vs else b,
    by
      have h : (Block.name ∘ fun b : Block τ ν => if b.name = name then b.put a vs else b) =
          Block.name := by
        funext b
        simp only [Function.comp_apply]
        split_ifs <;> simp
      rw [List.map_map, h]
      exact t.nodup,
    by
      refine List.pairwise_map.2 (t.apart.imp ?_)
      intro b c hbc
      unfold Block.Apart at hbc ⊢
      split_ifs <;> simpa using hbc⟩

def find? (name : String) (t : Table τ ν) : Option (Block τ ν) :=
  t.blocks.find? fun b => b.name = name

def setValues? (name : String) (a : ℕ) (vs : List ν) (t : Table τ ν) : Option (Table τ ν) :=
  match t.find? name with
  | some b => if b.Contains a vs.length then some (t.put name a vs) else none
  | none => none

def getValues? (name : String) (a n : ℕ) (t : Table τ ν) : Option (List ν) :=
  match t.find? name with
  | some b => if b.Contains a n then some (b.load a n) else none
  | none => none

section
variable [DecidableEq τ]

def add? (name : String) (kind : τ) (start n : ℕ) (z : ν) (t : Table τ ν) : Option (Table τ ν) :=
  if h : t.Fits ⟨name, kind, start, List.replicate n z⟩ then some (t.append _ h) else none

/-- The block of one address space that holds a whole range. -/
def owner? (kind : τ) (a n : ℕ) (t : Table τ ν) : Option (Block τ ν) :=
  t.blocks.find? fun b => b.kind = kind ∧ b.Contains a n

def write? (kind : τ) (a : ℕ) (vs : List ν) (t : Table τ ν) : Option (Table τ ν) :=
  (t.owner? kind a vs.length).map fun b => t.put b.name a vs

def read? (kind : τ) (a n : ℕ) (t : Table τ ν) : Option (List ν) :=
  (t.owner? kind a n).map fun b => b.load a n

def cell? (kind : τ) (a : ℕ) (t : Table τ ν) : Option ν := (t.read? kind a 1).bind List.head?

end

/-! ## What every stored value satisfies -/

def All (P : ν → Prop) (t : Table τ ν) : Prop := ∀ b ∈ t.blocks, ∀ v ∈ b.values, P v

instance (P : ν → Prop) [DecidablePred P] (t : Table τ ν) : Decidable (t.All P) :=
  inferInstanceAs (Decidable (∀ b ∈ t.blocks, ∀ v ∈ b.values, P v))

variable {P : ν → Prop} {t t' : Table τ ν}

theorem All.put {name : String} {a : ℕ} {vs : List ν} (h : t.All P) (hv : ∀ v ∈ vs, P v) :
    (t.put name a vs).All P := by
  intro b hb v hm
  obtain ⟨c, hc, rfl⟩ := List.mem_map.1 hb
  split_ifs at hm
  · rcases Block.mem_put c a vs hm with hm | hm
    · exact h c hc v hm
    · exact hv v hm
  · exact h c hc v hm

theorem All.setValues {name : String} {a : ℕ} {vs : List ν} (h : t.All P) (hv : ∀ v ∈ vs, P v)
    (hs : t.setValues? name a vs = some t') : t'.All P := by
  unfold setValues? at hs
  split at hs
  · split_ifs at hs
    exact Option.some.inj hs ▸ h.put hv
  · cases hs

variable {b : Block τ ν} {name : String}

/-! ## Looking blocks up -/

theorem mem_of_find? (h : t.find? name = some b) : b ∈ t.blocks := List.mem_of_find?_eq_some h

theorem name_of_find? (h : t.find? name = some b) : b.name = name := by
  simpa using List.find?_some h

theorem find?_of_mem (hb : b ∈ t.blocks) : t.find? b.name = some b := by
  cases hc : t.find? b.name with
  | none =>
    have hn := List.find?_eq_none.1 hc b hb
    simp at hn
  | some c =>
    have hcb : c = b := List.inj_on_of_nodup_map t.nodup (mem_of_find? hc) hb (name_of_find? hc)
    rw [hcb]

theorem find?_put (name' : String) (a : ℕ) (vs : List ν) (t : Table τ ν) :
    (t.put name a vs).find? name' =
      (t.find? name').map fun b => if b.name = name then b.put a vs else b := by
  have hp : ((fun b : Block τ ν => decide (b.name = name')) ∘
      fun b => if b.name = name then b.put a vs else b) = fun b => decide (b.name = name') := by
    funext b
    simp only [Function.comp_apply]
    split_ifs <;> simp
  unfold find? put
  rw [List.find?_map, hp]

theorem find?_put_self (h : t.find? name = some b) (a : ℕ) (vs : List ν) :
    (t.put name a vs).find? name = some (b.put a vs) := by
  rw [find?_put, h, Option.map_some, if_pos (name_of_find? h)]

theorem find?_put_of_ne {name' : String} (hn : name' ≠ name) (a : ℕ) (vs : List ν)
    (t : Table τ ν) : (t.put name a vs).find? name' = t.find? name' := by
  rw [find?_put]
  cases hb : t.find? name' with
  | none => rfl
  | some b =>
    have hne : b.name ≠ name := by rwa [name_of_find? hb]
    rw [Option.map_some, if_neg hne]

theorem setValues?_of_find? (h : t.find? name = some b) {a : ℕ} {vs : List ν}
    (hc : b.Contains a vs.length) : t.setValues? name a vs = some (t.put name a vs) := by
  unfold setValues?
  rw [h]
  exact if_pos hc

theorem getValues?_of_find? (h : t.find? name = some b) {a n : ℕ} (hc : b.Contains a n) :
    t.getValues? name a n = some (b.load a n) := by
  unfold getValues?
  rw [h]
  exact if_pos hc

theorem find?_setValues_of_ne {name' : String} (hn : name' ≠ name) {a : ℕ} {vs : List ν}
    (hs : t.setValues? name a vs = some t') : t'.find? name' = t.find? name' := by
  unfold setValues? at hs
  split at hs
  · split_ifs at hs
    rw [← Option.some.inj hs, find?_put_of_ne hn]
  · cases hs

theorem find?_append {c : Block τ ν} (h : t.Fits c) (name : String) :
    (t.append c h).find? name = if c.name = name then some c else t.find? name := by
  unfold find? append
  rw [List.find?_append]
  split_ifs with hc
  · have hnone : t.blocks.find? (fun b => b.name = name) = none := by
      refine List.find?_eq_none.2 fun b hb => ?_
      have hne := h.1 b hb
      rw [hc] at hne
      simp [hne]
    simp [hnone, hc]
  · simp [hc]

/-! ## Requests by address -/

variable [DecidableEq τ]

theorem All.write {kind : τ} {a : ℕ} {vs : List ν} (h : t.All P) (hv : ∀ v ∈ vs, P v)
    (hw : t.write? kind a vs = some t') : t'.All P := by
  obtain ⟨b, _, rfl⟩ := Option.map_eq_some_iff.1 hw
  exact h.put hv

theorem owner?_of_mem (hb : b ∈ t.blocks) {a n : ℕ} (hn : n ≠ 0) (hc : b.Contains a n) :
    t.owner? b.kind a n = some b := by
  cases ho : t.owner? b.kind a n with
  | none =>
    have hnone := List.find?_eq_none.1 ho b hb
    simp [hc] at hnone
  | some c =>
    have hcs := List.find?_some ho
    have hkc : c.kind = b.kind ∧ c.Contains a n := by simpa using hcs
    by_contra hne
    have hcb : c ≠ b := fun h => hne (by rw [h])
    have hap : c.Apart b := t.apart.forall (List.mem_of_find?_eq_some ho) hb hcb
    exact hn (Block.eq_nil_of_apart hap hkc.1 hkc.2 hc)

/-- What a write request leaves in a block, whichever block it reaches. -/
theorem find?_write (h : t.find? name = some b) {kind : τ} {a : ℕ} {vs : List ν}
    (hw : t.write? kind a vs = some t') :
    t'.find? name = some (if b.kind = kind then b.put a vs else b) := by
  obtain ⟨c, hc, rfl⟩ := Option.map_eq_some_iff.1 hw
  have hcs := List.find?_some hc
  have hkc : c.kind = kind ∧ c.Contains a vs.length := by simpa using hcs
  have hcm : c ∈ t.blocks := List.mem_of_find?_eq_some hc
  by_cases hn : name = c.name
  · have hbc : c = b := by
      have hf := find?_of_mem hcm
      rw [← hn, h] at hf
      exact (Option.some.inj hf).symm
    subst hbc
    rw [← hn, find?_put_self h, if_pos hkc.1]
  · rw [find?_put_of_ne hn, h]
    split_ifs with hk
    · -- only an empty request lies in two blocks of one kind
      by_cases hv : vs.length = 0
      · rw [List.eq_nil_of_length_eq_zero hv, Block.put_nil]
      · have hnot : ¬ b.Contains a vs.length := by
          intro hb
          have ho := owner?_of_mem (mem_of_find? h) hv hb
          rw [hk, hc] at ho
          rw [Option.some.inj ho] at hn
          exact hn (name_of_find? h).symm
        rw [Block.put_of_not_contains b a hnot]
    · rfl

/-- An accepted write request stores into every block of its kind that has room for it. -/
theorem blocks_write {kind : τ} {a : ℕ} {vs : List ν} (hw : t.write? kind a vs = some t') :
    t'.blocks = t.blocks.map fun b => if b.kind = kind then b.put a vs else b := by
  obtain ⟨c, _, ht⟩ := Option.map_eq_some_iff.1 hw
  have hblocks : t'.blocks = t.blocks.map fun b => if b.name = c.name then b.put a vs else b := by
    rw [← ht]
    rfl
  rw [hblocks]
  apply List.map_congr_left
  intro b hb
  have hname : (if b.name = c.name then b.put a vs else b).name = b.name := by
    split_ifs <;> simp
  have hmem : (if b.name = c.name then b.put a vs else b) ∈ t'.blocks := by
    rw [hblocks]
    exact List.mem_map_of_mem hb
  have hfind := find?_of_mem hmem
  rw [hname, find?_write (find?_of_mem hb) hw] at hfind
  exact (Option.some.inj hfind).symm

/-- A rejected write request would have changed no block either. -/
theorem put_of_write?_eq_none (h : t.find? name = some b) {a : ℕ} {vs : List ν}
    (hw : t.write? b.kind a vs = none) : b.put a vs = b := by
  apply Block.put_of_not_contains b a
  intro hc
  have hnone := List.find?_eq_none.1 (Option.map_eq_none_iff.1 hw) b (mem_of_find? h)
  simp [hc] at hnone

theorem read?_of_find? (h : t.find? name = some b) {a n : ℕ} (hn : n ≠ 0) (hc : b.Contains a n) :
    t.read? b.kind a n = some (b.load a n) := by
  unfold read?
  rw [owner?_of_mem (mem_of_find? h) hn hc, Option.map_some]

theorem cell?_of_find? (h : t.find? name = some b) {a : ℕ} (hc : b.Contains a 1) :
    t.cell? b.kind a = b.values[a - b.start]? := by
  unfold cell?
  rw [read?_of_find? h Nat.one_ne_zero hc, Option.bind_some, Block.load, List.head?_take,
    if_neg Nat.one_ne_zero, List.head?_drop]

end Table
end BlockTable
