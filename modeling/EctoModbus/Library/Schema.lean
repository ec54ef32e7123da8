import EctoModbus.Library.PyM
import Mathlib.Data.List.Forall2

/-! Validation of configuration values. The library that validates, `voluptuous`, is a parameter: it
has schemas, and makes something of a value that a schema accepts. What it takes back as it is, and
which keys are then there, follows from its documented behaviour. -/

namespace Schema
open Python

/-- A value of a configuration file; the keys of its mappings are texts. -/
inductive Yaml where
  | null
  | bool (b : Bool)
  | int (i : ℤ)
  | float (x : PyFloat)
  | str (s : String)
  | list (l : List Yaml)
  | dict (data : List (String × Yaml))

/-- A key of a mapping, which may be required or have a default, and the schema of its value. -/
structure Entry (S : Type) where
  key : String
  required : Bool
  default : Option Yaml
  schema : S

/-- What `voluptuous` has schemas for. `mapping` is told whether keys without an entry are kept. -/
structure Voluptuous (S : Type) where
  validate : S → Yaml → Option Yaml
  str : S
  literal : String → S
  isIn : List String → S
  range : ℤ → ℤ → S
  all : S → S → S
  any : S → S → S
  listOf : S → S
  mapping : Bool → List (Entry S) → S

/-! ## Mappings -/

def hasKey (data : List (String × Yaml)) (key : String) : Bool := (data.lookup key).isSome

theorem hasKey_iff {data : List (String × Yaml)} {key : String} :
    hasKey data key = true ↔ key ∈ data.map Prod.fst := by
  unfold hasKey
  induction data with
  | nil => simp
  | cons kv data ih =>
    rw [List.lookup_cons, List.map_cons, List.mem_cons, ← ih]
    by_cases h : key = kv.1
    · simp only [h, beq_self_eq_true, Option.isSome_some, true_or]
    · simp only [beq_false_of_ne h, h, false_or]

theorem hasKey_congr {data data' : List (String × Yaml)}
    (h : data'.map Prod.fst = data.map Prod.fst) (key : String) :
    hasKey data' key = hasKey data key := by
  rw [Bool.eq_iff_iff, hasKey_iff, hasKey_iff, h]

section
variable {S : Type}

def missing (entries : List (Entry S)) (data : List (String × Yaml)) : List (String × Yaml) :=
  entries.filterMap fun e => if hasKey data e.key then none else e.default.map (e.key, ·)

/-- Keys that are missing have got their defaults, in whatever order. -/
def Completed (entries : List (Entry S)) (data data₁ : List (String × Yaml)) : Prop :=
  ∃ defaults, defaults.Perm (missing entries data) ∧ data₁ = data ++ defaults

def Complete (entries : List (Entry S)) (data : List (String × Yaml)) : Prop :=
  ∀ e ∈ entries, e.required ∨ e.default.isSome → hasKey data e.key

/-- A key stays, and its value becomes what its entry makes of it. -/
def Field (vol : Voluptuous S) (extra : Bool) (entries : List (Entry S)) (kv kv' : String × Yaml) :
    Prop :=
  kv'.1 = kv.1 ∧
    match entries.find? (·.key = kv.1) with
    | some e => vol.validate e.schema kv.2 = some kv'.2
    | none => extra = true ∧ kv' = kv

variable {vol : Voluptuous S} {extra : Bool} {entries : List (Entry S)}
  {data data₁ data' : List (String × Yaml)}

theorem missing_eq_nil (h : ∀ e ∈ entries, e.default.isSome → hasKey data e.key) :
    missing entries data = [] := by
  apply List.filterMap_eq_nil_iff.2
  intro e he
  split_ifs with hk
  · rfl
  · cases hd : e.default with
    | none => rfl
    | some v => exact absurd (h e he (by rw [hd]; rfl)) hk

theorem completed_iff (h : ∀ e ∈ entries, e.default.isSome → hasKey data e.key) :
    Completed entries data data₁ ↔ data₁ = data := by
  unfold Completed
  rw [missing_eq_nil h]
  constructor
  · rintro ⟨defaults, hperm, rfl⟩
    rw [hperm.eq_nil, List.append_nil]
  · rintro rfl
    exact ⟨[], .nil, (List.append_nil _).symm⟩

theorem Completed.hasKey (h : Completed entries data data₁) {e : Entry S} (he : e ∈ entries)
    (hd : e.default.isSome) : hasKey data₁ e.key := by
  obtain ⟨defaults, hperm, rfl⟩ := h
  rw [hasKey_iff, List.map_append, List.mem_append]
  by_cases hk : Schema.hasKey data e.key
  · exact Or.inl (hasKey_iff.1 hk)
  · obtain ⟨v, hv⟩ := Option.isSome_iff_exists.1 hd
    have hmem : (e.key, v) ∈ missing entries data := by
      refine List.mem_filterMap.2 ⟨e, he, ?_⟩
      rw [if_neg hk, hv]
      rfl
    exact Or.inr (List.mem_map.2 ⟨(e.key, v), hperm.mem_iff.2 hmem, rfl⟩)

theorem Field.eq {kv kv' kv'' : String × Yaml} (h : Field vol extra entries kv kv')
    (h' : Field vol extra entries kv kv'') : kv'' = kv' := by
  apply Prod.ext (h'.1.trans h.1.symm)
  have hv := h.2
  have hv' := h'.2
  cases hfind : entries.find? (·.key = kv.1) with
  | some e =>
    rw [hfind] at hv hv'
    exact Option.some.inj (hv'.symm.trans hv)
  | none =>
    rw [hfind] at hv hv'
    rw [hv.2, hv'.2]

theorem eq_of_fields (hself : ∀ kv ∈ data, Field vol extra entries kv kv)
    (h : List.Forall₂ (Field vol extra entries) data data') : data' = data := by
  induction h with
  | nil => rfl
  | cons hkv _ ih =>
    obtain ⟨hkv', hrest⟩ := List.forall_mem_cons.1 hself
    exact congrArg₂ List.cons (hkv'.eq hkv) (ih hrest)

theorem map_fst_of_fields (h : List.Forall₂ (Field vol extra entries) data data') :
    data'.map Prod.fst = data.map Prod.fst := by
  induction h with
  | nil => rfl
  | cons hkv _ ih => exact congrArg₂ List.cons hkv.1 ih

theorem lookup_of_fields (h : List.Forall₂ (Field vol extra entries) data data') {key : String}
    {w : Yaml} (hw : data'.lookup key = some w) :
    ∃ v, data.lookup key = some v ∧ Field vol extra entries (key, v) (key, w) := by
  induction h with
  | nil => cases hw
  | @cons kv kv' _ _ hkv _ ih =>
    rw [List.lookup_cons] at hw ⊢
    rw [← hkv.1]
    by_cases hk : key = kv'.1
    · subst hk
      simp only [beq_self_eq_true, Option.some.injEq] at hw ⊢
      subst hw
      have hkey : (kv'.1, kv.2) = kv := Prod.ext hkv.1 rfl
      refine ⟨kv.2, rfl, ?_⟩
      rw [hkey]
      exact hkv
    · simp only [beq_false_of_ne hk] at hw ⊢
      exact ih hw

end

/-! ## The laws -/

/-- How `voluptuous` validates. Types and literals return what they accept, `Range` is for numbers,
`All` passes a value on from one schema to the next, and `Any` returns what the first schema that
accepts makes of it. A mapping gets its defaults before its values are validated. -/
structure Voluptuous.Lawful {S : Type} (vol : Voluptuous S) : Prop where
  str : ∀ v w, vol.validate vol.str v = some w ↔ (∃ s, v = .str s) ∧ w = v
  literal : ∀ t v w, vol.validate (vol.literal t) v = some w ↔ v = .str t ∧ w = v
  isIn : ∀ names v w,
    vol.validate (vol.isIn names) v = some w ↔ (∃ s ∈ names, v = .str s) ∧ w = v
  range : ∀ min max i w,
    vol.validate (vol.range min max) (.int i) = some w ↔ (min ≤ i ∧ i ≤ max) ∧ w = .int i
  all : ∀ f g v, vol.validate (vol.all f g) v = (vol.validate f v).bind (vol.validate g)
  any : ∀ f g v, vol.validate (vol.any f g) v = (vol.validate f v).or (vol.validate g v)
  listOf : ∀ f l w, vol.validate (vol.listOf f) (.list l) = some w ↔
    ∃ l', w = .list l' ∧ List.Forall₂ (fun v w => vol.validate f v = some w) l l'
  mapping_ok : ∀ extra entries v w, vol.validate (vol.mapping extra entries) v = some w →
    ∃ data data₁ data', v = .dict data ∧ w = .dict data' ∧ Completed entries data data₁ ∧
      (∀ e ∈ entries, e.required → hasKey data₁ e.key) ∧
      List.Forall₂ (Field vol extra entries) data₁ data'
  mapping_isSome : ∀ extra entries data data₁ data', Completed entries data data₁ →
    (∀ e ∈ entries, e.required → hasKey data₁ e.key) →
    List.Forall₂ (Field vol extra entries) data₁ data' →
    (vol.validate (vol.mapping extra entries) (.dict data)).isSome

section
variable {S : Type} {vol : Voluptuous S} (hvol : vol.Lawful)

/-- What has been validated is accepted, and stays as it is. -/
def Idempotent (vol : Voluptuous S) (f : S) : Prop :=
  ∀ v w, vol.validate f v = some w → vol.validate f w = some w

theorem forall_mem_right {α β : Type} {R : α → β → Prop} {P : β → Prop}
    (h : ∀ a b, R a b → P b) {l : List α} {l' : List β} (hl : List.Forall₂ R l l') :
    ∀ b ∈ l', P b := by
  induction hl with
  | nil => exact fun b hb => absurd hb List.not_mem_nil
  | cons hr _ ih => exact List.forall_mem_cons.2 ⟨h _ _ hr, ih⟩

include hvol

theorem idempotent_str : Idempotent vol vol.str := by
  intro v w h
  obtain ⟨hs, rfl⟩ := (hvol.str v w).1 h
  exact h

theorem idempotent_literal (t : String) : Idempotent vol (vol.literal t) := by
  intro v w h
  obtain ⟨hs, rfl⟩ := (hvol.literal t v w).1 h
  exact h

theorem idempotent_isIn (names : List String) : Idempotent vol (vol.isIn names) := by
  intro v w h
  obtain ⟨hs, rfl⟩ := (hvol.isIn names v w).1 h
  exact h

theorem all_eq_some {f g : S} {v w : Yaml} : vol.validate (vol.all f g) v = some w ↔
    ∃ x, vol.validate f v = some x ∧ vol.validate g x = some w := by
  rw [hvol.all, Option.bind_eq_some_iff]

theorem any_eq_some {f g : S} {v w : Yaml} : vol.validate (vol.any f g) v = some w ↔
    vol.validate f v = some w ∨ (vol.validate f v = none ∧ vol.validate g v = some w) := by
  rw [hvol.any]
  cases vol.validate f v <;> simp

/-- The first alternative must not take what the second returns. -/
theorem Idempotent.any {f g : S} (hf : Idempotent vol f) (hg : Idempotent vol g)
    (hfg : ∀ v w, vol.validate g v = some w → vol.validate f w = none) :
    Idempotent vol (vol.any f g) := by
  intro v w h
  rcases (any_eq_some hvol).1 h with h | ⟨_, h⟩
  · exact (any_eq_some hvol).2 (Or.inl (hf v w h))
  · exact (any_eq_some hvol).2 (Or.inr ⟨hfg v w h, hg v w h⟩)

theorem Idempotent.listOf {f : S} (hf : Idempotent vol f) {l l' : List Yaml}
    (h : vol.validate (vol.listOf f) (.list l) = some (.list l')) :
    vol.validate (vol.listOf f) (.list l') = some (.list l') := by
  obtain ⟨_, hl, hall⟩ := (hvol.listOf f l _).1 h
  cases hl
  exact (hvol.listOf f l' _).2 ⟨l', rfl, List.forall₂_same.2 (forall_mem_right hf hall)⟩

/-- A mapping with all its keys, each with a value that its entry takes as it is. -/
theorem mapping_self {extra : Bool} {entries : List (Entry S)} {data : List (String × Yaml)}
    (hkeys : Complete entries data) (hfields : ∀ kv ∈ data, Field vol extra entries kv kv) :
    vol.validate (vol.mapping extra entries) (.dict data) = some (.dict data) := by
  have hdefaults : ∀ e ∈ entries, e.default.isSome → hasKey data e.key :=
    fun e he hd => hkeys e he (Or.inr hd)
  have hsame := List.forall₂_same.2 hfields
  obtain ⟨w, hw⟩ := Option.isSome_iff_exists.1 (hvol.mapping_isSome extra entries data data data
    ((completed_iff hdefaults).2 rfl) (fun e he hr => hkeys e he (Or.inl hr)) hsame)
  obtain ⟨_, data₁, data', hd, rfl, hcompleted, _, hall⟩ := hvol.mapping_ok _ _ _ _ hw
  cases hd
  obtain rfl := (completed_iff hdefaults).1 hcompleted
  rw [hw, eq_of_fields hfields hall]

theorem idempotent_mapping (extra : Bool) {entries : List (Entry S)}
    (he : ∀ e ∈ entries, Idempotent vol e.schema) :
    Idempotent vol (vol.mapping extra entries) := by
  intro v w h
  obtain ⟨data, data₁, data', rfl, rfl, hcompleted, hreq, hall⟩ := hvol.mapping_ok _ _ _ _ h
  have hkeys := hasKey_congr (map_fst_of_fields hall)
  refine mapping_self hvol (fun e hm hk => ?_) (forall_mem_right (fun kv kv' hkv => ?_) hall)
  · rw [hkeys]
    exact hk.elim (hreq e hm) (hcompleted.hasKey hm)
  · refine ⟨rfl, ?_⟩
    have hfield := hkv.2
    rw [hkv.1]
    cases hfind : entries.find? (·.key = kv.1) with
    | some e =>
      rw [hfind] at hfield
      exact he e (List.mem_of_find?_eq_some hfind) _ _ hfield
    | none =>
      rw [hfind] at hfield
      exact ⟨hfield.1, rfl⟩

/-! ## What an accepted mapping has -/

/-- A key whose entry is required or has a default is there, with what its entry accepts. -/
theorem lookup_of_mapping {extra : Bool} {entries : List (Entry S)}
    {data data' : List (String × Yaml)}
    (h : vol.validate (vol.mapping extra entries) (.dict data) = some (.dict data')) {e : Entry S}
    (hfind : entries.find? (·.key = e.key) = some e) (he : e.required ∨ e.default.isSome) :
    ∃ data₁ v w, Completed entries data data₁ ∧ data₁.lookup e.key = some v ∧
      vol.validate e.schema v = some w ∧ data'.lookup e.key = some w := by
  obtain ⟨_, data₁, _, hd, hd', hcompleted, hreq, hall⟩ := hvol.mapping_ok _ _ _ _ h
  cases hd
  cases hd'
  have hm := List.mem_of_find?_eq_some hfind
  have hkey : hasKey data' e.key := by
    rw [hasKey_congr (map_fst_of_fields hall)]
    exact he.elim (hreq e hm) (hcompleted.hasKey hm)
  obtain ⟨w, hw⟩ := Option.isSome_iff_exists.1 hkey
  obtain ⟨v, hv, hfield⟩ := lookup_of_fields hall hw
  have hcheck := hfield.2
  rw [hfind] at hcheck
  exact ⟨data₁, v, w, hcompleted, hv, hcheck, hw⟩

/-- Of every key that is there, either there is an entry, which has accepted its value, or extra
keys are kept. -/
theorem find_of_mapping {extra : Bool} {entries : List (Entry S)}
    {data data' : List (String × Yaml)}
    (h : vol.validate (vol.mapping extra entries) (.dict data) = some (.dict data')) {key : String}
    {w : Yaml} (hw : data'.lookup key = some w) :
    (∃ e ∈ entries, e.key = key ∧ ∃ v, vol.validate e.schema v = some w) ∨ extra = true := by
  obtain ⟨_, data₁, _, hd, hd', _, _, hall⟩ := hvol.mapping_ok _ _ _ _ h
  cases hd
  cases hd'
  obtain ⟨v, _, hfield⟩ := lookup_of_fields hall hw
  have hcheck := hfield.2
  cases hfind : entries.find? (·.key = key) with
  | some e =>
    rw [hfind] at hcheck
    exact Or.inl ⟨e, List.mem_of_find?_eq_some hfind, by simpa using List.find?_some hfind,
      v, hcheck⟩
  | none =>
    rw [hfind] at hcheck
    exact Or.inr hcheck.1

end

/-! ## Schemas as functions -/

theorem exists_forall₂ {α β : Type} {R : α → β → Prop} {l : List α} (h : ∀ a ∈ l, ∃ b, R a b) :
    ∃ u, List.Forall₂ R l u := by
  induction l with
  | nil => exact ⟨[], .nil⟩
  | cons a l ih =>
    obtain ⟨b, hab⟩ := h a List.mem_cons_self
    obtain ⟨u, hu⟩ := ih fun a' ha' => h a' (List.mem_cons_of_mem a ha')
    exact ⟨b :: u, .cons hab hu⟩

theorem mapM_eq_some {α β : Type} {f : α → Option β} {l : List α} {l' : List β} :
    l.mapM f = some l' ↔ List.Forall₂ (fun a b => f a = some b) l l' := by
  induction l generalizing l' with
  | nil =>
    rw [List.mapM_nil, List.forall₂_nil_left_iff]
    exact ⟨fun h => (Option.some.inj h).symm, fun h => congrArg some h.symm⟩
  | cons a l ih =>
    rw [List.mapM_cons, List.forall₂_cons_left_iff]
    cases hf : f a with
    | none => simp
    | some b =>
      cases hl : l.mapM f with
      | none =>
        have hnone : ∀ u, ¬ List.Forall₂ (fun a b => f a = some b) l u := by
          intro u hu
          rw [ih.2 hu] at hl
          cases hl
        simp [hnone]
      | some u =>
        have hu : ∀ u', List.Forall₂ (fun a b => f a = some b) l u' ↔ u = u' := by
          intro u'
          rw [← ih, hl, Option.some.injEq]
        simp [hu, eq_comm]

abbrev Validator := Yaml → Option Yaml

namespace Validator

def field (extra : Bool) (entries : List (Entry Validator)) (kv : String × Yaml) :
    Option (String × Yaml) :=
  match entries.find? (·.key = kv.1) with
  | some e => (e.schema kv.2).map (kv.1, ·)
  | none => if extra then some kv else none

def fields (extra : Bool) (entries : List (Entry Validator)) (data : List (String × Yaml)) :
    Option (List (String × Yaml)) :=
  let data₁ := data ++ missing entries data
  if ∀ e ∈ entries, e.required → hasKey data₁ e.key then data₁.mapM (field extra entries) else none

/-- A library that has the laws. Numbers that are not integers it never finds in a range. -/
def voluptuous : Voluptuous Validator where
  validate f := f
  str
    | .str s => some (.str s)
    | _ => none
  literal t
    | .str s => if s = t then some (.str s) else none
    | _ => none
  isIn names
    | .str s => if s ∈ names then some (.str s) else none
    | _ => none
  range min max
    | .int i => if min ≤ i ∧ i ≤ max then some (.int i) else none
    | _ => none
  all f g v := (f v).bind g
  any f g v := (f v).or (g v)
  listOf f
    | .list l => (l.mapM f).map .list
    | _ => none
  mapping extra entries
    | .dict data => (fields extra entries data).map .dict
    | _ => none

theorem field_eq_some {extra : Bool} {entries : List (Entry Validator)} {kv kv' : String × Yaml} :
    field extra entries kv = some kv' ↔ Field voluptuous extra entries kv kv' := by
  unfold field Field
  cases entries.find? (·.key = kv.1) with
  | some e =>
    rw [Option.map_eq_some_iff]
    constructor
    · rintro ⟨v, hv, rfl⟩
      exact ⟨rfl, hv⟩
    · rintro ⟨hk, hv⟩
      exact ⟨kv'.2, hv, Prod.ext hk.symm rfl⟩
  | none =>
    dsimp only
    split_ifs with h
    · rw [Option.some.injEq]
      exact ⟨fun hkv => ⟨congrArg Prod.fst hkv.symm, h, hkv.symm⟩, fun hkv => hkv.2.2.symm⟩
    · simp [h]

theorem fields_eq_some {extra : Bool} {entries : List (Entry Validator)}
    {data data' : List (String × Yaml)} : fields extra entries data = some data' ↔
      (∀ e ∈ entries, e.required → hasKey (data ++ missing entries data) e.key) ∧
        List.Forall₂ (Field voluptuous extra entries) (data ++ missing entries data) data' := by
  unfold fields
  dsimp only
  have hfield : (fun kv kv' => field extra entries kv = some kv') =
      Field voluptuous extra entries := by
    funext kv kv'
    exact propext field_eq_some
  split_ifs with h
  · rw [mapM_eq_some, hfield, and_iff_right h]
  · simp [h]

theorem voluptuous_lawful : voluptuous.Lawful where
  str v w := by
    cases v <;> simp [voluptuous, eq_comm]
  literal t v w := by
    cases v <;> simp [voluptuous, eq_comm]
  isIn names v w := by
    cases v <;> simp [voluptuous, eq_comm]
  range min max i w := by
    simp [voluptuous, eq_comm]
  all _ _ _ := rfl
  any _ _ _ := rfl
  listOf f l w := by
    show (l.mapM f).map Yaml.list = some w ↔ _
    rw [Option.map_eq_some_iff]
    constructor
    · rintro ⟨l', hl, rfl⟩
      exact ⟨l', rfl, mapM_eq_some.1 hl⟩
    · rintro ⟨l', rfl, hl⟩
      exact ⟨l', mapM_eq_some.2 hl, rfl⟩
  mapping_ok extra entries v w h := by
    cases v with
    | dict data =>
      obtain ⟨data', hf, rfl⟩ := Option.map_eq_some_iff.1 h
      obtain ⟨hreq, hall⟩ := fields_eq_some.1 hf
      exact ⟨data, _, data', rfl, rfl, ⟨_, .refl _, rfl⟩, hreq, hall⟩
    | _ => cases h
  mapping_isSome extra entries data data₁ data' hc hreq hall := by
    obtain ⟨defaults, hperm, rfl⟩ := hc
    have hperm' : (data ++ defaults).Perm (data ++ missing entries data) := hperm.append_left data
    obtain ⟨data'', hall'⟩ : ∃ data'', List.Forall₂ (Field voluptuous extra entries)
        (data ++ missing entries data) data'' := by
      apply exists_forall₂
      intro kv hkv
      obtain ⟨kv', _, hfield⟩ := PyM.exists_left_of_mem hall.flip (hperm'.mem_iff.2 hkv)
      exact ⟨kv', hfield⟩
    have hf := fields_eq_some.2 ⟨fun e he hr => ?_, hall'⟩
    · show ((fields extra entries data).map Yaml.dict).isSome
      rw [hf]
      rfl
    · rw [hasKey_iff, ← (hperm'.map Prod.fst).mem_iff, ← hasKey_iff]
      exact hreq e he hr

end Validator
end Schema
