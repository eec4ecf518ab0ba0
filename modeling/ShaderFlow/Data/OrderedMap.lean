/-
Module: ShaderFlow.Data.OrderedMap
Purpose: Finite maps that remember the order in which their keys first came.
Main exports: OrderedMap, OrderedMap.insert, OrderedMap.get?, OrderedMap.mapValues
-/

namespace ShaderFlow

universe u v w x

/-!
Every list shown to a reader (varyings, texture inputs, render targets) follows the order of first
declaration: writing to a present key replaces its value and keeps its place.  That no key occurs
twice is part of the type.
-/

/-- A finite map with its keys in the order of first insertion. -/
structure OrderedMap (κ : Type u) (ν : Type v) where
  entries : List (κ × ν)
  distinct : (entries.map Prod.fst).Nodup
deriving DecidableEq, Repr

namespace OrderedMap

variable {κ : Type u} {ν : Type v}

/-- The map without entries. -/
def empty : OrderedMap κ ν := ⟨[], .nil⟩

instance : Inhabited (OrderedMap κ ν) := ⟨empty⟩

/-- Keys in order. -/
def keys (map : OrderedMap κ ν) : List κ := map.entries.map Prod.fst

/-- Values in the order of their keys. -/
def values (map : OrderedMap κ ν) : List ν := map.entries.map Prod.snd

/-- Number of entries. -/
def size (map : OrderedMap κ ν) : Nat := map.entries.length

/-- Write an entry into a list of entries: in place if the key is there, at the end otherwise. -/
def insertEntry [DecidableEq κ] (key : κ) (value : ν) : List (κ × ν) → List (κ × ν)
  | [] => [(key, value)]
  | entry :: rest =>
      if entry.1 = key then (key, value) :: rest else entry :: insertEntry key value rest

theorem keys_insertEntry [DecidableEq κ] (key : κ) (value : ν) (entries : List (κ × ν)) :
    (insertEntry key value entries).map Prod.fst =
      if key ∈ entries.map Prod.fst then entries.map Prod.fst
      else entries.map Prod.fst ++ [key] := by
  induction entries with
  | nil => simp [insertEntry]
  | cons entry rest ih =>
    by_cases same : entry.1 = key
    · simp [insertEntry, same]
    · have other : ¬ key = entry.1 := fun h => same h.symm
      by_cases later : key ∈ rest.map Prod.fst
      · simp only [insertEntry, same, if_false, List.map_cons, ih, later, if_true,
          List.mem_cons, or_true]
      · simp only [insertEntry, same, if_false, List.map_cons, ih, later, List.mem_cons, other,
          or_false, List.cons_append]

theorem nodup_insertEntry [DecidableEq κ] (key : κ) (value : ν) {entries : List (κ × ν)}
    (distinct : (entries.map Prod.fst).Nodup) :
    ((insertEntry key value entries).map Prod.fst).Nodup := by
  rw [keys_insertEntry]
  split
  · exact distinct
  · next absent =>
    rw [List.nodup_append]
    refine ⟨distinct, by simp, ?_⟩
    intro a ha b hb same
    simp only [List.mem_singleton] at hb
    exact absent (hb ▸ same ▸ ha)

/-- Write a value under a key: in place if the key is present, at the end otherwise. -/
def insert [DecidableEq κ] (map : OrderedMap κ ν) (key : κ) (value : ν) : OrderedMap κ ν :=
  ⟨insertEntry key value map.entries, nodup_insertEntry key value map.distinct⟩

/-- Value under a key. -/
def get? [DecidableEq κ] (map : OrderedMap κ ν) (key : κ) : Option ν :=
  (map.entries.find? (·.1 = key)).map Prod.snd

/-- Whether a key is present. -/
def contains [DecidableEq κ] (map : OrderedMap κ ν) (key : κ) : Bool := (map.get? key).isSome

/-- Replace every value in place. -/
def mapValues {ω : Type w} (map : OrderedMap κ ν) (f : κ → ν → ω) : OrderedMap κ ω :=
  ⟨map.entries.map fun entry => (entry.1, f entry.1 entry.2), by
    simpa [List.map_map, Function.comp_def] using map.distinct⟩

/-- Entries given one after another; a later value for a key replaces the earlier one. -/
def ofList [DecidableEq κ] (entries : List (κ × ν)) : OrderedMap κ ν :=
  entries.foldl (fun map entry => map.insert entry.1 entry.2) empty

/-! ### Views -/

@[simp] theorem get?_empty [DecidableEq κ] (key : κ) :
    (empty : OrderedMap κ ν).get? key = none := rfl

theorem keys_insert [DecidableEq κ] (map : OrderedMap κ ν) (key : κ) (value : ν) :
    (map.insert key value).keys =
      if key ∈ map.keys then map.keys else map.keys ++ [key] :=
  keys_insertEntry key value map.entries

@[simp] theorem keys_mapValues {ω : Type w} (map : OrderedMap κ ν) (f : κ → ν → ω) :
    (map.mapValues f).keys = map.keys := by
  simp [keys, mapValues, List.map_map, Function.comp_def]

theorem find?_insertEntry [DecidableEq κ] (key other : κ) (value : ν) (entries : List (κ × ν)) :
    ((insertEntry key value entries).find? (·.1 = other)).map Prod.snd =
      if key = other then some value else (entries.find? (·.1 = other)).map Prod.snd := by
  induction entries with
  | nil => by_cases same : key = other <;> simp [insertEntry, same]
  | cons entry rest ih =>
    by_cases here : entry.1 = key
    · by_cases same : key = other
      · simp [insertEntry, here, same]
      · simp [insertEntry, here, same]
    · by_cases same : entry.1 = other
      · have unlike : ¬ key = other := fun h => here (same.trans h.symm)
        simp only [insertEntry, here, if_false]
        simp [same, unlike]
      · simpa [insertEntry, here, same] using ih

/-- Reading after a write: the written value under its key, the old value elsewhere. -/
theorem get?_insert [DecidableEq κ] (map : OrderedMap κ ν) (key other : κ) (value : ν) :
    (map.insert key value).get? other = if key = other then some value else map.get? other :=
  find?_insertEntry key other value map.entries

theorem get?_eq_some_iff [DecidableEq κ] {map : OrderedMap κ ν} {key : κ} {value : ν} :
    map.get? key = some value ↔ (key, value) ∈ map.entries := by
  obtain ⟨entries, distinct⟩ := map
  induction entries with
  | nil => simp [get?]
  | cons entry rest ih =>
    obtain ⟨absent, distinctRest⟩ := List.nodup_cons.mp distinct
    by_cases same : entry.1 = key
    · subst same
      have later : (entry.1, value) ∉ rest := fun member =>
        absent (List.mem_map.mpr ⟨_, member, rfl⟩)
      simp [get?, later, Prod.ext_iff, eq_comm]
    · have unlike : (key, value) ≠ entry := fun equal => same (equal ▸ rfl)
      simpa [get?, same, unlike] using ih distinctRest

theorem contains_iff [DecidableEq κ] {map : OrderedMap κ ν} {key : κ} :
    map.contains key = true ↔ key ∈ map.keys := by
  rw [contains, Option.isSome_iff_exists, keys, List.mem_map]
  constructor
  · rintro ⟨value, held⟩
    exact ⟨_, get?_eq_some_iff.mp held, rfl⟩
  · rintro ⟨⟨_, value⟩, member, rfl⟩
    exact ⟨value, get?_eq_some_iff.mpr member⟩

/-- A value under a new key stands at the end. -/
theorem entries_insert_of_absent [DecidableEq κ] {map : OrderedMap κ ν} {key : κ} (value : ν)
    (absent : key ∉ map.keys) : (map.insert key value).entries = map.entries ++ [(key, value)] := by
  obtain ⟨entries, distinct⟩ := map
  induction entries with
  | nil => rfl
  | cons entry rest ih =>
    rw [keys, List.map_cons, List.mem_cons, not_or] at absent
    have later := ih (List.nodup_cons.mp distinct).2 absent.2
    simpa [insert, insertEntry, Ne.symm absent.1] using later

theorem get?_mapValues {ω : Type w} [DecidableEq κ] (map : OrderedMap κ ν) (f : κ → ν → ω)
    (key : κ) : (map.mapValues f).get? key = (map.get? key).map (f key) := by
  have found (entries : List (κ × ν)) :
      ((entries.map fun entry => (entry.1, f entry.1 entry.2)).find? (·.1 = key)).map Prod.snd =
        ((entries.find? (·.1 = key)).map Prod.snd).map (f key) := by
    induction entries with
    | nil => rfl
    | cons entry rest ih =>
      by_cases same : entry.1 = key
      · simp [same]
      · simpa [same] using ih
  exact found map.entries

/-- Writing the value that is there changes nothing. -/
theorem insert_of_get? [DecidableEq κ] {map : OrderedMap κ ν} {key : κ} {value : ν}
    (held : map.get? key = some value) : map.insert key value = map := by
  obtain ⟨entries, distinct⟩ := map
  have member : (key, value) ∈ entries := get?_eq_some_iff.mp held
  have same : insertEntry key value entries = entries := by
    clear held
    induction entries with
    | nil => cases member
    | cons entry rest ih =>
      obtain ⟨absent, others⟩ := List.nodup_cons.mp distinct
      rcases List.mem_cons.mp member with rfl | later
      · simp [insertEntry]
      · have unlike : entry.1 ≠ key := by
          rintro rfl
          exact absent (List.mem_map.mpr ⟨_, later, rfl⟩)
        simp [insertEntry, unlike, ih others later]
  simp [insert, same]

theorem mapValues_mapValues {ω : Type w} {ξ : Type x} (map : OrderedMap κ ν) (f : κ → ν → ω)
    (g : κ → ω → ξ) :
    (map.mapValues f).mapValues g = map.mapValues fun key value => g key (f key value) := by
  simp [mapValues, List.map_map, Function.comp_def]

end OrderedMap

end ShaderFlow
