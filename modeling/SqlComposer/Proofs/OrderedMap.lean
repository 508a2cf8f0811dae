import SqlComposer.OrderedMap
import Mathlib.Data.List.Nodup

/-!
Keys and values of ordered maps after a write. Every write keeps the keys distinct, so that an
entry of the list is what a lookup of its key finds.
-/
namespace SqlComposer.OrderedMap

variable {κ ν : Type} [DecidableEq κ]

theorem mem_keys_iff_find? (map : OrderedMap κ ν) (key : κ) :
    key ∈ map.keys ↔ ∃ value, map.find? key = some value := by
  obtain ⟨entries⟩ := map
  simp only [keys, find?]
  induction entries with
  | nil => simp
  | cons entry rest ih =>
      by_cases same : entry.1 = key
      · simp [same]
      · rw [List.map_cons, List.mem_cons, ih, List.find?_cons_of_neg (by simpa using same)]
        simp [Ne.symm same]

theorem find?_eq_none_iff (map : OrderedMap κ ν) (key : κ) :
    map.find? key = none ↔ key ∉ map.keys := by
  rw [mem_keys_iff_find?]
  cases map.find? key <;> simp

theorem contains_iff_mem_keys (map : OrderedMap κ ν) (key : κ) :
    map.contains key = true ↔ key ∈ map.keys := by
  simp [contains, keys]

omit [DecidableEq κ] in
theorem size_eq_length_keys (map : OrderedMap κ ν) : map.size = map.keys.length := by
  simp [size, keys]

theorem find?_eq_some_of_mem {map : OrderedMap κ ν} {key : κ} {value : ν}
    (distinct : map.keys.Nodup) (member : (key, value) ∈ map.entries) :
    map.find? key = some value := by
  obtain ⟨entries⟩ := map
  simp only [keys, find?] at *
  induction entries with
  | nil => cases member
  | cons entry rest ih =>
      rw [List.map_cons, List.nodup_cons] at distinct
      rcases List.mem_cons.mp member with rfl | later
      · simp
      · have different : entry.1 ≠ key := by
          rintro rfl
          exact distinct.1 (List.mem_map.mpr ⟨_, later, rfl⟩)
        rw [List.find?_cons_of_neg (by simpa using different)]
        exact ih distinct.2 later

theorem mem_of_find?_eq_some {map : OrderedMap κ ν} {key : κ} {value : ν}
    (found : map.find? key = some value) : (key, value) ∈ map.entries := by
  obtain ⟨entry, first, rfl⟩ := Option.map_eq_some_iff.mp found
  have same : entry.1 = key := by simpa using List.find?_some first
  subst same
  exact List.mem_of_find?_eq_some first

theorem nodup_keys_insert {map : OrderedMap κ ν} (distinct : map.keys.Nodup) (key : κ)
    (value : ν) : (map.insert key value).keys.Nodup := by
  rw [keys_insert]
  split_ifs with present
  · exact distinct
  · exact List.nodup_append.mpr ⟨distinct, by simp, by
      intro other member last single
      rintro rfl
      exact present (by simpa [List.mem_singleton.mp single] using member)⟩

theorem keys_insert_of_mem {map : OrderedMap κ ν} {key : κ} (present : key ∈ map.keys)
    (value : ν) : (map.insert key value).keys = map.keys := by
  rw [keys_insert, if_pos present]

theorem insert_of_new {map : OrderedMap κ ν} {key : κ} (fresh : key ∉ map.keys)
    (value : ν) : map.insert key value = ⟨map.entries ++ [(key, value)]⟩ := by
  obtain ⟨entries⟩ := map
  simp only [insert, mk.injEq]
  simp only [keys] at fresh
  induction entries with
  | nil => rfl
  | cons entry rest ih =>
      rw [List.map_cons, List.mem_cons, not_or] at fresh
      rw [insertEntry, if_neg (Ne.symm fresh.1), ih fresh.2, List.cons_append]

/-- With distinct keys, the entries are the keys and what a lookup of each of them finds. -/
theorem entries_eq_of_distinct {map : OrderedMap κ ν} (distinct : map.keys.Nodup) (default : ν) :
    map.entries = map.keys.map fun key => (key, (map.find? key).getD default) := by
  rw [keys, List.map_map]
  refine (List.map_id _).symm.trans (List.map_congr_left fun entry member => ?_)
  rw [Function.comp_apply, find?_eq_some_of_mem distinct member]
  rfl

/-- With distinct keys, the values are what a lookup of each key finds. -/
theorem map_values_of_distinct {μ : Type} {map : OrderedMap κ ν} (distinct : map.keys.Nodup)
    (change : ν → μ) :
    map.values.map change = map.keys.filterMap fun key => (map.find? key).map change := by
  rw [keys, values, List.map_map, List.filterMap_map, ← List.filterMap_eq_map]
  refine List.filterMap_congr fun entry member => ?_
  simp only [Function.comp_apply]
  rw [find?_eq_some_of_mem distinct member]
  rfl

theorem mem_entries_insert {map : OrderedMap κ ν} {key : κ} {value : ν} {entry : κ × ν}
    (member : entry ∈ (map.insert key value).entries) :
    entry ∈ map.entries ∨ entry = (key, value) := by
  obtain ⟨entries⟩ := map
  change entry ∈ insertEntry key value entries at member
  change entry ∈ entries ∨ _
  induction entries with
  | nil => exact .inr (List.mem_singleton.mp member)
  | cons first rest ih =>
      rw [insertEntry] at member
      split_ifs at member
      · rcases List.mem_cons.mp member with here | later
        · exact .inr here
        · exact .inl (List.mem_cons_of_mem _ later)
      · rcases List.mem_cons.mp member with here | later
        · exact .inl (here ▸ List.mem_cons_self)
        · exact (ih later).imp_left (List.mem_cons_of_mem _)

theorem mem_values_insert {map : OrderedMap κ ν} {key : κ} {value other : ν}
    (member : other ∈ (map.insert key value).values) : other ∈ map.values ∨ other = value := by
  obtain ⟨entry, present, rfl⟩ := List.mem_map.mp member
  rcases mem_entries_insert present with old | rfl
  · exact .inl (List.mem_map_of_mem old)
  · exact .inr rfl

theorem mem_values_of_find? {map : OrderedMap κ ν} {key : κ} {value : ν}
    (found : map.find? key = some value) : value ∈ map.values :=
  List.mem_map_of_mem (mem_of_find?_eq_some found)

theorem mem_entries_ofList {pairs : List (κ × ν)} {entry : κ × ν}
    (member : entry ∈ (ofList pairs).entries) : entry ∈ pairs := by
  have folded : ∀ (pairs : List (κ × ν)) (map : OrderedMap κ ν),
      entry ∈ (pairs.foldl (fun map pair => map.insert pair.1 pair.2) map).entries →
        entry ∈ map.entries ∨ entry ∈ pairs := by
    intro pairs
    induction pairs with
    | nil => exact fun _ member => .inl member
    | cons pair rest ih =>
        intro map member
        rcases ih _ member with before | later
        · rcases mem_entries_insert before with old | rfl
          · exact .inl old
          · exact .inr List.mem_cons_self
        · exact .inr (List.mem_cons_of_mem _ later)
  exact (folded pairs empty member).resolve_left nofun

/-- A change of one entry is a write of the changed value. -/
theorem alter_eq_insert (map : OrderedMap κ ν) (key : κ) (start : ν) (change : ν → ν) :
    map.alter key start change = map.insert key (change ((map.find? key).getD start)) := by
  obtain ⟨entries⟩ := map
  simp only [alter, insert, find?, mk.injEq]
  induction entries with
  | nil => rfl
  | cons entry rest ih =>
      by_cases same : entry.1 = key
      · simp [alterEntry, insertEntry, same]
      · rw [alterEntry, insertEntry, if_neg same, if_neg same, ih,
          List.find?_cons_of_neg (by simpa using same)]

theorem mem_keys_foldl_insert (pairs : List (κ × ν)) (map : OrderedMap κ ν) (key : κ) :
    key ∈ (pairs.foldl (fun map pair => map.insert pair.1 pair.2) map).keys ↔
      key ∈ map.keys ∨ key ∈ pairs.map Prod.fst := by
  induction pairs generalizing map with
  | nil => simp
  | cons pair rest ih =>
      rw [List.foldl_cons, ih, keys_insert, List.map_cons, List.mem_cons]
      split_ifs with present
      · constructor
        · rintro (before | later)
          · exact .inl before
          · exact .inr (.inr later)
        · rintro (before | rfl | later)
          · exact .inl before
          · exact .inl present
          · exact .inr later
      · rw [List.mem_append, List.mem_singleton, or_assoc]

theorem mem_keys_ofList (pairs : List (κ × ν)) (key : κ) :
    key ∈ (ofList pairs).keys ↔ key ∈ pairs.map Prod.fst := by
  rw [ofList, mem_keys_foldl_insert]
  simp [empty, keys]

end SqlComposer.OrderedMap
