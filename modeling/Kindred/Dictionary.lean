import Kindred.Text.Basic

/-!
# Dictionaries

A dictionary holds one value for each of finitely many keys. Inserting under a key that is there
already replaces its value, so that of several definitions the last one counts.

`get?_insert` says what an insertion does to look-ups, and `get?_eq_none_iff` that what has no value
is no key.
-/

namespace Kindred

/-- One value for each of finitely many keys. -/
structure Dictionary (α : Type) where
  /-- The keys with their values. -/
  entries : List (Text × α)
  /-- No key has two values. -/
  keys_nodup : (entries.map Prod.fst).Nodup

namespace Dictionary

variable {α : Type}

/-- The dictionary without keys. -/
def empty : Dictionary α := ⟨[], List.nodup_nil⟩

instance : EmptyCollection (Dictionary α) := ⟨empty⟩

/-- The keys of a dictionary. -/
def keys (d : Dictionary α) : List Text := d.entries.map Prod.fst

/-- The value of a key. -/
def get? (d : Dictionary α) (key : Text) : Option α :=
  (d.entries.find? fun entry => entry.1 == key).map Prod.snd

/-- Whether a key has a value. -/
def contains (d : Dictionary α) (key : Text) : Bool := (d.get? key).isSome

/-- The number of keys. -/
def size (d : Dictionary α) : Nat := d.entries.length

/-- A dictionary with the value of one key given. -/
def insert (d : Dictionary α) (key : Text) (value : α) : Dictionary α where
  entries := (key, value) :: d.entries.filter fun entry => entry.1 != key
  keys_nodup := by
    rw [List.map_cons, List.nodup_cons]
    constructor
    · intro h
      obtain ⟨entry, hmem, hkey⟩ := List.mem_map.1 h
      have := (List.mem_filter.1 hmem).2
      simp [hkey] at this
    · exact d.keys_nodup.sublist (List.filter_sublist.map _)

theorem get?_eq_none_iff (d : Dictionary α) (key : Text) : d.get? key = none ↔ key ∉ d.keys := by
  rw [get?, Option.map_eq_none_iff, List.find?_eq_none]
  constructor
  · intro h hkey
    obtain ⟨entry, hmem, rfl⟩ := List.mem_map.1 hkey
    exact h entry hmem (beq_self_eq_true _)
  · intro h entry hmem hkey
    exact h (List.mem_map.2 ⟨entry, hmem, eq_of_beq hkey⟩)

theorem mem_entries_of_get? {d : Dictionary α} {key : Text} {value : α}
    (h : d.get? key = some value) : (key, value) ∈ d.entries := by
  obtain ⟨entry, hfound, rfl⟩ := Option.map_eq_some_iff.1 h
  have hbeq := List.find?_some hfound
  obtain rfl : entry.1 = key := eq_of_beq hbeq
  exact List.mem_of_find?_eq_some hfound

theorem mem_keys_of_get? {d : Dictionary α} {key : Text} {value : α} (h : d.get? key = some value) :
    key ∈ d.keys :=
  List.mem_map.2 ⟨(key, value), mem_entries_of_get? h, rfl⟩

theorem get?_insert (d : Dictionary α) (key other : Text) (value : α) :
    (d.insert key value).get? other = if key = other then some value else d.get? other := by
  by_cases h : key = other
  · subst h
    simp [get?, insert]
  · have hfind : ∀ entries : List (Text × α),
        (entries.filter fun entry => entry.1 != key).find? (fun entry => entry.1 == other) =
          entries.find? fun entry => entry.1 == other := by
      intro entries
      induction entries with
      | nil => rfl
      | cons entry rest ih =>
        by_cases hkey : entry.1 = key
        · simp [hkey, ih, h]
        · simp [hkey, List.find?_cons, ih]
    simp [get?, insert, h, hfind]

theorem contains_insert (d : Dictionary α) (key other : Text) (value : α) :
    (d.insert key value).contains other = (decide (key = other) || d.contains other) := by
  unfold contains
  rw [get?_insert]
  by_cases h : key = other
  · simp [h]
  · simp [h]

end Dictionary

end Kindred
