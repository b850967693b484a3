/-!
# Tables in insertion order

A table maps texts to values and remembers the order in which its keys were first inserted.
Inserting a key that is present changes its value and keeps its place; a new key goes to the end.
The main facts say what insertion does to the keys and to every look-up.
-/

set_option autoImplicit false

namespace Conformance

/-- Keys of a list of entries, in order. -/
def keysOf {α : Type} (entries : List (String × α)) : List String := entries.map Prod.fst

/-- The entries with `key` bound to `value`: in place if the key is there, else at the end. -/
def putEntry {α : Type} (key : String) (value : α) : List (String × α) → List (String × α)
  | [] => [(key, value)]
  | (k, v) :: rest =>
    if k = key then (key, value) :: rest else (k, v) :: putEntry key value rest

theorem keysOf_putEntry {α : Type} (key : String) (value : α) (entries : List (String × α)) :
    keysOf (putEntry key value entries) =
      if key ∈ keysOf entries then keysOf entries else keysOf entries ++ [key] := by
  induction entries with
  | nil => simp [putEntry, keysOf]
  | cons entry rest ih =>
    obtain ⟨k, v⟩ := entry
    by_cases h : k = key
    · simp [putEntry, keysOf, h]
    · have h' : ¬ key = k := fun e => h e.symm
      simp only [keysOf, List.map_cons, List.mem_cons, h', false_or] at ih ⊢
      simp only [putEntry, h, if_false, List.map_cons, ih]
      split <;> simp_all

theorem nodup_keysOf_putEntry {α : Type} (key : String) (value : α)
    {entries : List (String × α)} (h : (keysOf entries).Nodup) :
    (keysOf (putEntry key value entries)).Nodup := by
  rw [keysOf_putEntry]
  split
  · exact h
  · rename_i absent
    exact List.nodup_append.2
      ⟨h, by simp, fun a ha b hb => by
        rw [List.mem_singleton] at hb
        exact fun e => absent (hb ▸ e ▸ ha)⟩

/-- A look-up after an insertion finds the new value under its key and is unchanged elsewhere. -/
theorem lookup_putEntry {α : Type} (key other : String) (value : α)
    (entries : List (String × α)) :
    (putEntry key value entries).lookup other =
      if other = key then some value else entries.lookup other := by
  induction entries with
  | nil =>
    by_cases h : other = key
    · simp [putEntry, h]
    · simp [putEntry, List.lookup_cons, h, beq_false_of_ne h]
  | cons entry rest ih =>
    obtain ⟨k, v⟩ := entry
    by_cases hk : k = key
    · by_cases h : other = key
      · simp [putEntry, hk, h]
      · simp [putEntry, List.lookup_cons, hk, h, beq_false_of_ne h]
    · simp only [putEntry, hk, if_false, List.lookup_cons]
      by_cases ho : other = k
      · have : other ≠ key := fun e => hk (ho ▸ e)
        simp [ho, ho ▸ this]
      · simp [beq_false_of_ne ho, ih]

/-- A table: entries in insertion order, no key twice. -/
structure Table (α : Type) where
  entries : List (String × α)
  nodup : (keysOf entries).Nodup

namespace Table

variable {α : Type}

/-- The table without entries. -/
def empty : Table α := ⟨[], by simp [keysOf]⟩

instance : Inhabited (Table α) := ⟨empty⟩

/-- Keys in insertion order. -/
def keys (t : Table α) : List String := keysOf t.entries

/-- The value bound to a key. -/
def get? (t : Table α) (key : String) : Option α := t.entries.lookup key

/-- Whether a key is bound. -/
def contains (t : Table α) (key : String) : Bool := t.keys.contains key

/-- Binds `key` to `value`: in place if it is bound, else at the end. -/
def insert (t : Table α) (key : String) (value : α) : Table α :=
  ⟨putEntry key value t.entries, nodup_keysOf_putEntry key value t.nodup⟩

/-- Binds the entries of a list, from first to last. -/
def insertAll (t : Table α) (entries : List (String × α)) : Table α :=
  entries.foldl (fun t e => t.insert e.1 e.2) t

/-- The table of a list of entries; of two entries with one key the later value counts. -/
def ofList (entries : List (String × α)) : Table α := empty.insertAll entries

/-- The same keys with other values. -/
def mapValues {β : Type} (f : String → α → β) (t : Table α) : Table β :=
  ⟨t.entries.map fun e => (e.1, f e.1 e.2), by
    have : keysOf (t.entries.map fun e => (e.1, f e.1 e.2)) = keysOf t.entries := by
      simp [keysOf, Function.comp_def]
    exact this ▸ t.nodup⟩

theorem ext_entries {s t : Table α} (h : s.entries = t.entries) : s = t := by
  cases s; cases t; simp_all

@[simp] theorem get?_empty (key : String) : (empty : Table α).get? key = none := rfl

theorem get?_insert (t : Table α) (key other : String) (value : α) :
    (t.insert key value).get? other = if other = key then some value else t.get? other :=
  lookup_putEntry key other value t.entries

theorem keys_insert (t : Table α) (key : String) (value : α) :
    (t.insert key value).keys = if key ∈ t.keys then t.keys else t.keys ++ [key] :=
  keysOf_putEntry key value t.entries

@[simp] theorem insertAll_nil (t : Table α) : t.insertAll [] = t := rfl

@[simp] theorem insertAll_cons (t : Table α) (e : String × α) (rest : List (String × α)) :
    t.insertAll (e :: rest) = (t.insert e.1 e.2).insertAll rest := rfl

end Table

end Conformance
