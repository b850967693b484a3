import Conformance.Error
import Mathlib.Data.List.Basic
import Mathlib.Data.List.Forall2

/-!
# Tables under insertion

What the rest of the theory uses of tables: a key is bound exactly if it is among the keys, an
insertion of a bound key changes no key and no place, and one of a new key goes to the end. The
first lemmas are about lists, of entries or of anything else.
-/

set_option autoImplicit false

namespace Conformance

variable {α β : Type}

/-- A step is taken on every entry of a list if it succeeds on each of them. -/
theorem mapM_eq_ok_iff {step : α → Except Error β} {entries : List α} {results : List β} :
    entries.mapM step = .ok results ↔
      List.Forall₂ (fun entry result => step entry = .ok result) entries results := by
  induction entries generalizing results with
  | nil => rw [List.mapM_nil, List.forall₂_nil_left_iff]; simp [pure, Except.pure, eq_comm]
  | cons entry rest ih =>
    rw [List.mapM_cons, bind_ok_iff]
    constructor
    · rintro ⟨first, hfirst, h⟩
      obtain ⟨others, hothers, h⟩ := bind_ok_iff.mp h
      rw [← Except.ok.inj h]
      exact .cons hfirst (ih.mp hothers)
    · intro h
      cases h with
      | cons hfirst hrest => exact ⟨_, hfirst, bind_ok_iff.mpr ⟨_, ih.mpr hrest, rfl⟩⟩

/-- The partner of an item in a list that goes in step with another. -/
theorem exists_of_forall₂_of_mem_left {R : α → β → Prop} {as : List α} {bs : List β}
    (h : List.Forall₂ R as bs) {a : α} (ha : a ∈ as) : ∃ b ∈ bs, R a b := by
  induction h with
  | nil => cases ha
  | cons hab _ ih =>
    rcases List.mem_cons.mp ha with rfl | ha
    · exact ⟨_, List.mem_cons_self, hab⟩
    · obtain ⟨b, hb, hab⟩ := ih ha
      exact ⟨b, List.mem_cons_of_mem _ hb, hab⟩

/-- One key more, at the end: it is new or changes nothing. -/
theorem eraseDups_append_singleton (keys : List String) (key : String) :
    (keys ++ [key]).eraseDups =
      if key ∈ keys then keys.eraseDups else keys.eraseDups ++ [key] := by
  rw [List.eraseDups_append]
  by_cases hmem : key ∈ keys
  · simp [List.removeAll, hmem]
  · simp [List.removeAll, hmem, List.eraseDups_cons]

/-- A key is not found exactly if it is not there. -/
theorem lookup_eq_none_iff_keysOf {key : String} {entries : List (String × α)} :
    entries.lookup key = none ↔ key ∉ keysOf entries := by
  unfold keysOf
  rw [List.lookup_eq_none_iff]
  constructor
  · intro h hmem
    obtain ⟨e, he, hkey⟩ := List.mem_map.mp hmem
    exact absurd (h e he) (by simp [hkey])
  · intro h e he
    have hne : key ≠ e.1 := fun heq => h (List.mem_map.mpr ⟨e, he, heq.symm⟩)
    simpa using hne

theorem keysOf_map (entries : List (String × α)) (f : String × α → β) :
    keysOf (entries.map fun e => (e.1, f e)) = keysOf entries := by
  unfold keysOf
  rw [List.map_map]
  rfl

/-- Among entries with distinct keys a look-up finds the entry itself. -/
theorem lookup_of_mem {entries : List (String × α)} (hnodup : (keysOf entries).Nodup)
    {e : String × α} (he : e ∈ entries) : entries.lookup e.1 = some e.2 := by
  induction entries with
  | nil => exact absurd he List.not_mem_nil
  | cons first rest ih =>
    have hcons : first.1 ∉ keysOf rest ∧ (keysOf rest).Nodup := List.nodup_cons.mp hnodup
    rcases List.mem_cons.mp he with rfl | hrest
    · rw [List.lookup_cons_self]
    · have hne : e.1 ≠ first.1 := fun heq =>
        hcons.1 (heq ▸ List.mem_map.mpr ⟨e, hrest, rfl⟩)
      rw [List.lookup_cons, beq_false_of_ne hne]
      exact ih hcons.2 hrest

theorem mem_of_lookup {κ : Type} [BEq κ] [LawfulBEq κ] {key : κ} {value : α}
    {entries : List (κ × α)} (h : entries.lookup key = some value) : (key, value) ∈ entries := by
  obtain ⟨before, after, heq, -⟩ := List.lookup_eq_some_iff.mp h
  rw [heq]
  simp

/-- A new key goes to the end; this is what keeps tables in order of first mention. -/
theorem putEntry_of_not_mem {key : String} {value : α} {entries : List (String × α)}
    (h : key ∉ keysOf entries) : putEntry key value entries = entries ++ [(key, value)] := by
  induction entries with
  | nil => rfl
  | cons first rest ih =>
    have hcons : key ≠ first.1 ∧ key ∉ keysOf rest := by
      simpa [keysOf, not_or] using h
    rw [putEntry, if_neg (Ne.symm hcons.1), ih hcons.2, List.cons_append]

/-- Entries with distinct keys may be looked up in any order. -/
theorem lookup_perm {entries others : List (String × α)} (hperm : others.Perm entries)
    (hnodup : (keysOf entries).Nodup) (key : String) : others.lookup key = entries.lookup key := by
  have hkeys : (keysOf others).Perm (keysOf entries) := hperm.map Prod.fst
  cases hentry : entries.lookup key with
  | none =>
    rw [lookup_eq_none_iff_keysOf] at hentry ⊢
    rwa [hkeys.mem_iff]
  | some value =>
    have hmem : (key, value) ∈ others := hperm.mem_iff.mpr (mem_of_lookup hentry)
    exact lookup_of_mem (hkeys.nodup_iff.mpr hnodup) hmem

namespace Table

theorem get?_eq_none_iff {t : Table α} {key : String} : t.get? key = none ↔ key ∉ t.keys :=
  lookup_eq_none_iff_keysOf

/-- Keys of a table are distinct, so each entry is the one found under its key. -/
theorem get?_of_mem {t : Table α} {e : String × α} (he : e ∈ t.entries) :
    t.get? e.1 = some e.2 :=
  lookup_of_mem t.nodup he

theorem mem_of_get? {t : Table α} {key : String} {value : α} (h : t.get? key = some value) :
    (key, value) ∈ t.entries :=
  mem_of_lookup h

theorem exists_get?_of_mem_keys {t : Table α} {key : String} (h : key ∈ t.keys) :
    ∃ value, t.get? key = some value := by
  cases hget : t.get? key with
  | some value => exact ⟨value, rfl⟩
  | none => exact absurd h (get?_eq_none_iff.mp hget)

theorem mem_keys_of_get? {t : Table α} {key : String} {value : α} (h : t.get? key = some value) :
    key ∈ t.keys :=
  List.mem_map.mpr ⟨(key, value), mem_of_get? h, rfl⟩

theorem keys_insert_of_mem {t : Table α} {key : String} (h : key ∈ t.keys) (value : α) :
    (t.insert key value).keys = t.keys := by
  rw [keys_insert, if_pos h]

theorem keys_insert_of_not_mem {t : Table α} {key : String} (h : key ∉ t.keys) (value : α) :
    (t.insert key value).keys = t.keys ++ [key] := by
  rw [keys_insert, if_neg h]

theorem entries_insert_of_not_mem {t : Table α} {key : String} (h : key ∉ t.keys) (value : α) :
    (t.insert key value).entries = t.entries ++ [(key, value)] :=
  putEntry_of_not_mem h

/-- Entries for bound keys change no key and no place. -/
theorem keys_insertAll_of_mem {t : Table α} {entries : List (String × α)}
    (h : ∀ key ∈ keysOf entries, key ∈ t.keys) : (t.insertAll entries).keys = t.keys := by
  induction entries generalizing t with
  | nil => rfl
  | cons e rest ih =>
    have he : e.1 ∈ t.keys := h e.1 List.mem_cons_self
    have hkeys : (t.insert e.1 e.2).keys = t.keys := keys_insert_of_mem he e.2
    rw [insertAll_cons, ih, hkeys]
    intro key hkey
    rw [hkeys]
    exact h key (List.mem_cons_of_mem _ hkey)

/-- A look-up after many insertions finds an inserted value or what was there. -/
theorem get?_insertAll {t : Table α} {entries : List (String × α)} {key : String} {value : α}
    (h : (t.insertAll entries).get? key = some value) :
    (key, value) ∈ entries ∨ t.get? key = some value := by
  induction entries generalizing t with
  | nil => exact .inr h
  | cons e rest ih =>
    rw [insertAll_cons] at h
    rcases ih h with hrest | hinsert
    · exact .inl (List.mem_cons_of_mem _ hrest)
    · rw [get?_insert] at hinsert
      by_cases hkey : key = e.1
      · rw [if_pos hkey, Option.some.injEq] at hinsert
        left
        rw [hkey, ← hinsert]
        exact List.mem_cons_self
      · rw [if_neg hkey] at hinsert
        exact .inr hinsert

/-- Entries for new and distinct keys go to the end, in their order. -/
theorem entries_insertAll_of_new {t : Table α} {entries : List (String × α)}
    (hnodup : (keysOf entries).Nodup) (hnew : ∀ key ∈ keysOf entries, key ∉ t.keys) :
    (t.insertAll entries).entries = t.entries ++ entries := by
  induction entries generalizing t with
  | nil => rw [insertAll_nil, List.append_nil]
  | cons e rest ih =>
    have hcons : e.1 ∉ keysOf rest ∧ (keysOf rest).Nodup := List.nodup_cons.mp hnodup
    have he : e.1 ∉ t.keys := hnew e.1 List.mem_cons_self
    have hrest : ∀ key ∈ keysOf rest, key ∉ (t.insert e.1 e.2).keys := by
      intro key hkey
      rw [keys_insert_of_not_mem he, List.mem_append, List.mem_singleton]
      rintro (hold | rfl)
      · exact hnew key (List.mem_cons_of_mem _ hkey) hold
      · exact hcons.1 hkey
    rw [insertAll_cons, ih hcons.2 hrest, entries_insert_of_not_mem he, List.append_assoc,
      List.singleton_append]

theorem entries_ofList {entries : List (String × α)} (hnodup : (keysOf entries).Nodup) :
    (ofList entries).entries = entries := by
  have hnew : ∀ key ∈ keysOf entries, key ∉ (empty : Table α).keys :=
    fun _ _ hmem => absurd hmem List.not_mem_nil
  exact entries_insertAll_of_new hnodup hnew

theorem ofList_entries (t : Table α) : ofList t.entries = t :=
  ext_entries (entries_ofList t.nodup)

/-- After many insertions with distinct keys, the inserted values come before those that were
there. -/
theorem get?_insertAll_of_nodup {t : Table α} {entries : List (String × α)}
    (hnodup : (keysOf entries).Nodup) (key : String) :
    (t.insertAll entries).get? key = (entries.lookup key).or (t.get? key) := by
  induction entries generalizing t with
  | nil => rw [insertAll_nil, List.lookup_nil, Option.none_or]
  | cons e rest ih =>
    have hcons : e.1 ∉ keysOf rest ∧ (keysOf rest).Nodup := List.nodup_cons.mp hnodup
    rw [insertAll_cons, ih hcons.2, get?_insert, List.lookup_cons]
    by_cases hkey : key = e.1
    · have hrest : rest.lookup key = none := by
        rw [lookup_eq_none_iff_keysOf, hkey]
        exact hcons.1
      rw [if_pos hkey, hrest, Option.none_or, hkey, beq_self_eq_true, Option.some_or]
    · rw [if_neg hkey, beq_false_of_ne hkey]

/-- A table is what its keys are bound to, in their order. -/
theorem entries_eq_filterMap (t : Table α) :
    t.entries = t.keys.filterMap fun key => (t.get? key).map fun value => (key, value) := by
  unfold keys keysOf
  rw [List.filterMap_map]
  refine ((List.filterMap_congr fun e he => ?_).trans List.filterMap_some).symm
  show ((t.get? e.1).map fun value => (e.1, value)) = some e
  rw [get?_of_mem he, Option.map_some]

/-- **Tables are equal** if they have the same keys in the same order and the same values under
them. -/
theorem ext_get? {s t : Table α} (hkeys : s.keys = t.keys)
    (hget : ∀ key, s.get? key = t.get? key) : s = t := by
  apply ext_entries
  rw [entries_eq_filterMap s, entries_eq_filterMap t, hkeys]
  simp only [hget]

/-- Entries for bound and distinct keys may be inserted in any order. -/
theorem insertAll_perm {t : Table α} {entries others : List (String × α)}
    (hperm : others.Perm entries) (hnodup : (keysOf entries).Nodup)
    (hbound : ∀ key ∈ keysOf entries, key ∈ t.keys) :
    t.insertAll others = t.insertAll entries := by
  have hkeys : (keysOf others).Perm (keysOf entries) := hperm.map Prod.fst
  have hboundOthers : ∀ key ∈ keysOf others, key ∈ t.keys :=
    fun key hkey => hbound key (hkeys.mem_iff.mp hkey)
  apply ext_get?
  · rw [keys_insertAll_of_mem hbound, keys_insertAll_of_mem hboundOthers]
  · intro key
    rw [get?_insertAll_of_nodup hnodup, get?_insertAll_of_nodup (hkeys.nodup_iff.mpr hnodup),
      lookup_perm hperm hnodup]

theorem keys_mapValues (f : String → α → β) (t : Table α) : (t.mapValues f).keys = t.keys :=
  keysOf_map t.entries fun e => f e.1 e.2

end Table

end Conformance
