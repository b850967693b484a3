import Conformance.Proofs.Table
import Conformance.Registry.Option

/-!
# Options in groups

Options come under keys that name a rule and an option, or in a table under the name of a rule, and
both ways may be mixed. They are grouped by rule before any of them is looked at. This file proves
two things about grouping.

Options that come in groups already, one table for each rule, are grouped as they stand
(`splitOptions_nested`).

Leaving out options may be done before grouping or after it (`splitOptions_prune`). The two do not
lead to the same groups: a rule all of whose options are left out may have no group at all, and
another may be mentioned later than it was. So the statement is about the group of each rule and
says nothing about their order (`Prunes`).
-/

set_option autoImplicit false

namespace Conformance

variable {α β : Type}

/-! ## 1. Tables with some keys left out -/

/-- Mapping the values of a list of entries changes nothing about where a key is found. -/
theorem lookup_map (f : String × α → β) (entries : List (String × α)) (key : String) :
    (entries.map fun e => (e.1, f e)).lookup key =
      (entries.lookup key).map fun value => f (key, value) := by
  induction entries with
  | nil => rfl
  | cons e rest ih =>
    rw [List.map_cons, List.lookup_cons, List.lookup_cons, ih]
    by_cases hkey : key = e.1
    · rw [hkey, beq_self_eq_true]
      rfl
    · rw [beq_false_of_ne hkey]

/-- Entries that are dropped or changed under their keys leave distinct keys distinct. -/
theorem keysOf_filterMap_sublist {f : String × α → Option (String × β)}
    (hf : ∀ e e', f e = some e' → e'.1 = e.1) (entries : List (String × α)) :
    (keysOf (entries.filterMap f)).Sublist (keysOf entries) := by
  induction entries with
  | nil => exact List.Sublist.slnil
  | cons e rest ih =>
    cases he : f e with
    | none =>
      rw [List.filterMap_cons_none he]
      exact ih.cons e.1
    | some e' =>
      rw [List.filterMap_cons_some he]
      show (e'.1 :: _).Sublist (e.1 :: _)
      rw [hf e e' he]
      exact ih.cons_cons e.1

/-- Putting an entry in and then choosing by key is the same as choosing first, and not putting it
in if its key is not chosen. -/
theorem filter_putEntry (keep : String → Bool) (key : String) (value : α)
    (entries : List (String × α)) :
    (putEntry key value entries).filter (fun e => keep e.1) =
      if keep key then putEntry key value (entries.filter fun e => keep e.1)
      else entries.filter fun e => keep e.1 := by
  induction entries with
  | nil =>
    cases hkeep : keep key <;> simp [putEntry, hkeep]
  | cons e rest ih =>
    obtain ⟨k, v⟩ := e
    by_cases hkey : k = key
    -- the old entry has the same key, so it is kept or dropped with the new one
    · rw [putEntry, if_pos hkey, hkey, List.filter_cons, List.filter_cons]
      cases hkeep : keep key <;> simp [putEntry]
    · rw [putEntry, if_neg hkey, List.filter_cons, List.filter_cons, ih]
      cases hold : keep k <;> cases hkeep : keep key <;> simp [putEntry, hkey]

namespace Table

theorem mem_keys_insert {t : Table α} {key other : String} {value : α} :
    other ∈ (t.insert key value).keys ↔ other = key ∨ other ∈ t.keys := by
  rw [keys_insert]
  by_cases hkey : key ∈ t.keys
  · rw [if_pos hkey, iff_or_self]
    exact fun heq => heq ▸ hkey
  · rw [if_neg hkey, List.mem_append, List.mem_singleton, or_comm]

/-- The entries of a table whose keys are kept. -/
def restrict (t : Table α) (keep : String → Bool) : Table α :=
  ⟨t.entries.filter fun e => keep e.1, t.nodup.sublist (List.filter_sublist.map Prod.fst)⟩

theorem restrict_insert (t : Table α) (keep : String → Bool) (key : String) (value : α) :
    (t.insert key value).restrict keep =
      if keep key then (t.restrict keep).insert key value else t.restrict keep := by
  apply ext_entries
  show (putEntry key value t.entries).filter (fun e => keep e.1) = _
  rw [filter_putEntry]
  cases keep key <;> rfl

theorem restrict_insertAll (t : Table α) (keep : String → Bool) (entries : List (String × α)) :
    (t.insertAll entries).restrict keep =
      (t.restrict keep).insertAll (entries.filter fun e => keep e.1) := by
  induction entries generalizing t with
  | nil => rfl
  | cons e rest ih =>
    rw [insertAll_cons, ih, restrict_insert, List.filter_cons]
    cases keep e.1 <;> rfl

theorem get?_restrict {t : Table α} {keep : String → Bool} {key : String} (h : keep key = true) :
    (t.restrict keep).get? key = t.get? key := by
  cases hget : t.get? key with
  | none =>
    rw [get?_eq_none_iff] at hget ⊢
    intro hmem
    exact hget ((List.filter_sublist.map Prod.fst).subset hmem)
  | some value =>
    have hmem : (key, value) ∈ (t.restrict keep).entries :=
      List.mem_filter.mpr ⟨mem_of_get? hget, h⟩
    exact get?_of_mem hmem

end Table

/-! ## 2. Options that are in groups already -/

/-- The options that are grouped under a rule. -/
def groupOf (grouped : Table (Table Value)) (rule : String) : Table Value :=
  (grouped.get? rule).getD .empty

/-- Inserting a group changes the group of its rule only. -/
theorem groupOf_insert (grouped : Table (Table Value)) (rule other : String)
    (options : Table Value) :
    groupOf (grouped.insert rule options) other =
      if other = rule then options else groupOf grouped other := by
  unfold groupOf
  rw [Table.get?_insert]
  by_cases hrule : other = rule
  · rw [if_pos hrule, if_pos hrule, Option.getD_some]
  · rw [if_neg hrule, if_neg hrule]

/-- A rule that has no group yet starts with an empty one. -/
theorem groupOf_of_not_mem {grouped : Table (Table Value)} {rule : String}
    (h : rule ∉ grouped.keys) : groupOf grouped rule = .empty := by
  unfold groupOf
  rw [Table.get?_eq_none_iff.mpr h, Option.getD_none]

/-- The groups that are there are found by their rules. -/
theorem groupOf_of_mem {grouped : Table (Table Value)} {group : String × Table Value}
    (h : group ∈ grouped.entries) : groupOf grouped group.1 = group.2 := by
  unfold groupOf
  rw [Table.get?_of_mem h, Option.getD_some]

/-- **A nested entry** adds its options to the group of its rule. -/
theorem splitEntry_table (grouped : Table (Table Value)) (rule : String)
    (entries : List (String × Value)) :
    splitEntry grouped (rule, .table entries) =
      .ok (grouped.insert rule ((groupOf grouped rule).insertAll entries)) := rfl

/-- Groups as options: a table for each rule. -/
def nested (groups : Table (Table Value)) : Table Value :=
  groups.mapValues fun _ options => .table options.entries

/-- Groups of new rules go to the end, each as it stands. -/
theorem splitOptions_go_nested {grouped : Table (Table Value)}
    {groups : List (String × Table Value)} (hnodup : (keysOf groups).Nodup)
    (hnew : ∀ rule ∈ keysOf groups, rule ∉ grouped.keys) :
    splitOptions.go grouped (groups.map fun group => (group.1, .table group.2.entries)) =
      .ok (grouped.insertAll groups) := by
  induction groups generalizing grouped with
  | nil => rfl
  | cons group rest ih =>
    have hcons : group.1 ∉ keysOf rest ∧ (keysOf rest).Nodup := List.nodup_cons.mp hnodup
    have hgroup : group.1 ∉ grouped.keys := hnew group.1 List.mem_cons_self
    -- the rule has no group yet, so that nothing is merged
    have hown : (groupOf grouped group.1).insertAll group.2.entries = group.2 := by
      rw [groupOf_of_not_mem hgroup]
      exact Table.ofList_entries group.2
    have hrest : ∀ rule ∈ keysOf rest, rule ∉ (grouped.insert group.1 group.2).keys := by
      intro rule hrule
      rw [Table.mem_keys_insert]
      rintro (rfl | hold)
      · exact hcons.1 hrule
      · exact hnew rule (List.mem_cons_of_mem _ hrule) hold
    rw [List.map_cons, splitOptions.go, splitEntry_table, hown]
    exact ih hcons.2 hrest

/-- **Groups stay.** Options that come as one table for each rule are grouped as they stand. -/
theorem splitOptions_nested (groups : Table (Table Value)) :
    splitOptions (nested groups) = .ok groups := by
  have hnew : ∀ rule ∈ keysOf groups.entries, rule ∉ (Table.empty : Table (Table Value)).keys :=
    fun _ _ hmem => absurd hmem List.not_mem_nil
  have hall : Table.empty.insertAll groups.entries = groups := Table.ofList_entries groups
  exact (splitOptions_go_nested groups.nodup hnew).trans (congrArg Except.ok hall)

/-! ## 3. Options that are left out -/

section Prune

variable (keep : String → String → Bool)

/-- An entry without the options that are not kept; nothing, if that is its only option. -/
def pruneEntry : String × Value → Option (String × Value)
  | (rule, .table entries) => some (rule, .table (entries.filter fun e => keep rule e.1))
  | (key, value) =>
    if (cutKey? key).all fun parts => keep parts.1 parts.2 then some (key, value) else none

/-- A flat entry stays if its key can be cut and the rule and the option are chosen. -/
theorem pruneEntry_flat {key : String} {value : Value} (hflat : ∀ entries, value ≠ .table entries) :
    pruneEntry keep (key, value) =
      if (cutKey? key).all fun parts => keep parts.1 parts.2 then some (key, value) else none := by
  cases value with
  | table entries => exact absurd rfl (hflat entries)
  | _ => rfl

theorem key_pruneEntry (e e' : String × Value) (h : pruneEntry keep e = some e') : e'.1 = e.1 := by
  obtain ⟨key, value⟩ := e
  by_cases hflat : ∀ entries, value ≠ .table entries
  · rw [pruneEntry_flat keep hflat] at h
    split at h
    · rw [← Option.some.inj h]
    · exact absurd h (by simp)
  · simp only [not_forall, not_not] at hflat
    obtain ⟨entries, rfl⟩ := hflat
    rw [← Option.some.inj h]

/-- Options without those that are not kept. -/
def prune (options : Table Value) : Table Value :=
  ⟨options.entries.filterMap (pruneEntry keep),
    options.nodup.sublist (keysOf_filterMap_sublist (key_pruneEntry keep) options.entries)⟩

/-- The second groups hold what is kept of the first. -/
structure Prunes (grouped pruned : Table (Table Value)) : Prop where
  keys : ∀ rule ∈ pruned.keys, rule ∈ grouped.keys
  groups : ∀ rule, groupOf pruned rule = (groupOf grouped rule).restrict (keep rule)

end Prune

/-- **A flat entry** adds one option to the group of its rule, if its key can be cut. -/
theorem splitEntry_flat {grouped : Table (Table Value)} {key : String} {value : Value}
    (hflat : ∀ entries, value ≠ .table entries) :
    splitEntry grouped (key, value) =
      match cutKey? key with
      | some (rule, option) =>
        .ok (grouped.insert rule ((groupOf grouped rule).insert option value))
      | none => .error (.optionKey key) := by
  cases value with
  | table entries => exact absurd rfl (hflat entries)
  | _ => rfl

namespace Prunes

variable {keep : String → String → Bool} {grouped pruned : Table (Table Value)}

/-- A group is replaced, and so is what is kept of it. -/
theorem insert (h : Prunes keep grouped pruned) (rule : String) (options : Table Value) :
    Prunes keep (grouped.insert rule options)
      (pruned.insert rule (options.restrict (keep rule))) where
  keys := by
    intro other hother
    rw [Table.mem_keys_insert] at hother ⊢
    exact hother.imp_right (h.keys other)
  groups := by
    intro other
    rw [groupOf_insert, groupOf_insert]
    by_cases hrule : other = rule
    · rw [if_pos hrule, if_pos hrule, hrule]
    · rw [if_neg hrule, if_neg hrule]
      exact h.groups other

/-- An option that is not kept changes nothing in what is kept. -/
theorem insert_dropped (h : Prunes keep grouped pruned) {rule option : String}
    (hdropped : keep rule option = false) (value : Value) :
    Prunes keep (grouped.insert rule ((groupOf grouped rule).insert option value)) pruned where
  keys := fun other hother => Table.mem_keys_insert.mpr (.inr (h.keys other hother))
  groups := by
    intro other
    rw [groupOf_insert]
    by_cases hrule : other = rule
    · rw [if_pos hrule, hrule, Table.restrict_insert, if_neg (by simp [hdropped])]
      exact h.groups rule
    · rw [if_neg hrule]
      exact h.groups other

/-- **One entry.** What is left of it, if anything is, keeps the account. -/
theorem splitEntry (h : Prunes keep grouped pruned) {entry : String × Value}
    {next : Table (Table Value)} (hsplit : Conformance.splitEntry grouped entry = .ok next) :
    match pruneEntry keep entry with
    | some left => ∃ left', Conformance.splitEntry pruned left = .ok left' ∧ Prunes keep next left'
    | none => Prunes keep next pruned := by
  obtain ⟨key, value⟩ := entry
  by_cases hflat : ∀ entries, value ≠ .table entries
  · rw [splitEntry_flat hflat] at hsplit
    rw [pruneEntry_flat keep hflat]
    cases hcut : cutKey? key with
    | none =>
      rw [hcut] at hsplit
      exact absurd hsplit (by simp)
    | some parts =>
      obtain ⟨rule, option⟩ := parts
      rw [hcut] at hsplit
      rw [← Except.ok.inj hsplit, Option.all_some]
      dsimp only
      cases hkeep : keep rule option with
      -- the whole entry goes, and with it perhaps the only mention of the rule
      | false => exact h.insert_dropped hkeep value
      | true =>
        have hleft := h.insert rule ((groupOf grouped rule).insert option value)
        rw [Table.restrict_insert, if_pos hkeep, ← h.groups rule] at hleft
        refine ⟨_, ?_, hleft⟩
        rw [splitEntry_flat hflat, hcut]
  · simp only [not_forall, not_not] at hflat
    obtain ⟨entries, rfl⟩ := hflat
    rw [splitEntry_table] at hsplit
    rw [← Except.ok.inj hsplit]
    have hleft := h.insert key ((groupOf grouped key).insertAll entries)
    rw [Table.restrict_insertAll, ← h.groups key] at hleft
    exact ⟨_, splitEntry_table pruned key _, hleft⟩

/-- All entries, one after another. -/
theorem go (h : Prunes keep grouped pruned) {entries : List (String × Value)}
    {result : Table (Table Value)} (hgo : splitOptions.go grouped entries = .ok result) :
    ∃ left, splitOptions.go pruned (entries.filterMap (pruneEntry keep)) = .ok left ∧
      Prunes keep result left := by
  induction entries generalizing grouped pruned with
  | nil =>
    rw [← Except.ok.inj hgo]
    exact ⟨pruned, rfl, h⟩
  | cons entry rest ih =>
    obtain ⟨next, hsplit, hrest⟩ := bind_ok_iff.mp hgo
    have hentry := h.splitEntry hsplit
    cases hprune : pruneEntry keep entry with
    | none =>
      rw [hprune] at hentry
      rw [List.filterMap_cons_none hprune]
      exact ih hentry hrest
    | some kept =>
      rw [hprune] at hentry
      obtain ⟨left, hleft, hnext⟩ := hentry
      obtain ⟨final, hfinal, hresult⟩ := ih hnext hrest
      rw [List.filterMap_cons_some hprune]
      exact ⟨final, bind_ok_iff.mpr ⟨left, hleft, hfinal⟩, hresult⟩

end Prunes

/-- **Leaving out options.** Options that can be grouped can be grouped without those that are not
kept, and each rule keeps of its group what is kept. -/
theorem splitOptions_prune {keep : String → String → Bool} {options : Table Value}
    {grouped : Table (Table Value)} (h : splitOptions options = .ok grouped) :
    ∃ pruned, splitOptions (prune keep options) = .ok pruned ∧ Prunes keep grouped pruned := by
  have hempty : Prunes keep .empty .empty :=
    ⟨fun _ hmem => absurd hmem List.not_mem_nil, fun _ => rfl⟩
  exact hempty.go h

end Conformance
