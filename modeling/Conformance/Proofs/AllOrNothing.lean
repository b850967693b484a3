import Conformance.Proofs.RegistryInvariant
import Conformance.Registry.Kept

/-!
# All or nothing

A call on a kept registry writes step by step and may stop in between. This file proves that no
call is caught in between: whatever is refused is refused before the first write, so that a call
leaves behind the registry of `Registry.call`, or the registry it found (`Kept.carryOut_eq`).

For configuring several rules at once there is more to say. A group of options is resolved against
the definition and the configuration of its own rule and against nothing else, so a change to
another rule makes no difference to it (`Registry.resolve_insert_of_ne`). Therefore the groups can
be applied in one call, or in one call each and in any order, and a group that is refused is
refused in all of these ways.
-/

set_option autoImplicit false

namespace Conformance

/-! ## 1. One group of options -/

namespace Registry

/-- The configuration and the notes that one group of options leads to. -/
def resolve (r : Registry) (strict : Bool) (group : String × Table Value) :
    Except Error (RuleConfig × List Diagnostic) := do
  let rule ← r.get group.1
  resolveOptions rule.definition rule.config group.2 strict

/-- The groups are resolved in their order, and nothing is stored while this goes on. -/
theorem resolveGroups_cons (r : Registry) (strict : Bool) (group : String × Table Value)
    (rest : List (String × Table Value)) :
    r.resolveGroups strict (group :: rest) = do
      let own ← r.resolve strict group
      let others ← r.resolveGroups strict rest
      return ((group.1, own.1) :: others.1, own.2 ++ others.2) := by
  unfold Registry.resolve
  rw [bind_assoc]
  rfl

/-- **Rules do not look at each other.** Another configuration of one rule changes nothing in what
the options of a different rule lead to. -/
theorem resolve_insert_of_ne {r : Registry} {strict : Bool} {group : String × Table Value}
    {ruleId : String} (hne : group.1 ≠ ruleId) (config : RuleConfig) :
    resolve { r with configs := r.configs.insert ruleId config } strict group =
      r.resolve strict group := by
  have hconfig : Registry.config { r with configs := r.configs.insert ruleId config } group.1 =
      r.config group.1 := by
    unfold Registry.config
    rw [Table.get?_insert, if_neg hne]
  unfold resolve Registry.get
  rw [hconfig]
  rfl

/-- A rule whose options are resolved has a configuration, so storing the result overwrites an entry
and adds none. -/
theorem mem_keys_of_resolve {r : Registry} {strict : Bool} {group : String × Table Value}
    {result : RuleConfig × List Diagnostic} (h : r.resolve strict group = .ok result) :
    group.1 ∈ r.configs.keys := by
  unfold resolve Registry.get at h
  obtain ⟨rule, hrule, -⟩ := bind_ok_iff.mp h
  obtain ⟨definition, -, hrule⟩ := bind_ok_iff.mp hrule
  obtain ⟨config, hconfig, -⟩ := bind_ok_iff.mp hrule
  exact Table.mem_keys_of_get? (get?_of_config hconfig)

/-- Groups that are resolved together are resolved one by one. -/
theorem resolve_of_resolveGroups {r : Registry} {strict : Bool}
    {groups : List (String × Table Value)}
    {result : List (String × RuleConfig) × List Diagnostic}
    (h : r.resolveGroups strict groups = .ok result) :
    ∀ group ∈ groups, ∃ own, r.resolve strict group = .ok own := by
  induction groups generalizing result with
  | nil => exact fun _ hmem => absurd hmem List.not_mem_nil
  | cons first rest ih =>
    rw [resolveGroups_cons] at h
    obtain ⟨own, hown, h⟩ := bind_ok_iff.mp h
    obtain ⟨others, hothers, -⟩ := bind_ok_iff.mp h
    intro group hgroup
    rcases List.mem_cons.mp hgroup with rfl | hrest
    · exact ⟨own, hown⟩
    · exact ih hothers group hrest

instance : Nonempty RuleConfig := ⟨.starting []⟩

section Outcomes

/-! In what follows `out` says what each group leads to. -/

variable {r : Registry} {strict : Bool} {groups : List (String × Table Value)}
  {out : String × Table Value → RuleConfig × List Diagnostic}

/-- The registry with the configurations of all groups written into it. -/
def applied (r : Registry) (out : String × Table Value → RuleConfig × List Diagnostic)
    (groups : List (String × Table Value)) : Registry :=
  { r with configs := r.configs.insertAll (groups.map fun group => (group.1, (out group).1)) }

/-- If each group can be resolved, there is a function that says to what. -/
theorem exists_outcomes (h : ∀ group ∈ groups, ∃ own, r.resolve strict group = .ok own) :
    ∃ out : String × Table Value → RuleConfig × List Diagnostic,
      ∀ group ∈ groups, r.resolve strict group = .ok (out group) := by
  choose! out hout using h
  exact ⟨out, hout⟩

/-- Groups that are resolved one by one are resolved together, and their notes stand in the order
of the groups. -/
theorem resolveGroups_eq_ok (h : ∀ group ∈ groups, r.resolve strict group = .ok (out group)) :
    r.resolveGroups strict groups =
      .ok (groups.map fun group => (group.1, (out group).1),
        groups.flatMap fun group => (out group).2) := by
  induction groups with
  | nil => rfl
  | cons first rest ih =>
    have hrest := ih fun group hgroup => h group (List.mem_cons_of_mem _ hgroup)
    rw [resolveGroups_cons, h first List.mem_cons_self, hrest, List.map_cons, List.flatMap_cons]
    rfl

/-- Only registered rules are resolved, so storing the results adds no key. -/
theorem bound_of_resolve (h : ∀ group ∈ groups, r.resolve strict group = .ok (out group)) :
    ∀ key ∈ keysOf (groups.map fun group => (group.1, (out group).1)), key ∈ r.configs.keys := by
  intro key hkey
  rw [keysOf_map] at hkey
  obtain ⟨group, hgroup, rfl⟩ := List.mem_map.mp hkey
  exact mem_keys_of_resolve (h group hgroup)

theorem keys_applied (h : ∀ group ∈ groups, r.resolve strict group = .ok (out group)) :
    (r.applied out groups).configs.keys = r.configs.keys :=
  Table.keys_insertAll_of_mem (bound_of_resolve h)

/-- A rule that no group names keeps its configuration, so a call has no effect beyond the rules
that it names. -/
theorem get?_applied_of_not_mem (hnodup : (keysOf groups).Nodup) {id : String}
    (hid : id ∉ keysOf groups) :
    (r.applied out groups).configs.get? id = r.configs.get? id := by
  have hkeys := keysOf_map groups fun group => (out group).1
  have hnone : (groups.map fun group => (group.1, (out group).1)).lookup id = none := by
    rw [lookup_eq_none_iff_keysOf, hkeys]
    exact hid
  unfold applied
  rw [Table.get?_insertAll_of_nodup (hkeys.symm ▸ hnodup), hnone, Option.none_or]

/-- Groups of different rules may be written in any order. -/
theorem applied_perm {order : List (String × Table Value)} (hperm : order.Perm groups)
    (hnodup : (keysOf groups).Nodup)
    (h : ∀ group ∈ groups, r.resolve strict group = .ok (out group)) :
    r.applied out order = r.applied out groups := by
  have hkeys := keysOf_map groups fun group => (out group).1
  unfold applied
  rw [Table.insertAll_perm (hperm.map _) (hkeys.symm ▸ hnodup) (bound_of_resolve h)]

/-- Notes that are listed under their rules, in any order, are found in the order of the groups. -/
theorem notes_of_perm {order : List (String × Table Value)} (hperm : order.Perm groups)
    (hnodup : (keysOf groups).Nodup) :
    ((keysOf groups).flatMap fun id =>
      ((order.map fun group => (group.1, (out group).2)).lookup id).getD []) =
      groups.flatMap fun group => (out group).2 := by
  have hnodupOrder : (keysOf (order.map fun group => (group.1, (out group).2))).Nodup := by
    rw [keysOf_map]
    exact (hperm.map Prod.fst).nodup_iff.mpr hnodup
  unfold keysOf
  rw [List.flatMap_map]
  refine List.flatMap_congr fun group hgroup => ?_
  have hmem : (group.1, (out group).2) ∈ order.map fun group => (group.1, (out group).2) :=
    List.mem_map.mpr ⟨group, hperm.mem_iff.mpr hgroup, rfl⟩
  rw [lookup_of_mem hnodupOrder hmem, Option.getD_some]

end Outcomes

/-- Configuring one rule resolves one group and binds its configuration. -/
theorem configure_table (r : Registry) (strict : Bool) (ruleId : String)
    (entries : List (String × Value)) :
    r.configure ruleId (.table entries) strict = do
      let own ← r.resolve strict (ruleId, Table.ofList entries)
      return ({ r with configs := r.configs.insert ruleId own.1 }, own.2) := by
  have hsplit : splitOptions (Table.ofList [(ruleId, .table entries)]) =
      .ok (Table.ofList [(ruleId, Table.ofList entries)]) := rfl
  unfold configure configureMany
  rw [hsplit]
  show (do
    let result ← r.resolveGroups strict [(ruleId, Table.ofList entries)]
    return ({ r with configs := r.configs.insertAll result.1 }, result.2)) = _
  rw [resolveGroups_cons]
  cases r.resolve strict (ruleId, Table.ofList entries) with
  | error e => rfl
  | ok own =>
    show Except.ok (_, own.2 ++ []) = _
    rw [List.append_nil]
    rfl

end Registry

/-! ## 2. Calls that write step by step -/

namespace Kept

/-- What is left of a computation that is all or nothing: the new registry with the result, or the
old one with the error. -/
def settled {α : Type} (r : Registry) :
    Except Error (Registry × α) → EStateM.Result Error Registry α
  | .ok (changed, a) => .ok a changed
  | .error e => .error e r

/-- **A refusal leaves the registry as it was.** All calls are settled in this way, which is why one
lemma does for all. -/
theorem settled_error {α : Type} {r left : Registry} {x : Except Error (Registry × α)} {e : Error}
    (h : settled r x = .error e left) : left = r := by
  cases x with
  | error cause =>
    injection h with _ hleft
    exact hleft.symm
  | ok result => exact absurd h (by simp [settled])

theorem settled_eq_ok_iff {α : Type} {r left : Registry} {x : Except Error (Registry × α)} {a : α} :
    settled r x = .ok a left ↔ x = .ok (left, a) := by
  cases x with
  | error cause => simp [settled]
  | ok result =>
    obtain ⟨changed, b⟩ := result
    simp [settled, and_comm]

/-- Programs on a registry go on from what is left. -/
theorem bind_run {α β : Type} (x : Kept α) (next : α → Kept β) (r : Registry) :
    (x >>= next) r = match x r with
      | .ok a left => next a left
      | .error e left => .error e left := by
  show EStateM.bind x next r = _
  unfold EStateM.bind
  cases x r <;> rfl

/-- A step that does not touch the registry is looked at by itself. -/
theorem bind_lift {α β : Type} (x : Except Error α) (next : α → Kept β) (r : Registry) :
    (lift x >>= next) r = match x with
      | .ok a => next a r
      | .error e => .error e r := by
  cases x <;> rfl

theorem bind_lift_lift {α β γ : Type} (x : Except Error α) (f : α → Except Error β)
    (next : β → Kept γ) : (lift x >>= fun a => lift (f a) >>= next) = lift (x >>= f) >>= next := by
  cases x <;> rfl

/-- Each program is settled: it does what the pure function says or leaves all as it was. -/
theorem register_eq (ruleId : String) (d : RuleDefinition) (r : Registry) :
    register ruleId d r = settled r (do return (← r.register ruleId d, ())) := by
  unfold register Registry.register
  by_cases hid : ruleId ≠ d.ruleId
  · rw [if_pos hid, if_pos hid]
    rfl
  · rw [if_neg hid, if_neg hid]
    show (if ruleId ∈ r.ruleIds then _ else _ : Kept Unit) r = _
    by_cases hold : ruleId ∈ r.ruleIds
    · rw [if_pos hold, if_pos hold]
      rfl
    · rw [if_neg hold, if_neg hold]
      rfl

theorem reset_eq (ruleId : String) (r : Registry) :
    reset ruleId r = settled r (do return (← r.reset ruleId, ())) := by
  unfold reset Registry.reset
  show (lift (r.definition ruleId) >>= fun definition => putConfig ruleId definition.defaults) r = _
  rw [bind_lift]
  cases r.definition ruleId with
  | error e => rfl
  | ok definition => rfl

/-- Configurations are put in one by one, and this cannot fail. -/
theorem putConfigs_eq (updates : List (String × RuleConfig)) (r : Registry) :
    putConfigs updates r = .ok () { r with configs := r.configs.insertAll updates } := by
  induction updates generalizing r with
  | nil => rfl
  | cons update rest ih => exact ih { r with configs := r.configs.insert update.1 update.2 }

/-- Resolving writes nothing, and collects what resolving all groups at once leads to. -/
theorem resolveGroups_eq (strict : Bool) (groups : List (String × Table Value))
    (updates : Table RuleConfig) (notes : List Diagnostic) (r : Registry) :
    resolveGroups strict updates notes groups r =
      match r.resolveGroups strict groups with
      | .ok (configs, others) => .ok (updates.insertAll configs, notes ++ others) r
      | .error e => .error e r := by
  -- what was gathered so far grows along the list, so the statement is for all of it
  induction groups generalizing updates notes with
  | nil =>
    show EStateM.Result.ok (updates, notes) r = .ok (updates.insertAll [], notes ++ []) r
    rw [Table.insertAll_nil, List.append_nil]
  | cons group rest ih =>
    have hown : (r.get group.1 >>= fun rule =>
        resolveOptions rule.definition rule.config group.2 strict) = r.resolve strict group := rfl
    show (lift (r.get group.1) >>= fun rule =>
      lift (resolveOptions rule.definition rule.config group.2 strict) >>= fun own =>
        resolveGroups strict (updates.insert group.1 own.1) (notes ++ own.2) rest) r = _
    rw [bind_lift_lift, hown, bind_lift, Registry.resolveGroups_cons]
    cases r.resolve strict group with
    | error e => rfl
    | ok own =>
      show resolveGroups strict (updates.insert group.1 own.1) (notes ++ own.2) rest r = _
      rw [ih]
      cases r.resolveGroups strict rest with
      | error e => rfl
      | ok others =>
        show EStateM.Result.ok (_, notes ++ own.2 ++ others.2) r =
          .ok (_, notes ++ (own.2 ++ others.2)) r
        rw [List.append_assoc]
        rfl

/-- **Many rules at once.** The program first resolves all groups and then stores, so it never stops
halfway through storing. -/
theorem configureMany_eq (options : Table Value) (strict : Bool) (r : Registry) :
    configureMany options strict r = settled r (r.configureMany options strict) := by
  unfold configureMany Registry.configureMany
  rw [bind_lift]
  cases splitOptions options with
  | error e => rfl
  | ok grouped =>
    show (resolveGroups strict .empty [] grouped.entries >>= fun result =>
      putConfigs result.1.entries >>= fun _ => pure result.2) r =
        settled r (r.resolveGroups strict grouped.entries >>= fun result =>
          pure ({ r with configs := r.configs.insertAll result.1 }, result.2))
    rw [bind_run, resolveGroups_eq]
    cases hgroups : r.resolveGroups strict grouped.entries with
    | error e => rfl
    | ok result =>
      -- no rule has two groups, so the collected table lists the updates as they were made
      have hcollected : (Table.empty.insertAll result.1).entries = result.1 := by
        obtain ⟨out, hout⟩ := Registry.exists_outcomes (Registry.resolve_of_resolveGroups hgroups)
        have hresult := Except.ok.inj (hgroups.symm.trans (Registry.resolveGroups_eq_ok hout))
        have hkeys : keysOf result.1 = keysOf grouped.entries := by
          rw [hresult]
          exact keysOf_map grouped.entries fun group => (out group).1
        exact Table.entries_ofList (hkeys ▸ grouped.nodup)
      show (putConfigs (Table.empty.insertAll result.1).entries >>= fun _ =>
        pure ([] ++ result.2)) r = _
      rw [bind_run, hcollected, putConfigs_eq, List.nil_append]
      rfl

/-- Carries out a call, whatever it leads to. -/
def carryOut : RegistryCall → Kept Unit
  | .register ruleId d => register ruleId d
  | .configure ruleId options strict => do
    let _ ← configure ruleId options strict
  | .configureMany options strict => do
    let _ ← configureMany options strict
  | .reset ruleId => reset ruleId

/-- **Calls are all or nothing.** Carried out step by step, a call leaves behind what it leads to,
and if it is refused it leaves behind what it found. -/
theorem carryOut_eq (c : RegistryCall) (r : Registry) :
    carryOut c r = settled r (do return (← r.call c, ())) := by
  cases c with
  | register ruleId d => exact register_eq ruleId d r
  | reset ruleId => exact reset_eq ruleId r
  | configure ruleId options strict =>
    show (configureMany (Table.ofList [(ruleId, options)]) strict >>= fun _ => pure ()) r =
      settled r (do return (← (do
        return (← r.configureMany (Table.ofList [(ruleId, options)]) strict).1), ()))
    rw [bind_run, configureMany_eq]
    cases r.configureMany (Table.ofList [(ruleId, options)]) strict <;> rfl
  | configureMany options strict =>
    show (configureMany options strict >>= fun _ => pure ()) r =
      settled r (do return (← (do return (← r.configureMany options strict).1), ()))
    rw [bind_run, configureMany_eq]
    cases r.configureMany options strict <;> rfl

/-- The registry that is left, whether the call was accepted or refused. -/
def left {α : Type} : EStateM.Result Error Registry α → Registry
  | .ok _ r => r
  | .error _ r => r

/-- What a call leaves is what the history of the registry says. -/
theorem left_carryOut (c : RegistryCall) (r : Registry) : left (carryOut c r) = r.after c := by
  rw [carryOut_eq]
  unfold Registry.after
  cases r.call c <;> rfl

/-- A history of calls that write step by step is a history of calls. -/
theorem foldl_left_carryOut (calls : List RegistryCall) (r : Registry) :
    calls.foldl (fun r c => left (carryOut c r)) r = r.afterAll calls := by
  unfold Registry.afterAll
  simp only [left_carryOut]

/-! ## 3. One call, or one call each -/

/-- Configures rules one after another, by one call each, and lists the notes of each call under
its rule. -/
def configureEach (strict : Bool) :
    List (String × Table Value) → Kept (List (String × List Diagnostic))
  | [] => pure []
  | group :: rest => do
    let notes ← configure group.1 (.table group.2.entries) strict
    let others ← configureEach strict rest
    return (group.1, notes) :: others

theorem configure_eq (r : Registry) (strict : Bool) (group : String × Table Value) :
    configure group.1 (.table group.2.entries) strict r =
      match r.resolve strict group with
      | .ok own => .ok own.2 { r with configs := r.configs.insert group.1 own.1 }
      | .error e => .error e r := by
  have hcall : r.configureMany (Table.ofList [(group.1, .table group.2.entries)]) strict =
      r.configure group.1 (.table group.2.entries) strict := rfl
  unfold configure
  rw [configureMany_eq, hcall, Registry.configure_table, Table.ofList_entries]
  cases r.resolve strict group <;> rfl

/-- A call for one rule succeeds exactly if its options are resolved. -/
theorem configure_ok_iff {r : Registry} {strict : Bool} {group : String × Table Value} :
    (∃ notes left, configure group.1 (.table group.2.entries) strict r = .ok notes left) ↔
      ∃ own, r.resolve strict group = .ok own := by
  rw [configure_eq]
  cases r.resolve strict group with
  | error e => simp
  | ok own => simp

section Order

variable {r : Registry} {strict : Bool} {order : List (String × Table Value)}

/-- What was resolved before a call for another rule is resolved after it. -/
theorem resolve_rest {first : String × Table Value} {rest : List (String × Table Value)}
    (hnodup : (keysOf (first :: rest)).Nodup) (config : RuleConfig) :
    ∀ group ∈ rest,
      Registry.resolve { r with configs := r.configs.insert first.1 config } strict group =
        r.resolve strict group := by
  intro group hgroup
  apply Registry.resolve_insert_of_ne
  intro heq
  have hnew : first.1 ∉ keysOf rest := (List.nodup_cons.mp hnodup).1
  exact hnew (heq ▸ List.mem_map.mpr ⟨group, hgroup, rfl⟩)

/-- Calls for different rules all succeed if each would on its own, and what they leave behind is
what one call would. -/
theorem configureEach_eq_ok {out : String × Table Value → RuleConfig × List Diagnostic}
    (hnodup : (keysOf order).Nodup)
    (h : ∀ group ∈ order, r.resolve strict group = .ok (out group)) :
    configureEach strict order r =
      .ok (order.map fun group => (group.1, (out group).2)) (r.applied out order) := by
  induction order generalizing r with
  | nil => rfl
  | cons first rest ih =>
    have hrest : ∀ group ∈ rest, Registry.resolve
        { r with configs := r.configs.insert first.1 (out first).1 } strict group =
          .ok (out group) := by
      intro group hgroup
      rw [resolve_rest hnodup _ group hgroup]
      exact h group (List.mem_cons_of_mem _ hgroup)
    rw [configureEach, bind_run, configure_eq, h first List.mem_cons_self]
    dsimp only
    rw [bind_run, ih (List.nodup_cons.mp hnodup).2 hrest]
    rfl

/-- Conversely, if the calls all succeed in some order then each would on its own. -/
theorem resolve_of_configureEach {each : List (String × List Diagnostic)} {left : Registry}
    (hnodup : (keysOf order).Nodup) (h : configureEach strict order r = .ok each left) :
    ∀ group ∈ order, ∃ own, r.resolve strict group = .ok own := by
  -- every call leaves another registry, so the induction is for all of them
  induction order generalizing r each left with
  | nil => exact fun _ hmem => absurd hmem List.not_mem_nil
  | cons first rest ih =>
    rw [configureEach, bind_run, configure_eq] at h
    cases hfirst : r.resolve strict first with
    | error e =>
      rw [hfirst] at h
      exact absurd h (by simp)
    | ok own =>
      rw [hfirst] at h
      dsimp only at h
      rw [bind_run] at h
      cases hrest : configureEach strict rest
          { r with configs := r.configs.insert first.1 own.1 } with
      | error e stopped =>
        rw [hrest] at h
        exact absurd h (by simp)
      | ok others done =>
        intro group hgroup
        rcases List.mem_cons.mp hgroup with rfl | hlater
        · exact ⟨own, hfirst⟩
        -- the first call stored one rule only, so the later ones resolve as they would have before
        · have hown := ih (List.nodup_cons.mp hnodup).2 hrest group hlater
          rwa [resolve_rest hnodup _ group hlater] at hown

end Order

/-- One call succeeds exactly if the options can be grouped and each group is resolved. -/
theorem configureMany_ok_iff {r : Registry} {options : Table Value} {strict : Bool} :
    (∃ notes left, configureMany options strict r = .ok notes left) ↔
      ∃ grouped, splitOptions options = .ok grouped ∧
        ∀ group ∈ grouped.entries, ∃ own, r.resolve strict group = .ok own := by
  simp only [configureMany_eq, settled_eq_ok_iff]
  unfold Registry.configureMany
  constructor
  · rintro ⟨notes, left, h⟩
    obtain ⟨grouped, hgrouped, h⟩ := bind_ok_iff.mp h
    obtain ⟨result, hresult, -⟩ := bind_ok_iff.mp h
    exact ⟨grouped, hgrouped, Registry.resolve_of_resolveGroups hresult⟩
  · rintro ⟨grouped, hgrouped, hall⟩
    obtain ⟨out, hout⟩ := Registry.exists_outcomes hall
    rw [hgrouped]
    exact ⟨_, _, bind_ok_iff.mpr ⟨_, rfl, bind_ok_iff.mpr
      ⟨_, Registry.resolveGroups_eq_ok hout, rfl⟩⟩⟩

/-- The result of one call, given what each group leads to. -/
theorem configureMany_eq_ok {r : Registry} {options : Table Value} {strict : Bool}
    {grouped : Table (Table Value)} {out : String × Table Value → RuleConfig × List Diagnostic}
    (hgrouped : splitOptions options = .ok grouped)
    (h : ∀ group ∈ grouped.entries, r.resolve strict group = .ok (out group)) :
    configureMany options strict r =
      .ok (grouped.entries.flatMap fun group => (out group).2) (r.applied out grouped.entries) := by
  rw [configureMany_eq, settled_eq_ok_iff]
  unfold Registry.configureMany
  rw [hgrouped]
  exact bind_ok_iff.mpr ⟨_, rfl, bind_ok_iff.mpr ⟨_, Registry.resolveGroups_eq_ok h, rfl⟩⟩

/-- **All or nothing.** Take any registry and any options, in strict mode or not, and configure
several rules by one call.

* If the call is refused, the registry that is left is the one it found.
* If it is accepted, the definitions, the order of the rules and the configurations of all rules
  that are not named stay as they are. One call for each group of options, in any order, leaves the
  same registry behind, and the notes are those of these calls, in the order of the groups.
* It is accepted exactly if the options can be grouped and a call for each group alone is accepted.
  If calls for the groups one after another, in any order, are accepted, then so is the one call.

A registration that is refused leaves the registry as it found it, too. -/
theorem configureMany_all_or_nothing (r : Registry) (options : Table Value) (strict : Bool) :
    (∀ e left, configureMany options strict r = .error e left → left = r) ∧
      (∀ notes left, configureMany options strict r = .ok notes left →
        ∃ grouped, splitOptions options = .ok grouped ∧
          left.definitions = r.definitions ∧ left.configs.keys = r.configs.keys ∧
          (∀ id, id ∉ grouped.keys → left.configs.get? id = r.configs.get? id) ∧
          ∀ order, order.Perm grouped.entries →
            ∃ each, configureEach strict order r = .ok each left ∧
              notes = grouped.keys.flatMap fun id => (each.lookup id).getD []) ∧
      ((∃ notes left, configureMany options strict r = .ok notes left) ↔
        ∃ grouped, splitOptions options = .ok grouped ∧
          ∀ group ∈ grouped.entries, ∃ notes left,
            configure group.1 (.table group.2.entries) strict r = .ok notes left) ∧
      (∀ grouped order each left, splitOptions options = .ok grouped →
        order.Perm grouped.entries → configureEach strict order r = .ok each left →
          ∃ notes left, configureMany options strict r = .ok notes left) ∧
      ∀ ruleId d e left, register ruleId d r = .error e left → left = r := by
  refine ⟨?_, ?_, ?_, ?_, ?_⟩
  · intro e left h
    rw [configureMany_eq] at h
    exact settled_error h
  · intro notes left h
    obtain ⟨grouped, hgrouped, hall⟩ := configureMany_ok_iff.mp ⟨notes, left, h⟩
    obtain ⟨out, hout⟩ := Registry.exists_outcomes hall
    rw [configureMany_eq_ok hgrouped hout] at h
    injection h with hnotes hleft
    rw [← hnotes, ← hleft]
    refine ⟨grouped, hgrouped, rfl, Registry.keys_applied hout, ?_, ?_⟩
    · intro id hid
      exact Registry.get?_applied_of_not_mem grouped.nodup hid
    · intro order horder
      have hnodupOrder : (keysOf order).Nodup := (horder.map Prod.fst).nodup_iff.mpr grouped.nodup
      have heach := configureEach_eq_ok hnodupOrder fun group hgroup =>
        hout group (horder.mem_iff.mp hgroup)
      rw [Registry.applied_perm horder grouped.nodup hout] at heach
      exact ⟨_, heach, (Registry.notes_of_perm horder grouped.nodup).symm⟩
  · simp only [configureMany_ok_iff, configure_ok_iff]
  · intro grouped order each left hgrouped horder heach
    have hnodupOrder : (keysOf order).Nodup := (horder.map Prod.fst).nodup_iff.mpr grouped.nodup
    have hall := resolve_of_configureEach hnodupOrder heach
    exact configureMany_ok_iff.mpr ⟨grouped, hgrouped, fun group hgroup =>
      hall group (horder.mem_iff.mpr hgroup)⟩
  · intro ruleId d e left h
    rw [register_eq] at h
    exact settled_error h

/-- Options for two rules, one of which does not know all of its options. -/
def sampleOptions : Table Value :=
  Table.ofList [("max-call-chain.threshold", .int 4),
    ("no-abbreviation", .table [("min_length", .int 2), ("colour", .text "red")])]

/-- Outside strict mode the options are accepted, with a note, and one call each in reverse order
leads to the same registry; in strict mode they are refused and leave no trace. -/
theorem configureMany_all_or_nothing_sample :
    (∃ notes left grouped each,
      configureMany sampleOptions false Registry.builtin = .ok notes left ∧
      notes.map (·.option) = ["colour"] ∧ splitOptions sampleOptions = .ok grouped ∧
      configureEach false grouped.entries.reverse Registry.builtin = .ok each left) ∧
      ∃ e, configureMany sampleOptions true Registry.builtin = .error e Registry.builtin := by
  obtain ⟨-, haccepted, -⟩ := configureMany_all_or_nothing Registry.builtin sampleOptions false
  obtain ⟨hrefused, -⟩ := configureMany_all_or_nothing Registry.builtin sampleOptions true
  constructor
  · have hnotes : (match configureMany sampleOptions false Registry.builtin with
      | .ok notes _ => notes.map (·.option)
      | .error _ _ => []) = ["colour"] := by decide +kernel
    cases h : configureMany sampleOptions false Registry.builtin with
    | error e left =>
      rw [h] at hnotes
      exact absurd hnotes (by simp)
    | ok notes left =>
      rw [h] at hnotes
      obtain ⟨grouped, hgrouped, -, -, -, horder⟩ := haccepted notes left h
      obtain ⟨each, heach, -⟩ := horder grouped.entries.reverse (List.reverse_perm _)
      exact ⟨notes, left, grouped, each, rfl, hnotes, hgrouped, heach⟩
  · have hfails : (match configureMany sampleOptions true Registry.builtin with
      | .ok _ _ => false
      | .error _ _ => true) = true := by decide +kernel
    cases h : configureMany sampleOptions true Registry.builtin with
    | ok notes left =>
      rw [h] at hfails
      exact absurd hfails (by simp)
    | error e left =>
      rw [hrefused e left h]
      exact ⟨e, rfl⟩

end Kept

end Conformance
