import Conformance.Proofs.Grouping
import Conformance.Proofs.Precedence

/-!
# Strict and lenient configuration

In strict mode an option that a rule does not have is refused; otherwise it is noted and ignored.
This file proves that this is the only difference between the two modes. A strict call is accepted
exactly if a lenient one is accepted and notes nothing, and both lead to the same registry
(`Registry.configureMany_strict_iff`).

The notes of a lenient call are about exactly the options that their rules do not have, and these
options might as well have been left out. For one group this is a matter of look-ups: options are
settled by what is given under the names of the rule, and these are kept. For all groups together
there is a difference to bridge, because a rule may lose its only mention. Such a rule keeps its
configuration in both cases: its group has become empty, and an empty group changes nothing.
-/

set_option autoImplicit false

namespace Conformance

namespace RuleDefinition

/-- Without options everything stays as it is. -/
theorem settles_empty (d : RuleDefinition) (current : RuleConfig) :
    d.Settles current .empty current := by
  have hchosen : d.chosen .empty = none := by
    unfold chosen
    split <;> rfl
  have hpreset : ∀ name, d.preset .empty name = none := by
    intro name
    unfold preset
    rw [hchosen]
  refine ⟨rfl, rfl, ?_, rfl, ?_, ?_⟩
  · rw [hchosen, Option.none_or]
  · intro name _ _
    rw [hpreset, Table.get?_empty, Option.none_or, Option.none_or]
  · intro name _ _
    rw [hpreset, Option.none_or]

theorem takes_of_accepts {d : RuleDefinition} {strict : Bool} {entry : String × Value}
    (h : d.Accepts strict entry) (hknown : entry.1 ∈ d.options) : d.Takes entry.1 entry.2 := by
  rcases h with htakes | ⟨-, hunknown⟩
  · exact htakes
  · exact absurd hknown hunknown

end RuleDefinition

namespace Registry

variable {r : Registry}

/-! ## 1. One group of options -/

/-- Whether the rule of an identifier has an option. -/
def knows (r : Registry) (ruleId option : String) : Bool :=
  (r.definitions.get? ruleId).any fun d => option ∈ d.options

theorem knows_iff (hr : r.Sound) {ruleId : String} {rule : ConfiguredRule}
    (hrule : r.get ruleId = .ok rule) {option : String} :
    r.knows ruleId option = true ↔ option ∈ rule.definition.options := by
  unfold knows
  rw [(hr.get hrule).1, Option.any_some, decide_eq_true_eq]

theorem ruleId_of_get (hr : r.Sound) {ruleId : String} {rule : ConfiguredRule}
    (hrule : r.get ruleId = .ok rule) : rule.definition.ruleId = ruleId :=
  (hr.ownIds _ (Table.mem_of_get? (hr.get hrule).1)).symm

/-- A group is resolved exactly if its rule is registered, accepts the options, and the options
settle the configuration. -/
theorem resolve_eq_ok_iff (hr : r.Sound) {strict : Bool} {group : String × Table Value}
    {config : RuleConfig} {notes : List Diagnostic} :
    r.resolve strict group = .ok (config, notes) ↔
      ∃ rule, r.get group.1 = .ok rule ∧
        (∀ entry ∈ group.2.entries, rule.definition.Accepts strict entry) ∧
        rule.definition.Settles rule.config group.2 config ∧
        notes = (group.2.entries.filter fun entry => entry.1 ∉ rule.definition.options).map
          fun entry => Choices.ignored rule.definition entry.1 := by
  unfold resolve
  rw [bind_ok_iff]
  constructor
  · rintro ⟨rule, hrule, h⟩
    exact ⟨rule, hrule, (resolveOptions_eq_ok_iff (hr.get hrule).2).mp h⟩
  · rintro ⟨rule, hrule, h⟩
    exact ⟨rule, hrule, (resolveOptions_eq_ok_iff (hr.get hrule).2).mpr h⟩

/-- **The two modes, one group.** Strict mode accepts what lenient mode accepts without a note. -/
theorem resolve_strict_iff (hr : r.Sound) {group : String × Table Value} {config : RuleConfig}
    {notes : List Diagnostic} :
    r.resolve true group = .ok (config, notes) ↔
      notes = [] ∧ r.resolve false group = .ok (config, []) := by
  rw [resolve_eq_ok_iff hr, resolve_eq_ok_iff hr]
  constructor
  · rintro ⟨rule, hrule, haccepts, hsettles, rfl⟩
    -- what is accepted in strict mode is taken, so the rule has the option
    have htakes : ∀ entry ∈ group.2.entries, rule.definition.Takes entry.1 entry.2 := by
      intro entry hentry
      rcases haccepts entry hentry with htakes | ⟨hlenient, -⟩
      · exact htakes
      · exact absurd hlenient (by decide)
    have hnone : (group.2.entries.filter fun entry => entry.1 ∉ rule.definition.options) = [] := by
      rw [List.filter_eq_nil_iff]
      intro entry hentry
      simpa using (htakes entry hentry).mem_options
    refine ⟨?_, rule, hrule, fun entry hentry => .inl (htakes entry hentry), hsettles, ?_⟩
    · rw [hnone, List.map_nil]
    · rw [hnone, List.map_nil]
  · rintro ⟨rfl, rule, hrule, haccepts, hsettles, hnotes⟩
    have hknown : ∀ entry ∈ group.2.entries, entry.1 ∈ rule.definition.options := by
      have hnone := List.filter_eq_nil_iff.mp (List.map_eq_nil_iff.mp hnotes.symm)
      intro entry hentry
      simpa using hnone entry hentry
    refine ⟨rule, hrule, fun entry hentry => ?_, hsettles, hnotes⟩
    exact .inl (RuleDefinition.takes_of_accepts (haccepts entry hentry) (hknown entry hentry))

/-- The options of a group that its rule does not have, each with the rule. -/
def unknownOptions (r : Registry) (group : String × Table Value) : List (String × String) :=
  (group.2.keys.filter fun option => !r.knows group.1 option).map fun option => (group.1, option)

/-- **The notes of one group.** There is one for each option that the rule does not have, in the
order in which they were given. -/
theorem notes_of_resolve (hr : r.Sound) {strict : Bool} {group : String × Table Value}
    {config : RuleConfig} {notes : List Diagnostic}
    (h : r.resolve strict group = .ok (config, notes)) :
    notes.map (fun note => (note.ruleId, note.option)) = r.unknownOptions group := by
  obtain ⟨rule, hrule, -, -, rfl⟩ := (resolve_eq_ok_iff hr).mp h
  have hunknown : ∀ entry ∈ group.2.entries,
      (decide (entry.1 ∉ rule.definition.options)) = !r.knows group.1 entry.1 := by
    intro entry _
    rw [Bool.eq_iff_iff, decide_eq_true_eq, Bool.not_eq_true', ← Bool.not_eq_true,
      knows_iff hr hrule]
  have hnote : ∀ entry : String × Value,
      ((Choices.ignored rule.definition entry.1).ruleId,
        (Choices.ignored rule.definition entry.1).option) = (group.1, entry.1) := by
    intro entry
    rw [← ruleId_of_get hr hrule]
    rfl
  unfold unknownOptions Table.keys keysOf
  rw [List.map_map, List.filter_map, List.map_map, List.filter_congr hunknown]
  exact List.map_congr_left fun entry _ => hnote entry

/-- **What is ignored might be left out.** A group that is resolved is resolved without the options
that its rule does not have, in either mode, to the same configuration. -/
theorem resolve_restrict (hr : r.Sound) {group : String × Table Value} {config : RuleConfig}
    {notes : List Diagnostic} (h : r.resolve false group = .ok (config, notes)) (strict : Bool) :
    r.resolve strict (group.1, group.2.restrict (r.knows group.1)) = .ok (config, []) := by
  obtain ⟨rule, hrule, haccepts, hsettles, -⟩ := (resolve_eq_ok_iff hr).mp h
  have hkept : ∀ entry ∈ (group.2.restrict (r.knows group.1)).entries,
      entry ∈ group.2.entries ∧ entry.1 ∈ rule.definition.options := by
    intro entry hentry
    obtain ⟨hmem, hknows⟩ := List.mem_filter.mp hentry
    exact ⟨hmem, (knows_iff hr hrule).mp hknows⟩
  refine (resolve_eq_ok_iff hr).mpr ⟨rule, hrule, ?_, ?_, ?_⟩
  · intro entry hentry
    obtain ⟨hmem, hknown⟩ := hkept entry hentry
    exact .inl (RuleDefinition.takes_of_accepts (haccepts entry hmem) hknown)
  · -- the names of the rule are kept, and nothing else counts
    refine hsettles.congr (fun name hname => ?_) (hr.get hrule).2
    exact Table.get?_restrict ((knows_iff hr hrule).mpr hname)
  · symm
    rw [List.map_eq_nil_iff, List.filter_eq_nil_iff]
    intro entry hentry
    simpa using (hkept entry hentry).2

/-- A group without options leads to the configuration that is there. -/
theorem get?_of_resolve_empty (hr : r.Sound) {strict : Bool} {ruleId : String} {config : RuleConfig}
    {notes : List Diagnostic} (h : r.resolve strict (ruleId, .empty) = .ok (config, notes)) :
    r.configs.get? ruleId = some config := by
  obtain ⟨rule, hrule, -⟩ := (resolve_eq_ok_iff hr).mp h
  have hnothing : r.resolve strict (ruleId, .empty) = .ok (rule.config, []) :=
    (resolve_eq_ok_iff hr).mpr ⟨rule, hrule, fun _ hmem => absurd hmem List.not_mem_nil,
      rule.definition.settles_empty rule.config, rfl⟩
  have hconfig : config = rule.config :=
    (Prod.mk.inj (Except.ok.inj (h.symm.trans hnothing))).1
  rw [hconfig]
  obtain ⟨d, -, hrule⟩ := bind_ok_iff.mp hrule
  obtain ⟨c, hc, hrule⟩ := bind_ok_iff.mp hrule
  rw [← Except.ok.inj hrule]
  exact get?_of_config hc

/-! ## 2. All groups -/

/-- The two modes, all groups. -/
theorem resolveGroups_strict_iff (hr : r.Sound) {groups : List (String × Table Value)}
    {configs : List (String × RuleConfig)} {notes : List Diagnostic} :
    r.resolveGroups true groups = .ok (configs, notes) ↔
      notes = [] ∧ r.resolveGroups false groups = .ok (configs, []) := by
  induction groups generalizing configs notes with
  | nil =>
    show Except.ok ([], []) = Except.ok (configs, notes) ↔
      notes = [] ∧ Except.ok ([], []) = Except.ok (configs, [])
    simp [eq_comm, and_comm]
  | cons group rest ih =>
    rw [resolveGroups_cons, resolveGroups_cons, bind_ok_iff, bind_ok_iff]
    constructor
    · rintro ⟨⟨config, own⟩, hown, h⟩
      obtain ⟨⟨others, later⟩, hlater, h⟩ := bind_ok_iff.mp h
      obtain ⟨rfl, hownLenient⟩ := (resolve_strict_iff hr).mp hown
      obtain ⟨rfl, hlaterLenient⟩ := ih.mp hlater
      obtain ⟨rfl, rfl⟩ := Prod.mk.inj (Except.ok.inj h)
      exact ⟨rfl, (config, []), hownLenient,
        bind_ok_iff.mpr ⟨(others, []), hlaterLenient, rfl⟩⟩
    · rintro ⟨rfl, ⟨config, own⟩, hown, h⟩
      obtain ⟨⟨others, later⟩, hlater, h⟩ := bind_ok_iff.mp h
      -- no notes in all means none from the first group and none from the rest
      obtain ⟨rfl, hnotes⟩ := Prod.mk.inj (Except.ok.inj h)
      obtain ⟨rfl, rfl⟩ := List.append_eq_nil_iff.mp hnotes
      exact ⟨(config, []), (resolve_strict_iff hr).mpr ⟨rfl, hown⟩,
        bind_ok_iff.mpr ⟨(others, []), ih.mpr ⟨rfl, hlater⟩, rfl⟩⟩

/-- **The two modes.** A strict call is accepted exactly if a lenient one is accepted without a
note, and both lead to the same registry. -/
theorem configureMany_strict_iff (hr : r.Sound) {options : Table Value} {changed : Registry}
    {notes : List Diagnostic} :
    r.configureMany options true = .ok (changed, notes) ↔
      notes = [] ∧ r.configureMany options false = .ok (changed, []) := by
  unfold configureMany
  rw [bind_ok_iff, bind_ok_iff]
  constructor
  · rintro ⟨grouped, hgrouped, h⟩
    obtain ⟨⟨configs, found⟩, hresolved, h⟩ := bind_ok_iff.mp h
    obtain ⟨rfl, hlenient⟩ := (resolveGroups_strict_iff hr).mp hresolved
    obtain ⟨rfl, rfl⟩ := Prod.mk.inj (Except.ok.inj h)
    exact ⟨rfl, grouped, hgrouped, bind_ok_iff.mpr ⟨(configs, []), hlenient, rfl⟩⟩
  · rintro ⟨rfl, grouped, hgrouped, h⟩
    obtain ⟨⟨configs, found⟩, hresolved, h⟩ := bind_ok_iff.mp h
    obtain ⟨rfl, rfl⟩ := Prod.mk.inj (Except.ok.inj h)
    exact ⟨grouped, hgrouped, bind_ok_iff.mpr
      ⟨(configs, []), (resolveGroups_strict_iff hr).mpr ⟨rfl, hresolved⟩, rfl⟩⟩

/-- A call is accepted exactly if the options can be grouped and each group is resolved; `out` says
what each group leads to. -/
theorem configureMany_eq_ok_iff {options : Table Value} {strict : Bool} {changed : Registry}
    {notes : List Diagnostic} :
    r.configureMany options strict = .ok (changed, notes) ↔
      ∃ (grouped : Table (Table Value)) (out : String × Table Value → RuleConfig × List Diagnostic),
        splitOptions options = .ok grouped ∧
        (∀ group ∈ grouped.entries, r.resolve strict group = .ok (out group)) ∧
        changed = r.applied out grouped.entries ∧
        notes = grouped.entries.flatMap fun group => (out group).2 := by
  unfold configureMany
  rw [bind_ok_iff]
  constructor
  · rintro ⟨grouped, hgrouped, h⟩
    obtain ⟨result, hresolved, h⟩ := bind_ok_iff.mp h
    obtain ⟨out, hout⟩ := exists_outcomes (resolve_of_resolveGroups hresolved)
    rw [resolveGroups_eq_ok hout] at hresolved
    obtain ⟨rfl, rfl⟩ := Prod.mk.inj (Except.ok.inj h)
    rw [← Except.ok.inj hresolved]
    exact ⟨grouped, out, hgrouped, hout, rfl, rfl⟩
  · rintro ⟨grouped, out, hgrouped, hout, rfl, rfl⟩
    exact ⟨grouped, hgrouped, bind_ok_iff.mpr ⟨_, resolveGroups_eq_ok hout, rfl⟩⟩

/-- A rule has the configuration of its group, or the one it had. -/
theorem get?_applied {out : String × Table Value → RuleConfig × List Diagnostic}
    (grouped : Table (Table Value)) (id : String) :
    (r.applied out grouped.entries).configs.get? id =
      ((grouped.get? id).map fun options => (out (id, options)).1).or (r.configs.get? id) := by
  have hnodup : (keysOf (grouped.entries.map fun group => (group.1, (out group).1))).Nodup := by
    rw [keysOf_map]
    exact grouped.nodup
  unfold applied
  rw [Table.get?_insertAll_of_nodup hnodup, lookup_map]
  rfl

/-! ## 3. Leaving out what is ignored -/

/-- Options without those that their rules do not have. -/
def withoutUnknown (r : Registry) (options : Table Value) : Table Value := prune r.knows options

section Ignored

variable {grouped pruned : Table (Table Value)}
  {out : String × Table Value → RuleConfig × List Diagnostic}

/-- What is kept of a group leads to the configuration that the group leads to. -/
theorem resolve_pruned (hr : r.Sound) (hprunes : Prunes r.knows grouped pruned)
    (hout : ∀ group ∈ grouped.entries, r.resolve false group = .ok (out group)) (strict : Bool)
    {id : String} (hid : id ∈ grouped.keys) :
    r.resolve strict (id, groupOf pruned id) = .ok ((out (id, groupOf grouped id)).1, []) := by
  obtain ⟨options, hoptions⟩ := Table.exists_get?_of_mem_keys hid
  have hgroup : (id, options) ∈ grouped.entries := Table.mem_of_get? hoptions
  have hown : groupOf grouped id = options := groupOf_of_mem hgroup
  rw [hprunes.groups id, hown]
  exact resolve_restrict hr (hout (id, options) hgroup) strict

/-- **Groups without what is ignored.** They are resolved without a note, and lead to the same
registry. -/
theorem applied_pruned (hr : r.Sound) (hprunes : Prunes r.knows grouped pruned)
    (hout : ∀ group ∈ grouped.entries, r.resolve false group = .ok (out group)) (strict : Bool) :
    ∃ out', (∀ group ∈ pruned.entries, r.resolve strict group = .ok (out' group)) ∧
      (∀ group, (out' group).2 = []) ∧
      r.applied out' pruned.entries = r.applied out grouped.entries := by
  have hresolved : ∀ group ∈ pruned.entries, r.resolve strict group =
      .ok ((out (group.1, groupOf grouped group.1)).1, []) := by
    intro group hgroup
    have hid : group.1 ∈ grouped.keys :=
      hprunes.keys group.1 (List.mem_map.mpr ⟨group, hgroup, rfl⟩)
    have hkept := resolve_pruned hr hprunes hout strict hid
    rwa [groupOf_of_mem hgroup] at hkept
  refine ⟨fun group => ((out (group.1, groupOf grouped group.1)).1, []), hresolved,
    fun _ => rfl, ?_⟩
  have hconfigs : (r.applied (fun group => ((out (group.1, groupOf grouped group.1)).1, []))
      pruned.entries).configs = (r.applied out grouped.entries).configs := by
    apply Table.ext_get?
    · rw [keys_applied hresolved, keys_applied hout]
    · intro id
      rw [get?_applied, get?_applied]
      cases hgrouped : grouped.get? id with
      | none =>
        -- a rule that is not mentioned is not mentioned in what is kept
        have hpruned : pruned.get? id = none := by
          rw [Table.get?_eq_none_iff] at hgrouped ⊢
          exact fun hmem => hgrouped (hprunes.keys id hmem)
        rw [hpruned]
        rfl
      | some options =>
        have hmem : (id, options) ∈ grouped.entries := Table.mem_of_get? hgrouped
        have hown : groupOf grouped id = options := groupOf_of_mem hmem
        rw [Option.map_some, Option.some_or]
        cases hpruned : pruned.get? id with
        | some left =>
          rw [Option.map_some, Option.some_or, hown]
        | none =>
          -- a rule that is mentioned no more has an empty group left
          have hempty : groupOf pruned id = .empty :=
            groupOf_of_not_mem (Table.get?_eq_none_iff.mp hpruned)
          have hkept := resolve_pruned hr hprunes hout strict (Table.mem_keys_of_get? hgrouped)
          rw [hempty, hown] at hkept
          rw [Option.map_none, Option.none_or]
          exact get?_of_resolve_empty hr hkept
  exact congrArg (fun configs => { r with configs := configs }) hconfigs

end Ignored

/-- **Strict and lenient configuration agree.** Take a registry after any calls, and any options.

* A strict call is accepted exactly if a lenient call is accepted without a note, and then both lead
  to the same registry.
* If a lenient call is accepted, its notes are about exactly the options that their rules do not
  have, in the order of the groups and of the options in each group, and each is for information
  only. Without these options a call is accepted in either mode, has no notes, and leads to the same
  registry. -/
theorem strict_and_lenient_agree {r : Registry} (hr : r.Reachable) (options : Table Value) :
    (∀ changed notes, r.configureMany options true = .ok (changed, notes) ↔
      notes = [] ∧ r.configureMany options false = .ok (changed, [])) ∧
      ∀ changed notes, r.configureMany options false = .ok (changed, notes) →
        (∃ grouped, splitOptions options = .ok grouped ∧
          notes.map (fun note => (note.ruleId, note.option)) =
            grouped.entries.flatMap r.unknownOptions) ∧
        (∀ note ∈ notes, note.severity = .info) ∧
        ∀ strict, r.configureMany (r.withoutUnknown options) strict = .ok (changed, []) := by
  have hsound : r.Sound := hr.sound
  refine ⟨fun changed notes => configureMany_strict_iff hsound, ?_⟩
  intro changed notes h
  obtain ⟨grouped, out, hgrouped, hout, rfl, rfl⟩ := configureMany_eq_ok_iff.mp h
  refine ⟨⟨grouped, hgrouped, ?_⟩, fun _ _ => rfl, ?_⟩
  · rw [List.map_flatMap]
    exact List.flatMap_congr fun group hgroup => notes_of_resolve hsound (hout group hgroup)
  · intro strict
    obtain ⟨pruned, hpruned, hprunes⟩ := splitOptions_prune hgrouped
    obtain ⟨out', hout', hnotes, happlied⟩ := applied_pruned hsound hprunes hout strict
    refine configureMany_eq_ok_iff.mpr ⟨pruned, out', hpruned, hout', happlied.symm, ?_⟩
    symm
    rw [List.flatMap_eq_nil_iff]
    exact fun group _ => hnotes group

/-- Options for two rules. The first rule has none of those that are given for it. -/
def sampleMixture : Table Value :=
  Table.ofList [("max-call-chain.colour", .text "red"),
    ("no-abbreviation", .table [("min_length", .int 2), ("colour", .text "red")])]

/-- A lenient call notes two options, a strict one is refused, and without the two options a strict
one leads to the registry of the lenient one. -/
theorem strict_and_lenient_agree_sample :
    (∃ changed notes, builtin.configureMany sampleMixture false = .ok (changed, notes) ∧
      notes.map (fun note => (note.ruleId, note.option)) =
        [("max-call-chain", "colour"), ("no-abbreviation", "colour")] ∧
      builtin.configureMany (builtin.withoutUnknown sampleMixture) true = .ok (changed, [])) ∧
      ∀ result, builtin.configureMany sampleMixture true ≠ .ok result := by
  obtain ⟨hmodes, hlenient⟩ := strict_and_lenient_agree reachable_builtin sampleMixture
  have hpairs : (match builtin.configureMany sampleMixture false with
    | .ok (_, notes) => notes.map fun note => (note.ruleId, note.option)
    | .error _ => []) = [("max-call-chain", "colour"), ("no-abbreviation", "colour")] := by
    decide +kernel
  cases h : builtin.configureMany sampleMixture false with
  | error e =>
    rw [h] at hpairs
    exact absurd hpairs (by simp)
  | ok result =>
    obtain ⟨changed, notes⟩ := result
    rw [h] at hpairs
    obtain ⟨-, -, hwithout⟩ := hlenient changed notes h
    refine ⟨⟨changed, notes, rfl, hpairs, hwithout true⟩, ?_⟩
    rintro ⟨strictly, found⟩ hstrict
    obtain ⟨-, hquiet⟩ := (hmodes strictly found).mp hstrict
    have hnotes : notes = [] := (Prod.mk.inj (Except.ok.inj (h.symm.trans hquiet))).2
    rw [hnotes] at hpairs
    exact absurd hpairs (by simp)

end Registry

end Conformance
