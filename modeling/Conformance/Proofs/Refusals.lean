import Conformance.Proofs.RuleReports
import Conformance.Proofs.Strictness

/-!
# Why options are refused

Three errors are documented for configuring rules: there is no such rule, the rule has no such
option, the option does not take this value. This file says exactly when each of them is raised,
and what else can happen (`Registry.refusals_explained`).

Groups of options are resolved in order, and the options of a group are read in order. So the first
group that cannot be applied decides on the error, and in it the first option that is not accepted.
Which error that is would be clear, were it not that an error checks its own arguments: one about a
rule or an option without a name cannot be made, and something else is raised in its place. The same
happens where a refused value has no text to quote, as a whole number of too many digits has none.

If all options of a group are accepted there is one thing left to go wrong. The values that a
profile sets are not looked at when the rule is made, and the configuration refuses them if they are
not natural numbers. No built-in rule has such a profile, but a rule that is registered later may.
-/

set_option autoImplicit false

namespace Conformance

/-- Steps one after the other fail in the first that fails. -/
theorem bind_error_iff {α β : Type} {step : Except Error α} {next : α → Except Error β}
    {e : Error} :
    step >>= next = .error e ↔ step = .error e ∨ ∃ a, step = .ok a ∧ next a = .error e := by
  cases step with
  | error cause => simp [bind, Except.bind]
  | ok a => simp [bind, Except.bind]

/-! ## 1. Values that a configuration refuses -/

namespace RuleConfig

/-- A refusal of thresholds is that of one of them. -/
theorem checkEntries_eq_error {entries : List (String × Value)} {e : Error}
    (h : checkEntries entries = .error e) :
    ∃ entry ∈ entries, checkThreshold entry.1 entry.2 = .error e := by
  induction entries with
  | nil => cases h
  | cons first rest ih =>
    rw [checkEntries] at h
    rcases bind_error_iff.mp h with hfirst | ⟨n, -, h⟩
    · exact ⟨first, List.mem_cons_self, hfirst⟩
    · rcases bind_error_iff.mp h with hrest | ⟨checked, -, h⟩
      · obtain ⟨entry, hentry, hcheck⟩ := ih hrest
        exact ⟨entry, List.mem_cons_of_mem _ hentry, hcheck⟩
      · cases h

/-- Changes are refused for a merged threshold that is no natural number. -/
theorem withChanges_eq_error {c : RuleConfig} {enabled : Option Bool} {severity : Option Severity}
    {thresholds : Table Value} {profile : Option String} {e : Error}
    (h : c.withChanges enabled severity thresholds profile = .error e) :
    ∃ entry ∈ (c.values.insertAll thresholds.entries).entries,
      checkThreshold entry.1 entry.2 = .error e := by
  unfold withChanges make at h
  rcases bind_error_iff.mp h with h | ⟨t, -, h⟩
  · unfold checkThresholds at h
    rcases bind_error_iff.mp h with h | ⟨checked, -, h⟩
    · exact checkEntries_eq_error h
    · cases h
  · cases h

/-- A natural number is not refused. -/
theorem checkThreshold_ofNat (name : String) (n : Nat) (e : Error) :
    checkThreshold name (.ofNat n) ≠ .error e := by
  rw [checkThreshold_eq_ok_iff.mpr rfl]
  simp

end RuleConfig

/-- What is read for a threshold is a natural number. -/
theorem Choices.Reflects.threshold_eq {d : RuleDefinition} {options : Table Value} {c : Choices}
    {strict : Bool} (hc : Reflects d options.entries c) (hknown : c.Known d)
    (haccepts : ∀ entry ∈ options.entries, d.Accepts strict entry) {name : String} {v : Value}
    (hv : c.thresholds.get? name = some v) : ∃ n, v = .ofNat n := by
  have hname : name ∈ d.defaults.thresholds.keys :=
    hknown.thresholds name (Table.mem_keys_of_get? hv)
  by_cases other : Other d name
  · have hgiven : (name, v) ∈ options.entries := by
      rw [hc.threshold name hname other] at hv
      exact mem_of_lookup hv
    have htakes : d.Takes name v :=
      RuleDefinition.takes_of_accepts (haccepts (name, v) hgiven)
        (RuleDefinition.threshold_mem_options hname)
    exact (takes_threshold_iff other hname).mp htakes
  · exact absurd (hv.symm.trans (hc.reserved name other)) (by simp)

/-- **Accepted options.** If all of them are accepted and they are refused all the same, it is for a
value of the chosen profile. -/
theorem preset_of_resolveOptions_error {d : RuleDefinition} {current : RuleConfig}
    {options : Table Value} {strict : Bool} {e : Error}
    (haccepts : ∀ entry ∈ options.entries, d.Accepts strict entry)
    (h : resolveOptions d current options strict = .error e) :
    ∃ name v, d.preset options name = some v ∧ RuleConfig.checkThreshold name v = .error e := by
  unfold resolveOptions at h
  rcases bind_error_iff.mp h with hfails | ⟨c, hread, h⟩
  · obtain ⟨c, hread⟩ := Choices.readAll_ok_iff.mpr haccepts
    exact absurd (hread.symm.trans hfails) (by simp)
  have hc : c.Reflects d options.entries :=
    (Choices.reflects_nothing d).readAll options.nodup hread
  have hknown : c.Known d := (Choices.known_nothing d).readAll hread
  rcases bind_error_iff.mp h with hchanges | ⟨config, -, h⟩
  · obtain ⟨⟨name, v⟩, hentry, hcheck⟩ := RuleConfig.withChanges_eq_error hchanges
    have hmerged := (Table.get?_of_mem hentry).symm.trans (hc.get?_merged current name)
    refine ⟨name, v, ?_, hcheck⟩
    -- the value comes from one of three sources, two of which have natural numbers only
    cases hset : c.thresholds.get? name with
    | some w =>
      rw [hset, Option.some_or, Option.some_or] at hmerged
      obtain ⟨n, rfl⟩ := hc.threshold_eq hknown haccepts hset
      rw [Option.some.inj hmerged] at hcheck
      exact absurd hcheck (RuleConfig.checkThreshold_ofNat name n e)
    | none =>
      rw [hset, Option.none_or] at hmerged
      cases hpreset : d.preset options name with
      | some w =>
        rw [hpreset, Option.some_or] at hmerged
        exact hmerged.symm
      | none =>
        rw [hpreset, Option.none_or] at hmerged
        have hold : (name, v) ∈ current.values.entries := Table.mem_of_get? hmerged.symm
        obtain ⟨entry, -, heq⟩ := List.mem_map.mp hold
        obtain ⟨rfl, rfl⟩ := Prod.mk.inj heq
        exact absurd hcheck (RuleConfig.checkThreshold_ofNat _ entry.2 e)
  · cases h

/-! ## 2. The first option that is not accepted -/

namespace RuleDefinition

/-- The first option that is not accepted. -/
def FirstOffence (d : RuleDefinition) (strict : Bool) (options : Table Value)
    (entry : String × Value) : Prop :=
  ∃ before after, options.entries = before ++ entry :: after ∧
    (∀ earlier ∈ before, d.Accepts strict earlier) ∧ ¬ d.Accepts strict entry

/-- Either all options are accepted or one of them is the first that is not. -/
theorem accepts_or_firstOffence (d : RuleDefinition) (strict : Bool) (options : Table Value) :
    (∀ entry ∈ options.entries, d.Accepts strict entry) ∨
      ∃ entry, d.FirstOffence strict options entry := by
  rcases Choices.readAll_ok_or_error d strict {} options.entries with
    ⟨hall, -⟩ | ⟨before, entry, after, e, hentries, hbefore, hrejects, -⟩
  · exact .inl hall
  · exact .inr ⟨entry, before, after, hentries, hbefore, fun h => h.not_rejects hrejects⟩

theorem FirstOffence.mem {d : RuleDefinition} {strict : Bool} {options : Table Value}
    {entry : String × Value} (h : d.FirstOffence strict options entry) :
    entry ∈ options.entries := by
  obtain ⟨before, after, hentries, -⟩ := h
  rw [hentries]
  exact List.mem_append_right _ List.mem_cons_self

end RuleDefinition

/-- Options are read up to the first that is not accepted. -/
theorem Choices.readAll_of_offence {d : RuleDefinition} {strict : Bool} {entry : String × Value}
    (h : ¬ d.Accepts strict entry) {before after : List (String × Value)}
    (hbefore : ∀ earlier ∈ before, d.Accepts strict earlier) (c : Choices) :
    ∃ e, d.Rejects strict entry e ∧ readAll d strict c (before ++ entry :: after) = .error e := by
  induction before generalizing c with
  | nil =>
    rw [List.nil_append, readAll]
    rcases read_ok_or_error d strict c entry with ⟨haccepts, -⟩ | ⟨e, hrejects, hread⟩
    · exact absurd haccepts h
    · rw [hread]
      exact ⟨e, hrejects, rfl⟩
  | cons first rest ih =>
    have hfirst : d.Accepts strict first := hbefore first List.mem_cons_self
    rw [List.cons_append, readAll]
    rcases read_ok_or_error d strict c first with ⟨-, next, hread⟩ | ⟨e, hrejects, -⟩
    · rw [hread]
      exact ih (fun earlier hearlier => hbefore earlier (List.mem_cons_of_mem _ hearlier)) next
    · exact absurd hrejects fun hrejects => hfirst.not_rejects hrejects

/-- **The first offence.** It decides on the error, and whatever comes after it has no say. -/
theorem RuleDefinition.FirstOffence.resolveOptions {d : RuleDefinition} {strict : Bool}
    {options : Table Value} {entry : String × Value} (h : d.FirstOffence strict options entry)
    (current : RuleConfig) :
    ∃ e, d.Rejects strict entry e ∧ resolveOptions d current options strict = .error e := by
  obtain ⟨before, after, hentries, hbefore, hentry⟩ := h
  obtain ⟨e, hrejects, hread⟩ := Choices.readAll_of_offence hentry hbefore {}
  refine ⟨e, hrejects, ?_⟩
  unfold Conformance.resolveOptions
  rw [hentries, hread]
  rfl

/-! ## 3. The first group that cannot be applied -/

namespace Registry

variable {r : Registry} {strict : Bool}

/-- A call for this group alone would be accepted. -/
def Applies (r : Registry) (strict : Bool) (group : String × Table Value) : Prop :=
  ∃ result, r.configure group.1 (.table group.2.entries) strict = .ok result

/-- That a group can be applied means that it is resolved. -/
theorem applies_iff {group : String × Table Value} :
    r.Applies strict group ↔ ∃ own, r.resolve strict group = .ok own := by
  unfold Applies
  rw [configure_table, Table.ofList_entries]
  cases r.resolve strict group with
  | error e => simp [bind, Except.bind]
  | ok own => simp [bind, Except.bind, pure, Except.pure]

/-- All groups are resolved, or there is a first one that is not, and it decides on the error. -/
theorem resolveGroups_ok_or_error (r : Registry) (strict : Bool)
    (groups : List (String × Table Value)) :
    (∃ result, r.resolveGroups strict groups = .ok result) ∨
      ∃ before group after e, groups = before ++ group :: after ∧
        (∀ earlier ∈ before, ∃ own, r.resolve strict earlier = .ok own) ∧
        r.resolve strict group = .error e ∧ r.resolveGroups strict groups = .error e := by
  induction groups with
  | nil => exact .inl ⟨([], []), rfl⟩
  | cons first rest ih =>
    rw [resolveGroups_cons]
    cases hfirst : r.resolve strict first with
    | error e =>
      exact .inr ⟨[], first, rest, e, rfl, fun _ h => absurd h List.not_mem_nil, hfirst, rfl⟩
    | ok own =>
      rcases ih with ⟨result, hrest⟩ | ⟨before, group, after, e, rfl, hbefore, hgroup, hrest⟩
      · rw [hrest]
        exact .inl ⟨_, rfl⟩
      · rw [hrest]
        exact .inr ⟨first :: before, group, after, e, rfl,
          List.forall_mem_cons.mpr ⟨⟨own, hfirst⟩, hbefore⟩, hgroup, rfl⟩

/-- A registered rule is found under its identifier, with a definition and a configuration that
belong together. -/
theorem exists_get (hr : r.Sound) {ruleId : String} {d : RuleDefinition}
    (hd : r.definitions.get? ruleId = some d) : ∃ config, r.get ruleId = .ok ⟨d, config⟩ := by
  obtain ⟨config, hconfig⟩ := hr.get?_of_entry (Table.mem_of_get? hd)
  refine ⟨config, ?_⟩
  unfold Registry.get Registry.definition Registry.config
  rw [hd, hconfig]
  rfl

/-- What the error says of a group that is refused. An error about a rule or an option without a
name, or about a value without a text, cannot be made, and another is raised in its place. -/
structure Explains (r : Registry) (strict : Bool) (group : String × Table Value) (e : Error) :
    Prop where
  /-- There is no such rule. -/
  rule : group.1 ∉ r.ruleIds →
    e = if group.1 = "" then .empty "rule_id" else .rule (.unknown group.1 r.ruleIds)
  /-- The first option that is not accepted is none of the rule's. -/
  option : ∀ d, r.definitions.get? group.1 = some d → ∀ option v,
    d.FirstOffence strict group.2 (option, v) → option ∉ d.options →
      e = if option = "" then .empty "option" else .rule (.unknownOption group.1 option)
  /-- The first option that is not accepted does not take its value, which has a text. -/
  value : ∀ d, r.definitions.get? group.1 = some d → ∀ option v,
    d.FirstOffence strict group.2 (option, v) → option ∈ d.options → v.textFault? = none →
      ∃ reason, e =
        if option = "" then .empty "option" else .rule (.invalidOption group.1 option reason)
  /-- The first option that is not accepted does not take its value, which has none. -/
  unwritten : ∀ d, r.definitions.get? group.1 = some d → ∀ option v,
    d.FirstOffence strict group.2 (option, v) → option ∈ d.options →
      ∀ fault, v.textFault? = some fault → e = fault
  /-- All options are accepted, and the chosen profile sets a value that is no natural number. -/
  preset : ∀ d, r.definitions.get? group.1 = some d →
    (∀ entry ∈ group.2.entries, d.Accepts strict entry) →
      ∃ name v, d.preset group.2 name = some v ∧ RuleConfig.checkThreshold name v = .error e

/-- **One group.** The error of a group that is refused says why. -/
theorem explains_of_resolve (hr : r.Sound) {group : String × Table Value} {e : Error}
    (h : r.resolve strict group = .error e) : r.Explains strict group e := by
  -- what a registered rule leads to is the error of its options
  have hregistered : ∀ d, r.definitions.get? group.1 = some d →
      d.ruleId = group.1 ∧
        ∃ config, resolveOptions d config group.2 strict = .error e := by
    intro d hd
    obtain ⟨config, hget⟩ := exists_get hr hd
    unfold resolve at h
    rw [hget] at h
    exact ⟨ruleId_of_get hr hget, config, h⟩
  -- and that is the error of the first option that is not accepted, if there is one
  have hrejected : ∀ d, r.definitions.get? group.1 = some d → ∀ option v,
      d.FirstOffence strict group.2 (option, v) →
        d.ruleId = group.1 ∧ d.Rejects strict (option, v) e := by
    intro d hd option v hoffence
    obtain ⟨hruleId, config, herror⟩ := hregistered d hd
    obtain ⟨e', hrejects, herror'⟩ := hoffence.resolveOptions config
    rw [Except.error.inj (herror.symm.trans herror')]
    exact ⟨hruleId, hrejects⟩
  refine ⟨?_, ?_, ?_, ?_, ?_⟩
  · intro hid
    have hnone : r.definitions.get? group.1 = none := Table.get?_eq_none_iff.mpr hid
    unfold resolve Registry.get Registry.definition at h
    rw [hnone] at h
    exact (Except.error.inj h).symm
  · intro d hd option v hoffence hunknown
    obtain ⟨hruleId, hrejects⟩ := hrejected d hd option v hoffence
    cases hrejects with
    | value known _ _ _ | unwritten known _ _ => exact absurd known hunknown
    | unknown _ _ =>
      -- the rule has a name, so that only the option's may be missing
      rw [← hruleId, RuleError.raise, if_neg d.ruleId_ne]
  · intro d hd option v hoffence hknown hwritten
    obtain ⟨hruleId, hrejects⟩ := hrejected d hd option v hoffence
    cases hrejects with
    | @value _ reason _ _ _ hreason _ =>
      refine ⟨reason, ?_⟩
      rw [← hruleId, RuleError.raise, if_neg hreason, if_neg d.ruleId_ne]
    | unwritten _ _ hfault => exact absurd (hwritten.symm.trans hfault) (by simp)
    | unknown hunknown _ => exact absurd hknown hunknown
  · intro d hd option v hoffence hknown fault hfault
    obtain ⟨-, hrejects⟩ := hrejected d hd option v hoffence
    cases hrejects with
    | value _ _ _ hwritten => exact absurd (hwritten.symm.trans hfault) (by simp)
    | unwritten _ _ hown => exact Option.some.inj (hown.symm.trans hfault)
    | unknown hunknown _ => exact absurd hknown hunknown
  · intro d hd haccepts
    obtain ⟨-, config, herror⟩ := hregistered d hd
    exact preset_of_resolveOptions_error haccepts herror

/-! ## 4. Registries that start from the built-in rules -/

/-- The profiles of the built-in rules set natural numbers, so choosing one is never refused. -/
theorem checkThreshold_of_builtin : ∀ d ∈ builtinRules, ∀ profile ∈ d.profiles.entries,
    ∀ entry ∈ profile.2.entries, (RuleConfig.checkThreshold entry.1 entry.2).isOk = true := by
  decide

/-- The profiles of a built-in rule set natural numbers. -/
theorem checkThreshold_of_preset {d : RuleDefinition} (hd : d ∈ builtinRules)
    {options : Table Value} {name : String} {v : Value} (h : d.preset options name = some v)
    (e : Error) : RuleConfig.checkThreshold name v ≠ .error e := by
  unfold RuleDefinition.preset at h
  split at h
  · rename_i profile _
    obtain ⟨values, hvalues, hv⟩ := Option.bind_eq_some_iff.mp h
    have hok := checkThreshold_of_builtin d hd (profile, values) (Table.mem_of_get? hvalues)
      (name, v) (Table.mem_of_get? hv)
    intro herror
    rw [herror] at hok
    exact absurd hok (by simp [Except.isOk, Except.toBool])
  · exact absurd h (by simp)

/-- The classes of the errors that are documented for configuring rules. -/
def documentedClasses : List String :=
  ["UnknownRuleError", "InvalidRuleOptionError", "UnknownRuleOptionError"]

/-- **No other error.** The error of a group that is refused is one of those that are documented,
unless the rule or an option has no name, or the value of an option has no text, or a profile of a
rule that was registered later sets what is no natural number. -/
theorem documented_or_nameless {calls : List RegistryCall} {group : String × Table Value}
    {e : Error} (h : (builtin.afterAll calls).Explains strict group e) :
    e.className ∈ documentedClasses ∨ group.1 = "" ∧ e = .empty "rule_id" ∨
      "" ∈ group.2.keys ∧ e = .empty "option" ∨
      (∃ entry ∈ group.2.entries, entry.2.textFault? = some e) ∨
      ∃ d ∈ builtin.registrations calls, d.ruleId = group.1 ∧ ∃ name v,
        d.preset group.2 name = some v ∧ RuleConfig.checkThreshold name v = .error e := by
  cases hd : (builtin.afterAll calls).definitions.get? group.1 with
  | none =>
    have he := h.rule (Table.get?_eq_none_iff.mp hd)
    by_cases hname : group.1 = ""
    · rw [if_pos hname] at he
      exact .inr (.inl ⟨hname, he⟩)
    · rw [if_neg hname] at he
      rw [he]
      exact .inl (by decide : "UnknownRuleError" ∈ documentedClasses)
  | some d =>
    rcases d.accepts_or_firstOffence strict group.2 with haccepts | ⟨⟨option, v⟩, hoffence⟩
    -- nothing is wrong with the options, so it is the profile, and the rule is not built in
    · obtain ⟨name, v, hpreset, hcheck⟩ := h.preset d hd haccepts
      obtain ⟨hruleId, hbuiltin | hregistered⟩ := builtin_or_registered hd
      · exact absurd hcheck (checkThreshold_of_preset hbuiltin hpreset e)
      · exact .inr (.inr (.inr (.inr ⟨d, hregistered, hruleId, name, v, hpreset, hcheck⟩)))
    -- the offending option is named or not, and an error that was meant for it may be replaced
    · have hkey : option ∈ group.2.keys := List.mem_map.mpr ⟨(option, v), hoffence.mem, rfl⟩
      have hmeant : ∀ meant, e = (if option = "" then .empty "option" else .rule meant) →
          meant.className ∈ documentedClasses →
          e.className ∈ documentedClasses ∨ "" ∈ group.2.keys ∧ e = .empty "option" := by
        intro meant he hclass
        by_cases hname : option = ""
        · exact .inr ⟨hname ▸ hkey, by rw [he, if_pos hname]⟩
        · rw [he, if_neg hname]
          exact .inl hclass
      by_cases hknown : option ∈ d.options
      · cases hfault : v.textFault? with
        | some fault =>
          obtain rfl := h.unwritten d hd option v hoffence hknown fault hfault
          exact .inr (.inr (.inr (.inl ⟨(option, v), hoffence.mem, hfault⟩)))
        | none =>
          obtain ⟨reason, he⟩ := h.value d hd option v hoffence hknown hfault
          exact (hmeant _ he (by decide : "InvalidRuleOptionError" ∈ documentedClasses)).imp id
            fun hempty => .inr (.inl hempty)
      · exact (hmeant _ (h.option d hd option v hoffence hknown)
          (by decide : "UnknownRuleOptionError" ∈ documentedClasses)).imp id
            fun hempty => .inr (.inl hempty)

/-- **Refusals are explained.** Take the registry of the built-in rules after any calls, options in
groups, one table for each rule, and either mode. Then the options are applied, or there is a first
group that cannot be applied, and the error is about this group.

* If there is no rule of that identifier, the error says so. If there is one, and its first option
  that is not accepted is none of the rule's, or does not take its value, then the error says this.
  What cannot be said is that a rule or an option is wrong whose name is empty, or that a value is
  wrong which has no text. An error of another class is raised in these cases.
* There is no other error, unless a rule that was registered later has a profile with a value that
  is no natural number, and this profile is chosen. -/
theorem refusals_explained (calls : List RegistryCall) (groups : Table (Table Value))
    (strict : Bool) :
    (∃ result, (builtin.afterAll calls).configureMany (nested groups) strict = .ok result) ∨
      ∃ before group after e, groups.entries = before ++ group :: after ∧
        (∀ earlier ∈ before, (builtin.afterAll calls).Applies strict earlier) ∧
        ¬ (builtin.afterAll calls).Applies strict group ∧
        (builtin.afterAll calls).configureMany (nested groups) strict = .error e ∧
        (builtin.afterAll calls).Explains strict group e ∧
        (e.className ∈ documentedClasses ∨ group.1 = "" ∧ e = .empty "rule_id" ∨
          "" ∈ group.2.keys ∧ e = .empty "option" ∨
          (∃ entry ∈ group.2.entries, entry.2.textFault? = some e) ∨
          ∃ d ∈ builtin.registrations calls, d.ruleId = group.1 ∧ ∃ name v,
            d.preset group.2 name = some v ∧ RuleConfig.checkThreshold name v = .error e) := by
  have hsound := (entries_afterAll_builtin calls).1
  unfold configureMany
  rw [splitOptions_nested]
  rcases (builtin.afterAll calls).resolveGroups_ok_or_error strict groups.entries with
    ⟨result, hresult⟩ | ⟨before, group, after, e, hentries, hbefore, hgroup, herror⟩
  · exact .inl ⟨_, bind_ok_iff.mpr ⟨groups, rfl, bind_ok_iff.mpr ⟨result, hresult, rfl⟩⟩⟩
  · have hexplains := explains_of_resolve hsound hgroup
    refine .inr ⟨before, group, after, e, hentries, ?_, ?_, ?_, hexplains,
      documented_or_nameless hexplains⟩
    · exact fun earlier hearlier => applies_iff.mpr (hbefore earlier hearlier)
    · rw [applies_iff]
      rintro ⟨own, hown⟩
      exact absurd (hown.symm.trans hgroup) (by simp)
    · exact bind_error_iff.mpr (.inr ⟨groups, rfl, bind_error_iff.mpr (.inl herror)⟩)

/-- An enabled flag that is refused is all that is looked at, if it comes first. -/
theorem resolveOptions_of_readEnabled {d : RuleDefinition} {v : Value} {e : Error}
    (h : Choices.readEnabled d v = .error e) (current : RuleConfig) (strict : Bool) :
    resolveOptions d current (Table.ofList [("enabled", v)]) strict = .error e := by
  have hread : ({} : Choices).read d strict ("enabled", v) = .error e := by
    unfold Choices.read
    dsimp only
    rw [if_pos rfl, h]
    rfl
  exact bind_error_iff.mpr (.inl (bind_error_iff.mpr (.inl hread)))

/-- A number of too many digits in place of the enabled flag is refused, but not as an invalid
value. -/
theorem configureMany_tooLong {n : Int} (h : isTooLong n = true) :
    builtin.configureMany
      (nested (Table.ofList [("max-call-chain", Table.ofList [("enabled", .int n)])])) false =
      .error .unwritten := by
  have hwrite : (Value.int n).write = .error .unwritten := by
    rw [Value.write, Value.textFault?, if_pos h]
  have hread : Choices.readEnabled Builtin.maxCallChain (.int n) = .error .unwritten :=
    bind_error_iff.mpr (.inl (bind_error_iff.mpr (.inl hwrite)))
  have hresolve : builtin.resolve false ("max-call-chain", Table.ofList [("enabled", .int n)]) =
      .error .unwritten :=
    resolveOptions_of_readEnabled hread Builtin.maxCallChain.defaults false
  have hgroups : builtin.resolveGroups false
      [("max-call-chain", Table.ofList [("enabled", .int n)])] = .error .unwritten := by
    rw [resolveGroups_cons]
    exact bind_error_iff.mpr (.inl hresolve)
  unfold configureMany
  rw [splitOptions_nested]
  exact bind_error_iff.mpr (.inr ⟨_, rfl, bind_error_iff.mpr (.inl hgroups)⟩)

/-- A rule without a name is not reported as unknown, and neither is an option without a name; a
value of too many digits is not reported as invalid. -/
theorem nameless_not_reported :
    "" ∉ builtin.ruleIds ∧ "" ∉ Builtin.maxCallChain.options ∧
      builtin.configureMany (nested (Table.ofList [("", .empty)])) false =
        .error (.empty "rule_id") ∧
      (Error.empty "rule_id").className ∉ documentedClasses ∧
      builtin.configureMany
        (nested (Table.ofList [("max-call-chain", Table.ofList [("", .int 1)])])) true =
        .error (.empty "option") ∧
      (Error.empty "option").className ∉ documentedClasses ∧
      builtin.configureMany
        (nested (Table.ofList
          [("max-call-chain", Table.ofList [("enabled", .ofNat (Nat.pow 10 digitLimit))])])) false =
        .error .unwritten ∧
      Error.unwritten.className ∉ documentedClasses := by
  refine ⟨by decide, ?_, rfl, by decide, rfl, by decide, ?_, by decide⟩
  · rw [RuleDefinition.mem_options_iff]
    decide
  · exact configureMany_tooLong (isTooLong_natCast (Nat.le_refl _))

end Registry

end Conformance
