import Conformance.Proofs.Loosening
import Conformance.Proofs.Refusals

/-!
# What can be configured of a rule

A rule is made once and configured later, and it is checked at both times. This file says how far
the two checks agree, for any rule that can be made, in any registry
(`Registry.configurable_exactly`).

A profile can be chosen exactly if all values that it sets are natural numbers. That the names are
those of thresholds is checked when the rule is made, but the values are not, and they are refused
as soon as the profile is chosen.

A threshold can be set exactly if no other option has its name. A rule may have a threshold that is
named like the enabled flag, and then this name is taken for the flag.
-/

set_option autoImplicit false

namespace Conformance

/-! ## 1. Configurations and their thresholds -/

/-- A configuration has a threshold exactly if its values hold it. -/
theorem RuleConfig.threshold_iff_values {config : RuleConfig} {name : String} {n : Nat} :
    config.threshold name = .ok n ↔ config.values.get? name = some (.ofNat n) := by
  have hvalues : config.values.get? name = (config.thresholds.get? name).map Value.ofNat :=
    lookup_map (fun e => Value.ofNat e.2) config.thresholds.entries name
  rw [threshold_eq_ok_iff, hvalues]
  cases config.thresholds.get? name with
  | none => simp
  | some m =>
    rw [Option.map_some, Option.some.injEq, Option.some.injEq, Value.ofNat, Value.ofNat,
      Value.int.injEq, Int.natCast_inj]

/-- The configuration has the values of a profile. -/
def RuleConfig.Holds (config : RuleConfig) (values : Table Value) : Prop :=
  ∀ name v, values.get? name = some v → ∃ n, v = .ofNat n ∧ config.threshold name = .ok n

/-- One option is found under its name and nothing under others. -/
theorem Table.get?_ofList_single {α : Type} (key other : String) (value : α) :
    (Table.ofList [(key, value)]).get? other = if other = key then some value else none :=
  (Table.get?_insert .empty key other value).trans (by rw [Table.get?_empty])

/-! ## 2. One option for one rule -/

namespace RuleDefinition

variable {d : RuleDefinition} {current config : RuleConfig} {strict : Bool}
  {notes : List Diagnostic}

/-- Accepted options are applied, if the chosen profile sets natural numbers. -/
theorem resolveOptions_ok_of_accepts (current : RuleConfig) {options : Table Value}
    (haccepts : ∀ entry ∈ options.entries, d.Accepts strict entry)
    (hpreset : ∀ name v, d.preset options name = some v → ∃ n, v = .ofNat n) :
    ∃ config notes, resolveOptions d current options strict = .ok (config, notes) := by
  cases h : resolveOptions d current options strict with
  | ok result => exact ⟨result.1, result.2, rfl⟩
  | error e =>
    obtain ⟨name, v, hv, hcheck⟩ := preset_of_resolveOptions_error haccepts h
    obtain ⟨n, rfl⟩ := hpreset name v hv
    exact absurd hcheck (RuleConfig.checkThreshold_ofNat name n e)

/-- If a rule takes the one option, all entries are accepted. -/
theorem accepts_single (strict : Bool) {option : String} {v : Value} (h : d.Takes option v) :
    ∀ entry ∈ (Table.ofList [(option, v)]).entries, d.Accepts strict entry := by
  intro entry hentry
  rw [List.mem_singleton.mp hentry]
  exact .inl h

section Profile

variable {p : String} {values : Table Value} (hp : d.profiles.get? p = some values)

include hp

theorem takes_profile : d.Takes "profile" (.text p) :=
  .profile p rfl (Table.mem_keys_of_get? hp) rfl

/-- The profile that is given is the one chosen, since there is no other option. -/
theorem chosen_profile : d.chosen (Table.ofList [("profile", .text p)]) = some (.text p) := by
  unfold chosen
  rw [if_neg (profiles_ne_of_mem (Table.mem_keys_of_get? hp)), Table.get?_ofList_single,
    if_pos rfl]

/-- What a profile presets is what it sets. -/
theorem preset_profile (name : String) :
    d.preset (Table.ofList [("profile", .text p)]) name = values.get? name := by
  unfold preset
  rw [chosen_profile hp]
  show (d.profiles.get? p).bind _ = _
  rw [hp, Option.bind_some]

/-- **A chosen profile.** If it is not refused, it is the profile of the configuration and the
configuration has its values. -/
theorem holds_of_profile (hfits : current.Fits d)
    (h : resolveOptions d current (Table.ofList [("profile", .text p)]) strict =
      .ok (config, notes)) :
    config.profile = some p ∧ config.Holds values := by
  obtain ⟨-, hsettles, -⟩ := (resolveOptions_eq_ok_iff hfits).mp h
  refine ⟨?_, fun name v hv => ?_⟩
  · have hprofile := hsettles.profile
    rw [chosen_profile hp, Option.some_or, Option.map_eq_some_iff] at hprofile
    obtain ⟨q, hq, hqp⟩ := hprofile
    rw [hq, Value.text.inj hqp]
  · have hname : name ∈ current.thresholds.keys := by
      rw [hfits.thresholds]
      exact d.profiles_known (p, values) (Table.mem_of_get? hp) name (Table.mem_keys_of_get? hv)
    -- nothing is given under the name of a threshold, so that the profile decides
    have hvalue : config.values.get? name = some v := by
      by_cases other : Choices.Other d name
      · have hne : name ≠ "profile" := fun heq =>
          other.profile ⟨heq, profiles_ne_of_mem (Table.mem_keys_of_get? hp)⟩
        rw [hsettles.threshold name hname other, Table.get?_ofList_single, if_neg hne,
          preset_profile hp, hv, Option.none_or, Option.some_or]
      · rw [hsettles.reserved name hname other, preset_profile hp, hv, Option.some_or]
    have hmem : name ∈ config.thresholds.keys := hsettles.names ▸ hname
    obtain ⟨n, hn⟩ := Table.exists_get?_of_mem_keys hmem
    have hthreshold : config.threshold name = .ok n := RuleConfig.threshold_eq_ok_iff.mpr hn
    refine ⟨n, ?_, hthreshold⟩
    exact Option.some.inj (hvalue.symm.trans (RuleConfig.threshold_iff_values.mp hthreshold))

end Profile

/-- A natural number for a threshold is taken exactly if no other option has its name. -/
theorem takes_number_iff {name : String} (hname : name ∈ d.defaults.thresholds.keys) (n : Nat) :
    d.Takes name (.int n) ↔ Choices.Other d name := by
  constructor
  · intro h
    cases h with
    | enabled _ _ hv => cases hv
    | severity _ _ hv => cases hv
    | profile _ _ _ hv => cases hv
    | threshold _ other _ _ => exact other
  · intro other
    exact .threshold n other hname rfl

theorem preset_threshold {name : String} (other : Choices.Other d name) (v : Value)
    (name' : String) : d.preset (Table.ofList [(name, v)]) name' = none := by
  have hchosen : d.chosen (Table.ofList [(name, v)]) = none := by
    unfold chosen
    by_cases hprofiles : d.profiles.entries = []
    · rw [if_pos hprofiles]
    · rw [if_neg hprofiles, Table.get?_ofList_single,
        if_neg fun heq => other.profile ⟨heq.symm, hprofiles⟩]
  unfold preset
  rw [hchosen]

/-- **A threshold that is set.** It has the value that was given. -/
theorem threshold_of_number {name : String} (hname : name ∈ d.defaults.thresholds.keys)
    (other : Choices.Other d name) {n : Nat} (hfits : current.Fits d)
    (h : resolveOptions d current (Table.ofList [(name, .int n)]) strict = .ok (config, notes)) :
    config.threshold name = .ok n := by
  obtain ⟨-, hsettles, -⟩ := (resolveOptions_eq_ok_iff hfits).mp h
  rw [RuleConfig.threshold_iff_values,
    hsettles.threshold name (hfits.thresholds ▸ hname) other, Table.get?_ofList_single, if_pos rfl]
  rfl

end RuleDefinition

/-! ## 3. Registered rules -/

namespace Registry

/-- The call that sets one option of a rule is accepted and leads to a configuration as
described. -/
def LeadsTo (r : Registry) (strict : Bool) (ruleId option : String) (v : Value)
    (described : RuleConfig → Prop) : Prop :=
  ∃ configured notes config,
    r.configure ruleId (.table [(option, v)]) strict = .ok (configured, notes) ∧
      configured.config ruleId = .ok config ∧ described config

variable {r : Registry} {ruleId option : String} {d : RuleDefinition} {current : RuleConfig}
  {v : Value} {strict : Bool}

/-- A rule that is registered is resolved under its own definition. -/
theorem resolve_of_get (hget : r.get ruleId = .ok ⟨d, current⟩) (strict : Bool)
    (options : Table Value) :
    r.resolve strict (ruleId, options) = resolveOptions d current options strict := by
  unfold resolve
  rw [hget]
  rfl

/-- A successful resolution leads to the configuration, and it is the one that is found afterwards.
-/
theorem leadsTo_of_resolve (hget : r.get ruleId = .ok ⟨d, current⟩) {config : RuleConfig}
    {notes : List Diagnostic} {described : RuleConfig → Prop}
    (h : resolveOptions d current (Table.ofList [(option, v)]) strict = .ok (config, notes))
    (hconfig : described config) : r.LeadsTo strict ruleId option v described := by
  refine ⟨{ r with configs := r.configs.insert ruleId config }, notes, config, ?_, ?_, hconfig⟩
  · rw [configure_table, resolve_of_get hget, h]
    rfl
  · unfold Registry.config
    rw [Table.get?_insert, if_pos rfl]

theorem configure_of_resolve_error (hget : r.get ruleId = .ok ⟨d, current⟩) {e : Error}
    (h : resolveOptions d current (Table.ofList [(option, v)]) strict = .error e) :
    r.configure ruleId (.table [(option, v)]) strict = .error e := by
  rw [configure_table, resolve_of_get hget, h]
  rfl

/-- An option whose name the rule has and whose value it does not take is refused as invalid, unless
the value has no text. -/
theorem configure_invalid (hr : r.Sound) (hget : r.get ruleId = .ok ⟨d, current⟩)
    (hname : option ∈ d.options) (hnonempty : option ≠ "") (h : ¬ d.Takes option v)
    (strict : Bool) :
    ∃ e, r.configure ruleId (.table [(option, v)]) strict = .error e ∧
      (v.textFault? = none → ∃ reason, e = .rule (.invalidOption ruleId option reason)) ∧
      ∀ fault, v.textFault? = some fault → e = fault := by
  have hoffence : d.FirstOffence strict (Table.ofList [(option, v)]) (option, v) := by
    refine ⟨[], [], rfl, fun _ hmem => absurd hmem List.not_mem_nil, fun haccepts => ?_⟩
    exact h (RuleDefinition.takes_of_accepts haccepts hname)
  obtain ⟨e, -, herror⟩ := hoffence.resolveOptions current
  have hexplains := explains_of_resolve hr ((resolve_of_get hget strict _).trans herror)
  refine ⟨e, configure_of_resolve_error hget herror, fun hwritten => ?_,
    hexplains.unwritten d (hr.get hget).1 option v hoffence hname⟩
  obtain ⟨reason, he⟩ := hexplains.value d (hr.get hget).1 option v hoffence hname hwritten
  rw [if_neg hnonempty] at he
  exact ⟨reason, he⟩

/-- **What can be configured.** Take a rule in any registry, after any calls, and either mode.

* A profile of the rule whose values are natural numbers can be chosen. The configuration then has
  this profile, and every threshold that the profile sets has the profile's value. A profile with
  another value cannot be chosen, and the error is that of one of its values.
* A threshold whose name is not that of another option can be set to any natural number and then has
  it. A threshold whose name is that of another option cannot be set, and the error is about the
  other option, or about the number if it is too long to be quoted. -/
theorem configurable_exactly (hr : r.Reachable) (hd : r.definition ruleId = .ok d)
    (strict : Bool) :
    (∀ p values, d.profiles.get? p = some values →
      ((∀ name v, values.get? name = some v → ∃ n : Nat, v = .int n) →
        r.LeadsTo strict ruleId "profile" (.text p) fun config =>
          config.profile = some p ∧ config.Holds values) ∧
      ((∃ name v, values.get? name = some v ∧ ∀ n : Nat, v ≠ .int n) →
        ∃ name v e, values.get? name = some v ∧ RuleConfig.checkThreshold name v = .error e ∧
          r.configure ruleId (.table [("profile", .text p)]) strict = .error e)) ∧
    ∀ name ∈ d.defaults.thresholds.keys, ∀ n : Nat,
      (Choices.Other d name → r.LeadsTo strict ruleId name (.int n) fun config =>
        config.threshold name = .ok n) ∧
      (¬ Choices.Other d name → ∃ e,
        r.configure ruleId (.table [(name, .int n)]) strict = .error e ∧
          if isTooLong n then e = .unwritten
          else ∃ reason, e = .rule (.invalidOption ruleId name reason)) := by
  obtain ⟨current, hget⟩ := exists_get hr.sound (get?_of_definition hd)
  have hfits : current.Fits d := (hr.sound.get hget).2
  refine ⟨fun p values hp => ⟨fun hnatural => ?_, fun hbad => ?_⟩,
    fun name hname n => ⟨fun other => ?_, fun hreserved => ?_⟩⟩
  · have haccepts := RuleDefinition.accepts_single strict (RuleDefinition.takes_profile hp)
    obtain ⟨config, notes, h⟩ := RuleDefinition.resolveOptions_ok_of_accepts current haccepts
      fun name v hv => hnatural name v (RuleDefinition.preset_profile hp name ▸ hv)
    exact leadsTo_of_resolve hget h (RuleDefinition.holds_of_profile hp hfits h)
  · obtain ⟨name, v, hv, hnot⟩ := hbad
    cases h : resolveOptions d current (Table.ofList [("profile", .text p)]) strict with
    | ok result =>
      -- a configuration holds natural numbers, so it cannot have the values of this profile
      obtain ⟨n, hn, -⟩ := (RuleDefinition.holds_of_profile hp hfits h).2 name v hv
      exact absurd hn (hnot n)
    | error e =>
      have haccepts := RuleDefinition.accepts_single strict (RuleDefinition.takes_profile hp)
      obtain ⟨name, v, hv, hcheck⟩ := preset_of_resolveOptions_error haccepts h
      rw [RuleDefinition.preset_profile hp] at hv
      exact ⟨name, v, e, hv, hcheck, configure_of_resolve_error hget h⟩
  · have haccepts := RuleDefinition.accepts_single strict
      ((RuleDefinition.takes_number_iff hname n).mpr other)
    obtain ⟨config, notes, h⟩ := RuleDefinition.resolveOptions_ok_of_accepts current haccepts
      fun name' v hv => by simp [RuleDefinition.preset_threshold other] at hv
    exact leadsTo_of_resolve hget h (RuleDefinition.threshold_of_number hname other hfits h)
  · -- the name is that of another option, and none of these is empty
    have hnonempty : name ≠ "" := by
      rintro rfl
      exact hreserved ⟨by decide, by decide, fun h => absurd h.1 (by decide)⟩
    obtain ⟨e, herror, hinvalid, hfault⟩ := configure_invalid hr.sound hget
      (RuleDefinition.mem_options_iff.mpr (.inr (.inr (.inl hname)))) hnonempty
      (mt (RuleDefinition.takes_number_iff hname n).mp hreserved) strict
    refine ⟨e, herror, ?_⟩
    split_ifs with hlong
    · exact hfault _ (by rw [Value.textFault?, if_pos hlong])
    · exact hinvalid (by rw [Value.textFault?, if_neg hlong])

theorem configurable_exactly_sample :
    builtin.LeadsTo true "max-class-size" "profile" (.text "relaxed") (fun config =>
        config.profile = some "relaxed" ∧ config.threshold "max_lines" = .ok 100) ∧
      builtin.LeadsTo true "max-class-size" "max_lines" (.int 7) (fun config =>
        config.threshold "max_lines" = .ok 7) := by
  have hd : builtin.definition "max-class-size" = .ok Builtin.maxClassSize := rfl
  obtain ⟨hprofiles, hthresholds⟩ := configurable_exactly reachable_builtin hd true
  refine ⟨?_, (hthresholds "max_lines" (by decide) 7).1 ⟨by decide, by decide, by decide⟩⟩
  have hnatural : ∀ name v, (Table.ofList [("max_lines", Value.int 100)]).get? name = some v →
      ∃ n : Nat, v = .int n := by
    intro name v hv
    obtain ⟨-, rfl⟩ := Prod.mk.inj (List.mem_singleton.mp (Table.mem_of_get? hv))
    exact ⟨100, rfl⟩
  obtain ⟨configured, notes, config, hconfigure, hconfig, hprofile, hholds⟩ :=
    (hprofiles "relaxed" _ rfl).1 hnatural
  obtain ⟨n, hn, hthreshold⟩ := hholds "max_lines" (.int 100) rfl
  have hn' : n = 100 := by
    have hint := Value.int.inj hn
    omega
  exact ⟨configured, notes, config, hconfigure, hconfig, hprofile, hn' ▸ hthreshold⟩

/-- A rule that can be made and registered, with a profile that cannot be chosen and a threshold
that cannot be set. -/
theorem accepted_but_not_configurable :
    ∃ d r, RuleDefinition.make "page-size" "" .size (some fun _ => .ok true)
        (some fun _ _ => { findings := [] }) (.starting [("limit", 1), ("enabled", 2)])
        (Table.ofList [("loose", Table.ofList [("limit", .int (-1))])]) = .ok d ∧
      ofDefinitions [d] = .ok r ∧
      r.configure "page-size" (.table [("profile", .text "loose")]) false =
        .error (.below "threshold 'limit'" 0 (-1)) ∧
      r.configure "page-size" (.table [("enabled", .int 3)]) false =
        .error (.rule (.invalidOption "page-size" "enabled" "expected bool, got 3")) := by
  refine ⟨_, _, rfl, rfl, rfl, ?_⟩
  have hwrite : (Value.int 3).write = .ok "3" := by
    rw [Value.write, Value.textFault?, if_neg (by simp [isTooLong_eq_false])]
    rfl
  refine configure_of_resolve_error rfl (resolveOptions_of_readEnabled ?_ _ _)
  show Choices.refuse _ "enabled" (do return "expected bool, got " ++ (← (Value.int 3).write)) = _
  rw [hwrite]
  rfl

end Registry

end Conformance
