import Conformance.Proofs.AllOrNothing
import Conformance.Proofs.Recognition

/-!
# Where a setting comes from

A setting of a rule may come from an option, from a profile that is chosen in the same options, or
from the configuration that was there before. This file says which of them counts, without saying
how the options are read (`RuleDefinition.Settles`), and proves that options are applied exactly
if all of them are accepted and some configuration is settled by them in this sense
(`resolveOptions_eq_ok_iff`).

The proof keeps account of the options that were read so far (`Choices.Reflects`). What was chosen
is what these options hold under their names. One more option keeps the account, because no name
occurs twice; then so do all options, and at the end the choices are look-ups in the options. Two
tables are merged after that, that of the profile and that of the configuration, and a look-up in a
merged table is one look-up after another.

Since the sources of a setting are look-ups, the order of the options makes no difference. Since
every setting that has changed has its new value from a source other than the old configuration,
applying the options again makes no difference either.
-/

set_option autoImplicit false

namespace Conformance

/-- A new entry at the end is found under its key. -/
theorem lookup_append_singleton {α : Type} {entries : List (String × α)} {key : String}
    (hnew : key ∉ keysOf entries) (value : α) (other : String) :
    (entries ++ [(key, value)]).lookup other =
      if other = key then some value else entries.lookup other := by
  rw [← putEntry_of_not_mem hnew, lookup_putEntry]

/-- Of two values for one key the later one counts. -/
theorem Table.insert_insert {α : Type} (t : Table α) (key : String) (old new : α) :
    (t.insert key old).insert key new = t.insert key new := by
  apply Table.ext_get?
  · have hmem : key ∈ (t.insert key old).keys :=
      Table.mem_keys_of_get? ((t.get?_insert key key old).trans (if_pos rfl))
    rw [Table.keys_insert_of_mem hmem, Table.keys_insert, Table.keys_insert]
  · intro other
    rw [Table.get?_insert, Table.get?_insert, Table.get?_insert]
    by_cases heq : other = key
    · rw [if_pos heq, if_pos heq]
    · rw [if_neg heq, if_neg heq, if_neg heq]

/-! ## 1. Changing a configuration -/

namespace RuleConfig

/-- The thresholds of a configuration as values. -/
def values (c : RuleConfig) : Table Value := c.thresholds.mapValues fun _ n => Value.ofNat n

/-- The thresholds as values have the names of the thresholds. -/
theorem keys_values (c : RuleConfig) : c.values.keys = c.thresholds.keys :=
  Table.keys_mapValues _ _

/-- A threshold is a natural number given as an integer. -/
theorem checkThreshold_eq_ok_iff {name : String} {v : Value} {n : Nat} :
    checkThreshold name v = .ok n ↔ v = Value.ofNat n := by
  unfold checkThreshold Value.ofNat
  cases v with
  | int k =>
    dsimp only
    by_cases hneg : k < 0
    · rw [if_pos hneg]
      refine iff_of_false (by simp) fun h => ?_
      have := Value.int.inj h
      omega
    · rw [if_neg hneg, Except.ok.injEq, Value.int.injEq]
      omega
  | _ => simp

/-- All thresholds pass if each does, and they are kept in order. -/
theorem checkEntries_eq_ok_iff {entries : List (String × Value)} {checked : List (String × Nat)} :
    (∃ result, checkEntries entries = .ok result ∧ result.val = checked) ↔
      checked.map (fun e => (e.1, Value.ofNat e.2)) = entries := by
  induction entries generalizing checked with
  | nil =>
    rw [List.map_eq_nil_iff]
    constructor
    · rintro ⟨result, h, rfl⟩
      rw [← Except.ok.inj h]
    · rintro rfl
      exact ⟨_, rfl, rfl⟩
  | cons first rest ih =>
    obtain ⟨name, v⟩ := first
    rw [checkEntries]
    constructor
    · rintro ⟨result, h, rfl⟩
      obtain ⟨n, hn, h⟩ := bind_ok_iff.mp h
      obtain ⟨others, hothers, h⟩ := bind_ok_iff.mp h
      rw [← Except.ok.inj h, checkThreshold_eq_ok_iff.mp hn]
      show (name, Value.ofNat n) :: _ = _
      rw [ih.mp ⟨others, hothers, rfl⟩]
    · intro h
      cases checked with
      | nil => exact absurd h (by simp)
      | cons e checked =>
        rw [List.map_cons, List.cons.injEq, Prod.mk.injEq] at h
        obtain ⟨⟨rfl, hv⟩, hrest⟩ := h
        obtain ⟨others, hothers, rfl⟩ := ih.mpr hrest
        exact ⟨_, bind_ok_iff.mpr ⟨e.2, checkThreshold_eq_ok_iff.mpr hv.symm,
          bind_ok_iff.mpr ⟨others, hothers, rfl⟩⟩, rfl⟩

/-- **Thresholds are checked** exactly to the numbers that they are the values of. -/
theorem checkThresholds_eq_ok_iff {t : Table Nat} {values : Table Value} :
    checkThresholds values = .ok t ↔ t.mapValues (fun _ n => Value.ofNat n) = values := by
  unfold checkThresholds
  rw [bind_ok_iff]
  constructor
  · rintro ⟨result, hresult, h⟩
    apply Table.ext_entries
    rw [← Except.ok.inj h]
    exact checkEntries_eq_ok_iff.mp ⟨result, hresult, rfl⟩
  · intro h
    have hentries : t.entries.map (fun e => (e.1, Value.ofNat e.2)) = values.entries := by
      rw [← h]
      rfl
    obtain ⟨result, hresult, hval⟩ := checkEntries_eq_ok_iff.mpr hentries
    exact ⟨result, hresult, congrArg Except.ok (Table.ext_entries hval)⟩

/-- **Changes.** They lead to the configuration that has them and whose thresholds are the merged
ones. -/
theorem withChanges_eq_ok_iff {c config : RuleConfig} {enabled : Option Bool}
    {severity : Option Severity} {thresholds : Table Value} {profile : Option String} :
    c.withChanges enabled severity thresholds profile = .ok config ↔
      config.enabled = enabled.getD c.enabled ∧ config.severity = severity.getD c.severity ∧
      config.values = c.values.insertAll thresholds.entries ∧
      config.profile = profile.or c.profile := by
  unfold withChanges make
  rw [bind_ok_iff]
  constructor
  · rintro ⟨t, ht, h⟩
    rw [← Except.ok.inj h]
    exact ⟨rfl, rfl, checkThresholds_eq_ok_iff.mp ht, rfl⟩
  · rintro ⟨henabled, hseverity, hvalues, hprofile⟩
    refine ⟨config.thresholds, checkThresholds_eq_ok_iff.mpr hvalues, ?_⟩
    rw [← henabled, ← hseverity, ← hprofile]
    rfl

end RuleConfig

/-! ## 2. What options settle -/

namespace RuleDefinition

/-- The value given as the profile, if the rule has profiles. -/
def chosen (d : RuleDefinition) (options : Table Value) : Option Value :=
  if d.profiles.entries = [] then none else options.get? "profile"

/-- The value that the chosen profile sets for a threshold. -/
def preset (d : RuleDefinition) (options : Table Value) (name : String) : Option Value :=
  match d.chosen options with
  | some (.text p) => (d.profiles.get? p).bind fun values => values.get? name
  | _ => none

/-- A configuration has its settings from options, from a profile chosen there, and from the
configuration before, in this order of precedence. -/
structure Settles (d : RuleDefinition) (current : RuleConfig) (options : Table Value)
    (config : RuleConfig) : Prop where
  /-- The flag is the given one, or as it was. -/
  enabled : Value.bool config.enabled = (options.get? "enabled").getD (.bool current.enabled)
  /-- The severity is the given one, or as it was. -/
  severity : some config.severity =
    ((options.get? "severity").map Value.severity?).getD (some current.severity)
  /-- The profile is the given one, or as it was. -/
  profile : config.profile.map Value.text =
    (d.chosen options).or (current.profile.map Value.text)
  /-- The thresholds have the names that they had, in the same order. -/
  names : config.thresholds.keys = current.thresholds.keys
  /-- A threshold is the given one, or that of the profile, or as it was. -/
  threshold : ∀ name ∈ current.thresholds.keys, Choices.Other d name →
    config.values.get? name =
      ((options.get? name).or (d.preset options name)).or (current.values.get? name)
  /-- A threshold that has the name of another option is not given by that name. -/
  reserved : ∀ name ∈ current.thresholds.keys, ¬ Choices.Other d name →
    config.values.get? name = (d.preset options name).or (current.values.get? name)

end RuleDefinition

namespace Choices

/-- The choices hold what the options that were read so far give. -/
structure Reflects (d : RuleDefinition) (seen : List (String × Value)) (c : Choices) : Prop where
  enabled : c.enabled.map Value.bool = seen.lookup "enabled"
  severity : c.severity.map some = (seen.lookup "severity").map Value.severity?
  profile : c.profile.map Value.text =
    if d.profiles.entries = [] then none else seen.lookup "profile"
  threshold : ∀ name ∈ d.defaults.thresholds.keys, Other d name →
    c.thresholds.get? name = seen.lookup name
  reserved : ∀ name, ¬ Other d name → c.thresholds.get? name = none
  diagnostics : c.diagnostics =
    (seen.filter fun entry => entry.1 ∉ d.options).map fun entry => ignored d entry.1

theorem reflects_nothing (d : RuleDefinition) : Reflects d [] {} where
  enabled := rfl
  severity := rfl
  profile := by simp
  threshold := fun _ _ _ => rfl
  reserved := fun _ _ => rfl
  diagnostics := rfl

/-- An option that the rule has leaves no note behind. -/
theorem notes_append_of_mem {d : RuleDefinition} {seen : List (String × Value)} {option : String}
    (hknown : option ∈ d.options) (value : Value) :
    ((seen ++ [(option, value)]).filter fun entry => entry.1 ∉ d.options).map
        (fun entry => ignored d entry.1) =
      (seen.filter fun entry => entry.1 ∉ d.options).map fun entry => ignored d entry.1 := by
  rw [List.filter_append, List.filter_cons_of_neg (by simpa using hknown), List.filter_nil,
    List.append_nil]

/-- An option of another name leaves the flag, the severity and the profile as they are. -/
theorem Reflects.of_other {d : RuleDefinition} {seen : List (String × Value)} {c : Choices}
    {option : String} (hc : Reflects d seen c) (other : Other d option)
    (hnew : option ∉ keysOf seen) (value : Value) :
    c.enabled.map Value.bool = (seen ++ [(option, value)]).lookup "enabled" ∧
      c.severity.map some = ((seen ++ [(option, value)]).lookup "severity").map Value.severity? ∧
      c.profile.map Value.text =
        if d.profiles.entries = [] then none
        else (seen ++ [(option, value)]).lookup "profile" := by
  have hlookup := lookup_append_singleton hnew value
  refine ⟨?_, ?_, ?_⟩
  · rw [hlookup, if_neg (Ne.symm other.enabled), hc.enabled]
  · rw [hlookup, if_neg (Ne.symm other.severity), hc.severity]
  · rw [hc.profile]
    by_cases hprofiles : d.profiles.entries = []
    · rw [if_pos hprofiles, if_pos hprofiles]
    · rw [if_neg hprofiles, if_neg hprofiles, hlookup,
        if_neg fun heq => other.profile ⟨heq.symm, hprofiles⟩]

/-- **One more option.** Its name is new, so it takes the place of nothing that was read. -/
theorem Reflects.read {d : RuleDefinition} {strict : Bool} {seen : List (String × Value)}
    {c c' : Choices} {option : String} {value : Value} (hc : Reflects d seen c)
    (hnew : option ∉ keysOf seen) (h : c.read d strict (option, value) = .ok c') :
    Reflects d (seen ++ [(option, value)]) c' := by
  have hlookup := lookup_append_singleton hnew value
  have hframe : ∀ name, name ≠ option →
      (seen ++ [(option, value)]).lookup name = seen.lookup name := by
    intro name hne
    rw [hlookup, if_neg hne]
  have hnotes : option ∈ d.options → c.diagnostics = _ := fun hknown =>
    hc.diagnostics.trans (notes_append_of_mem hknown value).symm
  -- the flag, the severity and the profile are no thresholds
  have hthresholds : ¬ Other d option → ∀ name ∈ d.defaults.thresholds.keys, Other d name →
      c.thresholds.get? name = (seen ++ [(option, value)]).lookup name := by
    intro hsetting name hname other
    rw [hframe name fun heq => hsetting (heq ▸ other)]
    exact hc.threshold name hname other
  cases reads_of_read h with
  | @enabled _ b hb =>
    refine ⟨?_, ?_, ?_, hthresholds fun other => other.enabled rfl, hc.reserved,
      hnotes d.enabled_mem_options⟩
    · rw [hlookup, if_pos rfl, reading_readEnabled.stands_of_ok hb, Option.map_some]
    · rw [hframe "severity" (by decide)]
      exact hc.severity
    · rw [hframe "profile" (by decide)]
      exact hc.profile
  | @severity _ s hs =>
    refine ⟨?_, ?_, ?_, hthresholds fun other => other.severity rfl, hc.reserved,
      hnotes d.severity_mem_options⟩
    · rw [hframe "enabled" (by decide)]
      exact hc.enabled
    · rw [hlookup, if_pos rfl, Option.map_some, Option.map_some,
        reading_readSeverity.stands_of_ok hs]
    · rw [hframe "profile" (by decide)]
      exact hc.profile
  | @profile _ p hprofiles hp =>
    refine ⟨?_, ?_, ?_, hthresholds fun other => other.profile ⟨rfl, hprofiles⟩, hc.reserved,
      hnotes (RuleDefinition.profile_mem_options hprofiles)⟩
    · rw [hframe "enabled" (by decide)]
      exact hc.enabled
    · rw [hframe "severity" (by decide)]
      exact hc.severity
    · rw [if_neg hprofiles, hlookup, if_pos rfl, (reading_readProfile hprofiles).stands_of_ok hp,
        Option.map_some]
  | @threshold _ _ n hother hknown hn =>
    obtain ⟨henabled, hseverity, hprofile⟩ := hc.of_other hother hnew value
    refine ⟨henabled, hseverity, hprofile, ?_, ?_,
      hnotes (RuleDefinition.threshold_mem_options hknown)⟩
    · intro name hname other
      rw [hlookup, Table.get?_insert, hc.threshold name hname other,
        (reading_readThreshold hother hknown).stands_of_ok hn]
    · intro name hreserved
      have hne : name ≠ option := fun heq => hreserved (heq ▸ hother)
      rw [Table.get?_insert, if_neg hne, hc.reserved name hreserved]
  | @ignored _ _ hother hunknown _ =>
    obtain ⟨henabled, hseverity, hprofile⟩ := hc.of_other hother hnew value
    -- an option that is read as none of the four kinds is none of the names either
    have hoption : option ∉ d.options :=
      mt (RuleDefinition.mem_options_iff_of_other hother).mp hunknown
    refine ⟨henabled, hseverity, hprofile, ?_, hc.reserved, ?_⟩
    · intro name hname other
      rw [hframe name fun heq => hunknown (heq ▸ hname)]
      exact hc.threshold name hname other
    · rw [List.filter_append, List.map_append, hc.diagnostics,
        List.filter_cons_of_pos (by simpa using hoption)]
      rfl

/-- All options, one after another. -/
theorem Reflects.readAll {d : RuleDefinition} {strict : Bool} {seen entries : List (String × Value)}
    {c c' : Choices} (hc : Reflects d seen c) (hnodup : (keysOf (seen ++ entries)).Nodup)
    (h : Choices.readAll d strict c entries = .ok c') : Reflects d (seen ++ entries) c' := by
  induction entries generalizing seen c with
  | nil =>
    rw [List.append_nil, ← Except.ok.inj h]
    exact hc
  | cons entry rest ih =>
    obtain ⟨next, hread, hrest⟩ := bind_ok_iff.mp h
    -- what was read so far grows by one entry, so the induction is over both lists together
    have hsplit : seen ++ entry :: rest = seen ++ [entry] ++ rest := by simp
    rw [hsplit] at hnodup ⊢
    have hnew : entry.1 ∉ keysOf seen := by
      unfold keysOf at hnodup
      rw [List.map_append, List.map_append] at hnodup
      have hfirst := List.nodup_append.mp (List.nodup_append.mp hnodup).1
      exact fun hmem => hfirst.2.2 _ hmem _ (by simp) rfl
    exact ih (hc.read hnew hread) hnodup hrest

/-- A look-up in the thresholds to set finds what was set, or else what the profile sets. -/
theorem get?_settled (d : RuleDefinition) (c : Choices) (name : String) :
    (c.settled d).get? name = (c.thresholds.get? name).or
      (c.profile.bind fun p => (d.profiles.get? p).bind fun values => values.get? name) := by
  unfold Choices.settled
  cases c.profile with
  | none => rw [Option.bind_none, Option.or_none]
  | some p =>
    dsimp only
    rw [Table.get?_insertAll_of_nodup c.thresholds.nodup, Option.bind_some]
    cases d.profiles.get? p with
    | none => rfl
    | some values => rfl

/-- The threshold of the chosen profile, told from the options or from the choices made of them. -/
theorem Reflects.preset_eq {d : RuleDefinition} {options : Table Value} {c : Choices}
    (hc : Reflects d options.entries c) (name : String) :
    d.preset options name =
      c.profile.bind fun p => (d.profiles.get? p).bind fun values => values.get? name := by
  have hchosen : d.chosen options = c.profile.map Value.text := hc.profile.symm
  unfold RuleDefinition.preset
  rw [hchosen]
  cases c.profile with
  | none => rfl
  | some p => rfl

/-- A merged threshold was set, or comes from the profile, or is as it was. -/
theorem Reflects.get?_merged {d : RuleDefinition} {options : Table Value} {c : Choices}
    (hc : Reflects d options.entries c) (current : RuleConfig) (name : String) :
    (current.values.insertAll (c.settled d).entries).get? name =
      ((c.thresholds.get? name).or (d.preset options name)).or (current.values.get? name) := by
  rw [Table.get?_insertAll_of_nodup (c.settled d).nodup, hc.preset_eq, ← get?_settled]
  rfl

/-- The thresholds of a configuration are the merged ones exactly if they have their names and each
has its value from the first source that gives one. -/
theorem Reflects.values_iff {d : RuleDefinition} {current config : RuleConfig}
    {options : Table Value} {c : Choices} (hfits : current.Fits d) (hknown : c.Known d)
    (hc : Reflects d options.entries c) :
    config.values = current.values.insertAll (c.settled d).entries ↔
      config.thresholds.keys = current.thresholds.keys ∧
      (∀ name ∈ current.thresholds.keys, Other d name → config.values.get? name =
        ((options.get? name).or (d.preset options name)).or (current.values.get? name)) ∧
      ∀ name ∈ current.thresholds.keys, ¬ Other d name →
        config.values.get? name = (d.preset options name).or (current.values.get? name) := by
  have hbound : ∀ name ∈ keysOf (c.settled d).entries, name ∈ current.values.keys := by
    intro name hname
    rw [current.keys_values, hfits.thresholds]
    exact hknown.settled name hname
  have hgiven : ∀ name ∈ current.thresholds.keys, Other d name →
      c.thresholds.get? name = options.get? name := by
    intro name hname other
    rw [hfits.thresholds] at hname
    exact hc.threshold name hname other
  constructor
  · intro hvalues
    refine ⟨?_, ?_, ?_⟩
    · rw [← config.keys_values, hvalues, Table.keys_insertAll_of_mem hbound, current.keys_values]
    · intro name hname other
      rw [hvalues, hc.get?_merged, hgiven name hname other]
    · intro name _ hreserved
      rw [hvalues, hc.get?_merged, hc.reserved name hreserved, Option.none_or]
  · rintro ⟨hnames, hthreshold, hreserved⟩
    have hkeys : config.values.keys = (current.values.insertAll (c.settled d).entries).keys := by
      rw [config.keys_values, hnames, Table.keys_insertAll_of_mem hbound, current.keys_values]
    apply Table.ext_get? hkeys
    intro name
    by_cases hname : name ∈ current.thresholds.keys
    · rw [hc.get?_merged]
      by_cases other : Other d name
      · rw [hthreshold name hname other, hgiven name hname other]
      · rw [hreserved name hname other, hc.reserved name other, Option.none_or]
    · -- neither table has a name that is not among the thresholds
      have hnone : name ∉ config.values.keys := by
        rw [config.keys_values, hnames]
        exact hname
      rw [Table.get?_eq_none_iff.mpr hnone, Table.get?_eq_none_iff.mpr (hkeys ▸ hnone)]

/-- **Choices and settings.** Choices that hold what the options give lead to a configuration
exactly if the options settle it. -/
theorem Reflects.withChanges_iff {d : RuleDefinition} {current config : RuleConfig}
    {options : Table Value} {c : Choices} (hfits : current.Fits d) (hknown : c.Known d)
    (hc : Reflects d options.entries c) :
    current.withChanges c.enabled c.severity (c.settled d) c.profile = .ok config ↔
      d.Settles current options config := by
  have henabled : options.get? "enabled" = c.enabled.map Value.bool := hc.enabled.symm
  have hseverity : (options.get? "severity").map Value.severity? = c.severity.map some :=
    hc.severity.symm
  have hchosen : d.chosen options = c.profile.map Value.text := hc.profile.symm
  have htext : Function.Injective Value.text := fun _ _ heq => Value.text.inj heq
  have hflag : config.enabled = c.enabled.getD current.enabled ↔
      Value.bool config.enabled = (options.get? "enabled").getD (.bool current.enabled) := by
    rw [henabled, Option.getD_map, Value.bool.injEq]
  have hweight : config.severity = c.severity.getD current.severity ↔
      some config.severity =
        ((options.get? "severity").map Value.severity?).getD (some current.severity) := by
    rw [hseverity, Option.getD_map, Option.some.injEq]
  have hnamed : config.profile = c.profile.or current.profile ↔
      config.profile.map Value.text =
        (d.chosen options).or (current.profile.map Value.text) := by
    rw [hchosen, ← Option.map_or, (Option.map_injective htext).eq_iff]
  -- both sides are the same four equations, one written over the choices, one over the options
  rw [RuleConfig.withChanges_eq_ok_iff, hflag, hweight, hnamed, hc.values_iff hfits hknown]
  constructor
  · rintro ⟨enabled, severity, ⟨names, threshold, reserved⟩, profile⟩
    exact ⟨enabled, severity, profile, names, threshold, reserved⟩
  · rintro ⟨enabled, severity, profile, names, threshold, reserved⟩
    exact ⟨enabled, severity, ⟨names, threshold, reserved⟩, profile⟩

end Choices

/-- **Options are applied by precedence.** Options lead to a configuration exactly if all of them
are accepted and they settle this configuration. The notes are those on the options that the rule
does not have. -/
theorem resolveOptions_eq_ok_iff {d : RuleDefinition} {current config : RuleConfig}
    {options : Table Value} {strict : Bool} {notes : List Diagnostic} (hfits : current.Fits d) :
    resolveOptions d current options strict = .ok (config, notes) ↔
      (∀ entry ∈ options.entries, d.Accepts strict entry) ∧ d.Settles current options config ∧
      notes = (options.entries.filter fun entry => entry.1 ∉ d.options).map
        fun entry => Choices.ignored d entry.1 := by
  unfold resolveOptions
  have hreflects : ∀ {c : Choices}, Choices.readAll d strict {} options.entries = .ok c →
      Choices.Reflects d options.entries c ∧ c.Known d := fun hread =>
    ⟨(Choices.reflects_nothing d).readAll options.nodup hread,
      (Choices.known_nothing d).readAll hread⟩
  -- the choices the readers leave reflect the options, which is all both directions need
  constructor
  · intro h
    obtain ⟨c, hread, h⟩ := bind_ok_iff.mp h
    obtain ⟨changed, hchanged, h⟩ := bind_ok_iff.mp h
    obtain ⟨rfl, rfl⟩ := Prod.mk.inj (Except.ok.inj h)
    obtain ⟨hc, hknown⟩ := hreflects hread
    exact ⟨Choices.readAll_ok_iff.mp ⟨c, hread⟩, (hc.withChanges_iff hfits hknown).mp hchanged,
      hc.diagnostics⟩
  · rintro ⟨haccepts, hsettles, rfl⟩
    obtain ⟨c, hread⟩ := Choices.readAll_ok_iff.mpr haccepts
    obtain ⟨hc, hknown⟩ := hreflects hread
    refine bind_ok_iff.mpr ⟨c, hread, bind_ok_iff.mpr
      ⟨config, (hc.withChanges_iff hfits hknown).mpr hsettles, ?_⟩⟩
    rw [← hc.diagnostics]
    rfl

/-! ## 3. The order of options, and options that are applied again -/

namespace RuleDefinition

variable {d : RuleDefinition} {current config : RuleConfig} {options : Table Value}

/-- Only what is given under a name of the rule counts. -/
theorem Settles.congr {others : Table Value} (h : d.Settles current options config)
    (hsame : ∀ name ∈ d.options, others.get? name = options.get? name)
    (hfits : current.Fits d) : d.Settles current others config := by
  have hchosen : d.chosen others = d.chosen options := by
    unfold chosen
    by_cases hprofiles : d.profiles.entries = []
    · rw [if_pos hprofiles, if_pos hprofiles]
    · rw [if_neg hprofiles, if_neg hprofiles,
        hsame "profile" (profile_mem_options hprofiles)]
  have hpreset : ∀ name, d.preset others name = d.preset options name := by
    intro name
    unfold preset
    rw [hchosen]
  refine ⟨?_, ?_, ?_, h.names, ?_, ?_⟩
  · rw [hsame "enabled" d.enabled_mem_options]
    exact h.enabled
  · rw [hsame "severity" d.severity_mem_options]
    exact h.severity
  · rw [hchosen]
    exact h.profile
  · intro name hname other
    have hoption : name ∈ d.options := threshold_mem_options (hfits.thresholds ▸ hname)
    rw [hsame name hoption, hpreset]
    exact h.threshold name hname other
  · intro name hname hreserved
    rw [hpreset]
    exact h.reserved name hname hreserved

/-- What options settle, they settle again: none of it depends on what the configuration was before.
-/
theorem Settles.again (h : d.Settles current options config) :
    d.Settles config options config := by
  -- a source that gives something gives what the configuration has by now
  have hkept : ∀ {given old new : Option Value}, new = given.or old → new = given.or new := by
    intro given old new hnew
    cases given with
    | none => rw [Option.none_or]
    | some v => rw [hnew, Option.some_or, Option.some_or]
  refine ⟨?_, ?_, hkept h.profile, rfl, ?_, ?_⟩
  · have hflag := h.enabled
    cases hgiven : options.get? "enabled" with
    | none => rfl
    | some v =>
      rw [hgiven] at hflag
      exact hflag
  · have hweight := h.severity
    cases hgiven : options.get? "severity" with
    | none => rfl
    | some v =>
      rw [hgiven] at hweight
      exact hweight
  · intro name hname other
    rw [h.names] at hname
    exact hkept (h.threshold name hname other)
  · intro name hname hreserved
    rw [h.names] at hname
    exact hkept (h.reserved name hname hreserved)

end RuleDefinition

section Applying

variable {d : RuleDefinition} {current config : RuleConfig} {options : Table Value} {strict : Bool}
  {notes : List Diagnostic}

/-- **The order of options.** In another order the options lead to the same configuration, with the
same notes in another order. -/
theorem resolveOptions_perm (hfits : current.Fits d)
    (h : resolveOptions d current options strict = .ok (config, notes)) {others : Table Value}
    (hperm : others.entries.Perm options.entries) :
    ∃ otherNotes, resolveOptions d current others strict = .ok (config, otherNotes) ∧
      otherNotes.Perm notes := by
  obtain ⟨haccepts, hsettles, rfl⟩ := (resolveOptions_eq_ok_iff hfits).mp h
  have hsame : ∀ name ∈ d.options, others.get? name = options.get? name :=
    fun name _ => lookup_perm hperm options.nodup name
  exact ⟨_, (resolveOptions_eq_ok_iff hfits).mpr
    ⟨fun entry hentry => haccepts entry (hperm.mem_iff.mp hentry), hsettles.congr hsame hfits, rfl⟩,
    (hperm.filter _).map _⟩

/-- **Options twice.** A second time, the options change nothing. The notes are the same as well,
since they depend on the names only. -/
theorem resolveOptions_again (hfits : current.Fits d)
    (h : resolveOptions d current options strict = .ok (config, notes)) :
    resolveOptions d config options strict = .ok (config, notes) := by
  obtain ⟨haccepts, hsettles, hnotes⟩ := (resolveOptions_eq_ok_iff hfits).mp h
  exact (resolveOptions_eq_ok_iff (hfits.resolveOptions h)).mpr ⟨haccepts, hsettles.again, hnotes⟩

end Applying

/-! ## 4. The options of a registered rule -/

namespace Registry

theorem definition_of_get {r : Registry} {ruleId : String} {rule : ConfiguredRule}
    (h : r.get ruleId = .ok rule) : r.definition ruleId = .ok rule.definition := by
  obtain ⟨d, hdefinition, h⟩ := bind_ok_iff.mp h
  obtain ⟨c, -, h⟩ := bind_ok_iff.mp h
  rw [hdefinition, ← Except.ok.inj h]

/-- **Settings by precedence.** Take a rule of any registry, as it is configured after any calls,
and options for it that are not refused, in strict mode or not.

* The enabled flag, the severity and, in a rule with profiles, the profile are the given ones, or
  as they were. A threshold is the given one, or else that of the profile given with it, or else as
  it was. The names of the thresholds and their order stay.
* In any other order the options lead to the same configuration, and a second time they change
  nothing.
* A call that configures the rule with the options leads to this configuration. A reset after it
  puts the rule back to its defaults, and leaves the registry as if the call had not been made. -/
theorem options_by_precedence {r : Registry} (hr : r.Reachable) {ruleId : String}
    {rule : ConfiguredRule} (hrule : r.get ruleId = .ok rule) {options : Table Value}
    {strict : Bool} {config : RuleConfig} {notes : List Diagnostic}
    (h : resolveOptions rule.definition rule.config options strict = .ok (config, notes)) :
    rule.definition.Settles rule.config options config ∧
      (∀ others : Table Value, others.entries.Perm options.entries →
        ∃ otherNotes, resolveOptions rule.definition rule.config others strict =
          .ok (config, otherNotes) ∧ otherNotes.Perm notes) ∧
      resolveOptions rule.definition config options strict = .ok (config, notes) ∧
      ∃ configured restored,
        r.configure ruleId (.table options.entries) strict = .ok (configured, notes) ∧
        configured.config ruleId = .ok config ∧
        configured.reset ruleId = .ok restored ∧ r.reset ruleId = .ok restored ∧
        restored.config ruleId = .ok rule.definition.defaults := by
  have hfits : rule.config.Fits rule.definition := (hr.sound.get hrule).2
  have hdefinition : r.definition ruleId = .ok rule.definition := definition_of_get hrule
  have hresolve : r.resolve strict (ruleId, options) = .ok (config, notes) :=
    bind_ok_iff.mpr ⟨rule, hrule, h⟩
  have hwritten : ∀ c : RuleConfig,
      Registry.config { r with configs := r.configs.insert ruleId c } ruleId = .ok c := by
    intro c
    unfold Registry.config
    rw [Table.get?_insert, if_pos rfl]
  refine ⟨((resolveOptions_eq_ok_iff hfits).mp h).2.1,
    fun others hperm => resolveOptions_perm hfits h hperm, resolveOptions_again hfits h,
    { r with configs := r.configs.insert ruleId config },
    { r with configs := r.configs.insert ruleId rule.definition.defaults },
    ?_, hwritten config, ?_, ?_, hwritten _⟩
  · rw [configure_table, Table.ofList_entries, hresolve]
    rfl
  · refine bind_ok_iff.mpr ⟨rule.definition, hdefinition, ?_⟩
    dsimp only
    rw [Table.insert_insert]
    rfl
  · exact bind_ok_iff.mpr ⟨rule.definition, hdefinition, rfl⟩

/-- The registry of the built-in rules is reached by registering them. -/
theorem reachable_builtin : builtin.Reachable :=
  ⟨builtinRules, builtin, [], ofDefinitions_builtinRules, rfl⟩

/-- A profile, and a threshold that the profile would set to something else. -/
def sampleChoice : Table Value :=
  Table.ofList [("max_lines", .int 70), ("profile", .text "relaxed")]

/-- The explicit threshold wins, although the profile comes after it. -/
theorem options_by_precedence_sample :
    ∃ rule config, builtin.get "max-class-size" = .ok rule ∧
      resolveOptions rule.definition rule.config sampleChoice true = .ok (config, []) ∧
      config.profile = some "relaxed" ∧
      config.thresholds.entries = [("max_methods", 10), ("max_lines", 70)] ∧
      resolveOptions rule.definition config sampleChoice true = .ok (config, []) := by
  have hrule : builtin.get "max-class-size" =
      .ok ⟨Builtin.maxClassSize, Builtin.maxClassSize.defaults⟩ := rfl
  have hresolved : resolveOptions Builtin.maxClassSize Builtin.maxClassSize.defaults sampleChoice
      true = .ok (⟨true, .warning, Table.ofList [("max_methods", 10), ("max_lines", 70)],
        some "relaxed"⟩, []) := rfl
  obtain ⟨-, -, hagain, -⟩ := options_by_precedence reachable_builtin hrule hresolved
  exact ⟨_, _, hrule, hresolved, rfl, rfl, hagain⟩

/-- A rule without profiles has no such option, so that a profile given to it is ignored. -/
theorem profile_ignored_without_profiles :
    builtin.Reachable ∧ ∃ rule config note,
      builtin.get "max-call-chain" = .ok rule ∧
      resolveOptions rule.definition rule.config (Table.ofList [("profile", .text "relaxed")])
        false = .ok (config, [note]) ∧
      note.option = "profile" ∧ config.profile = none := by
  exact ⟨reachable_builtin, ⟨Builtin.maxCallChain, Builtin.maxCallChain.defaults⟩,
    Builtin.maxCallChain.defaults, Choices.ignored Builtin.maxCallChain "profile",
    rfl, rfl, rfl, rfl⟩

end Registry

end Conformance
