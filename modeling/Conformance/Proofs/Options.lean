import Conformance.Proofs.Table
import Conformance.Registry.Option

/-!
# What options cannot change

Options choose values for what a rule has. They bring in no threshold that the rule does not have,
and no profile that it does not define: a name that is not known never reaches the choices, and the
thresholds of a profile were compared with those of the rule when the rule was made. So a
configuration that fits its rule fits it after options have been applied, and the thresholds stand
in the same order as before.
-/

set_option autoImplicit false

namespace Conformance

/-- A configuration fits a rule: it has the rule's thresholds, in their order, and its profile, if
it has one, is one of the rule's. -/
structure RuleConfig.Fits (c : RuleConfig) (d : RuleDefinition) : Prop where
  thresholds : c.thresholds.keys = d.defaults.thresholds.keys
  profile : ∀ p ∈ c.profile, p ∈ d.profiles.keys

/-- A rule starts from a configuration that fits it, since its definition was accepted. -/
theorem RuleDefinition.defaults_fits (d : RuleDefinition) : d.defaults.Fits d :=
  ⟨rfl, d.default_profile⟩

namespace RuleConfig

/-- Checking thresholds drops none and moves none, so a configuration keeps the threshold names of
its rule for good. -/
theorem keys_of_checkThresholds {values : Table Value} {t : Table Nat}
    (h : checkThresholds values = .ok t) : t.keys = values.keys := by
  unfold checkThresholds at h
  obtain ⟨⟨checked, same⟩, -, hpure⟩ := bind_ok_iff.mp h
  rw [← Except.ok.inj hpure]
  exact same

/-- Changes to thresholds that are there leave their names and order alone. -/
theorem withChanges_eq_ok {c c' : RuleConfig} {enabled : Option Bool} {severity : Option Severity}
    {thresholds : Table Value} {profile : Option String}
    (hknown : ∀ name ∈ thresholds.keys, name ∈ c.thresholds.keys)
    (h : c.withChanges enabled severity thresholds profile = .ok c') :
    c'.thresholds.keys = c.thresholds.keys ∧ c'.profile = profile.or c.profile := by
  unfold withChanges make at h
  obtain ⟨t, ht, hpure⟩ := bind_ok_iff.mp h
  have hkeys := keys_of_checkThresholds ht
  have hmapped : (c.thresholds.mapValues fun _ n => Value.ofNat n).keys = c.thresholds.keys :=
    Table.keys_mapValues _ _
  rw [Table.keys_insertAll_of_mem (by rw [hmapped]; exact hknown), hmapped] at hkeys
  rw [← Except.ok.inj hpure]
  exact ⟨hkeys, rfl⟩

end RuleConfig

namespace Choices

/-- Choices that name only what the rule has. -/
structure Known (d : RuleDefinition) (c : Choices) : Prop where
  thresholds : ∀ name ∈ c.thresholds.keys, name ∈ d.defaults.thresholds.keys
  profile : ∀ p ∈ c.profile, p ∈ d.profiles.keys

theorem known_nothing (d : RuleDefinition) : Known d {} :=
  ⟨fun _ hname => absurd hname List.not_mem_nil, fun _ hp => by cases hp⟩

/-- A refusal is no result, whatever becomes of its reason. -/
theorem refuse_ne_ok {α : Type} {d : RuleDefinition} {option : String}
    {reason : Except Error String} {a : α} : refuse d option reason ≠ .ok a := by
  intro h
  obtain ⟨text, -, hraise⟩ := bind_ok_iff.mp h
  cases hraise

/-- A profile that is read is one of the rule's. -/
theorem mem_of_readProfile {d : RuleDefinition} {v : Value} {p : String}
    (h : readProfile d v = .ok p) : p ∈ d.profiles.keys := by
  unfold readProfile at h
  split at h
  · rename_i t
    split at h
    · rename_i hcontains
      rw [← Except.ok.inj h]
      simpa [Table.contains] using hcontains
    · exact absurd h refuse_ne_ok
  · exact absurd h refuse_ne_ok

/-- An option that is not the enabled flag, not the severity and, in a rule with profiles, not the
profile. -/
structure Other (d : RuleDefinition) (option : String) : Prop where
  enabled : option ≠ "enabled"
  severity : option ≠ "severity"
  profile : ¬ (option = "profile" ∧ d.profiles.entries ≠ [])

/-- What one option that is taken into account can do to the choices. -/
inductive Reads (d : RuleDefinition) (strict : Bool) (c : Choices) :
    String × Value → Choices → Prop
  | enabled {value : Value} {b : Bool} (h : readEnabled d value = .ok b) :
      Reads d strict c ("enabled", value) { c with enabled := some b }
  | severity {value : Value} {s : Severity} (h : readSeverity d value = .ok s) :
      Reads d strict c ("severity", value) { c with severity := some s }
  | profile {value : Value} {p : String} (defined : d.profiles.entries ≠ [])
      (h : readProfile d value = .ok p) :
      Reads d strict c ("profile", value) { c with profile := some p }
  | threshold {option : String} {value : Value} {n : Nat} (other : Other d option)
      (known : option ∈ d.defaults.thresholds.keys) (h : readThreshold d option value = .ok n) :
      Reads d strict c (option, value)
        { c with thresholds := c.thresholds.insert option (Value.ofNat n) }
  | ignored {option : String} {value : Value} (other : Other d option)
      (unknown : option ∉ d.defaults.thresholds.keys) (lenient : strict = false) :
      Reads d strict c (option, value) { c with diagnostics := c.diagnostics ++ [ignored d option] }

/-- **One option.** It is taken into account in one of five ways. -/
theorem reads_of_read {d : RuleDefinition} {strict : Bool} {c c' : Choices}
    {entry : String × Value} (h : c.read d strict entry = .ok c') : Reads d strict c entry c' := by
  obtain ⟨option, value⟩ := entry
  unfold Choices.read at h
  dsimp only at h
  by_cases henabled : option = "enabled"
  · rw [if_pos henabled] at h
    obtain ⟨b, hb, hpure⟩ := bind_ok_iff.mp h
    rw [henabled, ← Except.ok.inj hpure]
    exact .enabled hb
  rw [if_neg henabled] at h
  by_cases hseverity : option = "severity"
  · rw [if_pos hseverity] at h
    obtain ⟨s, hs, hpure⟩ := bind_ok_iff.mp h
    rw [hseverity, ← Except.ok.inj hpure]
    exact .severity hs
  rw [if_neg hseverity] at h
  by_cases hprofile : option = "profile" ∧ d.profiles.entries ≠ []
  · rw [if_pos hprofile] at h
    obtain ⟨p, hp, hpure⟩ := bind_ok_iff.mp h
    rw [hprofile.1, ← Except.ok.inj hpure]
    exact .profile hprofile.2 hp
  rw [if_neg hprofile] at h
  -- what is left is the name of a threshold or nothing that the rule knows
  have hother : Other d option := ⟨henabled, hseverity, hprofile⟩
  by_cases hknown : option ∈ d.defaults.thresholds.keys
  · rw [if_pos (by simpa [Table.contains] using hknown)] at h
    obtain ⟨n, hn, hpure⟩ := bind_ok_iff.mp h
    rw [← Except.ok.inj hpure]
    exact .threshold hother hknown hn
  · rw [if_neg (by simpa [Table.contains] using hknown)] at h
    cases strict with
    | true => exact absurd h (by simp)
    | false =>
      rw [← Except.ok.inj h]
      exact .ignored hother hknown rfl

/-- An option leaves the choices within the rule: a threshold or a profile that the rule does not
have is refused or ignored. -/
theorem Known.read {d : RuleDefinition} {strict : Bool} {c c' : Choices} {entry : String × Value}
    (hc : c.Known d) (h : c.read d strict entry = .ok c') : c'.Known d := by
  cases reads_of_read h with
  | enabled _ => exact ⟨hc.thresholds, hc.profile⟩
  | severity _ => exact ⟨hc.thresholds, hc.profile⟩
  | profile _ hp =>
    refine ⟨hc.thresholds, fun q hq => ?_⟩
    rw [← Option.some.inj hq]
    exact mem_of_readProfile hp
  | threshold _ known _ =>
    refine ⟨fun name hname => ?_, hc.profile⟩
    rw [Table.keys_insert] at hname
    split at hname
    · exact hc.thresholds name hname
    · rcases List.mem_append.mp hname with hold | hnew
      · exact hc.thresholds name hold
      · rw [List.mem_singleton.mp hnew]
        exact known
  | ignored _ _ _ => exact ⟨hc.thresholds, hc.profile⟩

/-- All options, one after another. -/
theorem Known.readAll {d : RuleDefinition} {strict : Bool} {c c' : Choices}
    {entries : List (String × Value)} (hc : c.Known d)
    (h : Choices.readAll d strict c entries = .ok c') : c'.Known d := by
  induction entries generalizing c with
  | nil =>
    rw [← Except.ok.inj h]
    exact hc
  | cons entry rest ih =>
    obtain ⟨next, hread, hrest⟩ := bind_ok_iff.mp h
    exact ih (hc.read hread) hrest

/-- The thresholds to set are thresholds of the rule, those of a chosen profile included. -/
theorem Known.settled {d : RuleDefinition} {c : Choices} (hc : c.Known d) :
    ∀ name ∈ (c.settled d).keys, name ∈ d.defaults.thresholds.keys := by
  intro name hname
  unfold Choices.settled at hname
  cases hprofile : c.profile with
  | none =>
    rw [hprofile] at hname
    exact hc.thresholds name hname
  | some p =>
    rw [hprofile] at hname
    obtain ⟨values, hvalues⟩ := Table.exists_get?_of_mem_keys (hc.profile p hprofile)
    dsimp only at hname
    rw [hvalues, Option.getD_some] at hname
    obtain ⟨value, hvalue⟩ := Table.exists_get?_of_mem_keys hname
    -- the thresholds of the profile come first, and those that were set go on top of them
    rcases Table.get?_insertAll hvalue with hexplicit | hpreset
    · exact hc.thresholds name (List.mem_map.mpr ⟨(name, value), hexplicit, rfl⟩)
    · exact d.profiles_known (p, values) (Table.mem_of_get? hvalues) name
        (Table.mem_keys_of_get? hpreset)

end Choices

/-- **Options keep the fit.** A configuration that fits its rule fits it after any options. -/
theorem RuleConfig.Fits.resolveOptions {d : RuleDefinition} {current config : RuleConfig}
    {options : Table Value} {strict : Bool} {notes : List Diagnostic} (hfits : current.Fits d)
    (h : Conformance.resolveOptions d current options strict = .ok (config, notes)) :
    config.Fits d := by
  unfold Conformance.resolveOptions at h
  obtain ⟨c, hread, hrest⟩ := bind_ok_iff.mp h
  obtain ⟨config', hchanged, hpure⟩ := bind_ok_iff.mp hrest
  have hconfig : config' = config := (Prod.mk.inj (Except.ok.inj hpure)).1
  rw [hconfig] at hchanged
  have hknown : c.Known d := (Choices.known_nothing d).readAll hread
  obtain ⟨hkeys, hprofile⟩ := RuleConfig.withChanges_eq_ok
    (fun name hname => by rw [hfits.thresholds]; exact hknown.settled name hname) hchanged
  refine ⟨hkeys.trans hfits.thresholds, fun p hp => ?_⟩
  rw [hprofile] at hp
  cases hchosen : c.profile with
  | none =>
    rw [hchosen, Option.none_or] at hp
    exact hfits.profile p hp
  | some q =>
    rw [hchosen, Option.some_or] at hp
    exact hknown.profile p (hchosen.trans hp)

end Conformance
