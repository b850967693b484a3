import Conformance.Proofs.Options

/-!
# Which options are taken, and which are refused

A rule names its options, and it reads them one by one. This file says what the two have to do with
each other: an option that is read has one of the names, and each name is read. What is left is the
value. Which values a rule takes for an option is said here without the functions that read them
(`RuleDefinition.Takes`).

An option is therefore accepted or rejected (`RuleDefinition.Accepts`, `RuleDefinition.Rejects`)
whatever else was read before it. So all options are accepted, or there is a first one that is not,
and this one decides on the error (`Choices.readAll_ok_or_error`).
-/

set_option autoImplicit false

namespace Conformance

/-! ## 1. What a rule takes -/

/-- The severity that a value stands for, as such or by its name. -/
def Value.severity? : Value → Option Severity
  | .severity s => some s
  | .text t => Severity.ofText? t
  | _ => none

namespace RuleDefinition

/-- The options of a rule are the two that every rule has, its thresholds and, if it has profiles,
the profile. -/
theorem mem_options_iff {d : RuleDefinition} {option : String} :
    option ∈ d.options ↔ option = "enabled" ∨ option = "severity" ∨
      option ∈ d.defaults.thresholds.keys ∨ option = "profile" ∧ d.profiles.entries ≠ [] := by
  unfold options Text.sorted
  rw [(List.mergeSort_perm _ _).mem_iff, List.mem_eraseDups, List.mem_append, List.mem_append]
  cases hprofiles : d.profiles.entries with
  | nil => simp [or_assoc]
  | cons first rest => simp [or_assoc]

theorem enabled_mem_options (d : RuleDefinition) : "enabled" ∈ d.options :=
  mem_options_iff.mpr (.inl rfl)

theorem severity_mem_options (d : RuleDefinition) : "severity" ∈ d.options :=
  mem_options_iff.mpr (.inr (.inl rfl))

/-- The profile is an option of rules that have profiles only. -/
theorem profile_mem_options {d : RuleDefinition} (h : d.profiles.entries ≠ []) :
    "profile" ∈ d.options :=
  mem_options_iff.mpr (.inr (.inr (.inr ⟨rfl, h⟩)))

theorem threshold_mem_options {d : RuleDefinition} {name : String}
    (h : name ∈ d.defaults.thresholds.keys) : name ∈ d.options :=
  mem_options_iff.mpr (.inr (.inr (.inl h)))

/-- An option that is none of the settings is a threshold. -/
theorem mem_options_iff_of_other {d : RuleDefinition} {option : String}
    (other : Choices.Other d option) :
    option ∈ d.options ↔ option ∈ d.defaults.thresholds.keys := by
  rw [mem_options_iff, or_iff_right other.enabled, or_iff_right other.severity,
    or_iff_left other.profile]

/-- The rule has the option and takes the value for it. -/
inductive Takes (d : RuleDefinition) (option : String) (v : Value) : Prop
  | enabled (b : Bool) (name : option = "enabled") (h : v = .bool b)
  | severity (s : Severity) (name : option = "severity") (h : v.severity? = some s)
  | profile (p : String) (name : option = "profile") (defined : p ∈ d.profiles.keys)
      (h : v = .text p)
  | threshold (n : Nat) (other : Choices.Other d option)
      (known : option ∈ d.defaults.thresholds.keys) (h : v = .int n)

/-- An option that does not stop a rule from being configured. -/
def Accepts (d : RuleDefinition) (strict : Bool) (entry : String × Value) : Prop :=
  d.Takes entry.1 entry.2 ∨ strict = false ∧ entry.1 ∉ d.options

/-- An option that does, with the error that it leads to. The refusal of a value quotes it, and if
it has no text the fault of the text is the error. -/
inductive Rejects (d : RuleDefinition) (strict : Bool) : String × Value → Error → Prop
  | value {option reason : String} {v : Value} (known : option ∈ d.options)
      (h : ¬ d.Takes option v) (hreason : reason ≠ "") (hwritten : v.textFault? = none) :
      Rejects d strict (option, v) (RuleError.invalidOption d.ruleId option reason).raise
  | unwritten {option : String} {v : Value} {fault : Error} (known : option ∈ d.options)
      (h : ¬ d.Takes option v) (hfault : v.textFault? = some fault) :
      Rejects d strict (option, v) fault
  | unknown {option : String} {v : Value} (h : option ∉ d.options) (hstrict : strict = true) :
      Rejects d strict (option, v) (RuleError.unknownOption d.ruleId option).raise

/-- A rule with a profile of some name has profiles. -/
theorem profiles_ne_of_mem {d : RuleDefinition} {p : String} (h : p ∈ d.profiles.keys) :
    d.profiles.entries ≠ [] := by
  intro hnone
  unfold Table.keys keysOf at h
  rw [hnone] at h
  exact absurd h List.not_mem_nil

/-- What a rule takes is among its options, so it is never taken for unknown. -/
theorem Takes.mem_options {d : RuleDefinition} {option : String} {v : Value}
    (h : d.Takes option v) : option ∈ d.options := by
  cases h with
  | enabled b name _ => exact name ▸ d.enabled_mem_options
  | severity s name _ => exact name ▸ d.severity_mem_options
  | profile p name defined _ => exact name ▸ profile_mem_options (profiles_ne_of_mem defined)
  | threshold n _ known _ => exact threshold_mem_options known

/-- An entry is not both accepted and rejected. This makes the first rejected one unique. -/
theorem Accepts.not_rejects {d : RuleDefinition} {strict : Bool} {entry : String × Value}
    (h : d.Accepts strict entry) {e : Error} (hrejects : d.Rejects strict entry e) : False := by
  cases hrejects with
  | value known hvalue _ _ | unwritten known hvalue _ =>
    rcases h with htakes | ⟨-, hunknown⟩
    · exact hvalue htakes
    · exact hunknown known
  | unknown hunknown hstrict =>
    rcases h with htakes | ⟨hlenient, -⟩
    · exact hunknown htakes.mem_options
    · exact absurd (hlenient.symm.trans hstrict) Bool.false_ne_true

end RuleDefinition

/-! ## 2. How one option is read -/

namespace Choices

open RuleDefinition

variable {d : RuleDefinition} {v : Value}

/-- A reason for a refusal: a text that says something, or the fault of a value without a text. -/
inductive Reason (v : Value) : Except Error String → Prop
  | text {reason : String} (hreason : reason ≠ "") (hwritten : v.textFault? = none) :
      Reason v (.ok reason)
  | fault {fault : Error} (hfault : v.textFault? = some fault) : Reason v (.error fault)

/-- What comes of reading a value: what it stands for, if the rule takes it, or a refusal with a
reason. -/
inductive Reading {α : Type} (d : RuleDefinition) (option : String) (v : Value)
    (stands : α → Prop) : Except Error α → Prop
  | taken {a : α} (h : d.Takes option v) (hstands : stands a) : Reading d option v stands (.ok a)
  | refused {reason : Except Error String} (h : ¬ d.Takes option v) (hreason : Reason v reason) :
      Reading d option v stands (refuse d option reason)

theorem Reading.stands_of_ok {α : Type} {option : String} {stands : α → Prop} {x : Except Error α}
    (h : Reading d option v stands x) {a : α} (hx : x = .ok a) : stands a := by
  cases h with
  | taken _ hstands => exact Except.ok.inj hx ▸ hstands
  | refused _ _ => exact absurd hx refuse_ne_ok

/-- Texts of errors start with fixed words, so they are never empty. -/
theorem append_ne_empty {start : String} (h : start ≠ "") (rest : String) : start ++ rest ≠ "" := by
  intro hempty
  exact h (String.append_eq_empty_iff.mp hempty).1

/-- A reason that quotes the value. -/
theorem reason_of_write {text : String → String} (h : ∀ quoted, text quoted ≠ "") :
    Reason v (do return text (← v.write)) := by
  unfold Value.write
  cases hfault : v.textFault? with
  | some fault => exact .fault hfault
  | none => exact .text (h _) hfault

theorem takes_enabled_iff : d.Takes "enabled" v ↔ ∃ b, v = .bool b := by
  constructor
  · intro h
    cases h with
    | enabled b _ h => exact ⟨b, h⟩
    | severity _ name _ => exact absurd name (by decide)
    | profile _ name _ _ => exact absurd name (by decide)
    | threshold _ other _ _ => exact absurd rfl other.enabled
  · rintro ⟨b, h⟩
    exact .enabled b rfl h

/-- The severity takes severities, and the names that stand for them. -/
theorem takes_severity_iff : d.Takes "severity" v ↔ ∃ s, v.severity? = some s := by
  constructor
  · intro h
    cases h with
    | enabled _ name _ => exact absurd name (by decide)
    | severity s _ h => exact ⟨s, h⟩
    | profile _ name _ _ => exact absurd name (by decide)
    | threshold _ other _ _ => exact absurd rfl other.severity
  · rintro ⟨s, h⟩
    exact .severity s rfl h

/-- The profile takes the names of the profiles that there are. -/
theorem takes_profile_iff (hprofiles : d.profiles.entries ≠ []) :
    d.Takes "profile" v ↔ ∃ p ∈ d.profiles.keys, v = .text p := by
  constructor
  · intro h
    cases h with
    | enabled _ name _ => exact absurd name (by decide)
    | severity _ name _ => exact absurd name (by decide)
    | profile p _ defined h => exact ⟨p, defined, h⟩
    | threshold _ other _ _ => exact absurd ⟨rfl, hprofiles⟩ other.profile
  · rintro ⟨p, defined, h⟩
    exact .profile p rfl defined h

/-- A threshold takes natural numbers. It has to have a name of its own: one that is called like
another option is never reached. -/
theorem takes_threshold_iff {option : String} (other : Other d option)
    (known : option ∈ d.defaults.thresholds.keys) :
    d.Takes option v ↔ ∃ n : Nat, v = .int n := by
  constructor
  · intro h
    cases h with
    | enabled _ name _ => exact absurd name other.enabled
    | severity _ name _ => exact absurd name other.severity
    | profile _ name defined _ => exact absurd ⟨name, profiles_ne_of_mem defined⟩ other.profile
    | threshold n _ _ h => exact ⟨n, h⟩
  · rintro ⟨n, h⟩
    exact .threshold n other known h

/-- The switch is read as it stands, and refused with the values that it takes. -/
theorem reading_readEnabled :
    Reading d "enabled" v (fun b => v = .bool b) (readEnabled d v) := by
  have hrefused : (∀ b, v ≠ .bool b) → Reading d "enabled" v (fun b => v = .bool b)
      (refuse d "enabled" do return "expected bool, got " ++ (← v.write)) := by
    intro h
    refine .refused ?_ (reason_of_write fun _ => append_ne_empty (by decide) _)
    rw [takes_enabled_iff]
    rintro ⟨b, hv⟩
    exact h b hv
  cases v with
  | bool b => exact .taken (.enabled b rfl rfl) rfl
  | _ => exact hrefused (by simp)

/-- What is said of a text that names no severity. -/
theorem severityMessage_ne_empty (t : String) : (Error.unknownSeverity t).message ≠ "" := by
  show "unknown severity: " ++ Text.quoted t ≠ ""
  exact append_ne_empty (by decide) _

/-- The severity is read from a member or from its name. -/
theorem reading_readSeverity :
    Reading d "severity" v (fun s => v.severity? = some s) (readSeverity d v) := by
  have hrefused : v.severity? = none → ∀ {reason : Except Error String}, Reason v reason →
      Reading d "severity" v (fun s => v.severity? = some s) (refuse d "severity" reason) := by
    intro h reason hreason
    refine .refused ?_ hreason
    rw [takes_severity_iff, h]
    simp
  unfold readSeverity
  cases v with
  | severity s => exact .taken (.severity s rfl rfl) rfl
  | text t =>
    unfold Severity.parse
    dsimp only
    cases h : Severity.ofText? t with
    | some s => exact .taken (.severity s rfl h) h
    | none => exact hrefused h (.text (severityMessage_ne_empty t) rfl)
  | _ => exact hrefused rfl (reason_of_write fun _ => append_ne_empty (by decide) _)

/-- The profile is read as a text and looked up. -/
theorem reading_readProfile (hprofiles : d.profiles.entries ≠ []) :
    Reading d "profile" v (fun p => v = .text p) (readProfile d v) := by
  have hrefused : (∀ p ∈ d.profiles.keys, v ≠ .text p) →
      Reading d "profile" v (fun p => v = .text p) (readProfile.unknown d v) := by
    intro h
    -- a text is refused when it names no profile, any other value always
    unfold readProfile.unknown
    refine .refused ?_ ?_
    · rw [takes_profile_iff hprofiles]
      rintro ⟨p, hp, hv⟩
      exact h p hp hv
    · refine reason_of_write fun _ => ?_
      rw [String.append_assoc, String.append_assoc, String.append_assoc]
      exact append_ne_empty (by decide) _
  unfold readProfile
  cases v with
  | text t =>
    dsimp only
    by_cases ht : t ∈ d.profiles.keys
    · rw [if_pos (by simpa [Table.contains] using ht)]
      exact .taken (.profile t rfl ht rfl) rfl
    · rw [if_neg (by simpa [Table.contains] using ht)]
      refine hrefused fun p hp hv => ht ?_
      rw [Value.text.inj hv]
      exact hp
  | _ => exact hrefused (by simp)

/-- A threshold is read as a number, which must not be negative. -/
theorem reading_readThreshold {option : String} (other : Other d option)
    (known : option ∈ d.defaults.thresholds.keys) :
    Reading d option v (fun n => v = Value.ofNat n) (readThreshold d option v) := by
  have hrefused : (∀ n : Nat, v ≠ .int n) → ∀ {reason : Except Error String}, Reason v reason →
      Reading d option v (fun n => v = Value.ofNat n) (refuse d option reason) := by
    intro h reason hreason
    refine .refused ?_ hreason
    rw [takes_threshold_iff other known]
    rintro ⟨n, hv⟩
    exact h n hv
  -- a negative integer is refused like a value that is none
  unfold readThreshold
  cases v with
  | int n =>
    dsimp only
    by_cases hneg : n < 0
    · rw [if_pos hneg]
      refine hrefused (fun k hk => ?_) (reason_of_write fun _ => append_ne_empty (by decide) _)
      have hnat := Value.int.inj hk
      omega
    · rw [if_neg hneg]
      have hnat : n = (n.toNat : Nat) := by omega
      have hvalue : Value.int n = Value.ofNat n.toNat := congrArg Value.int hnat
      exact .taken (.threshold n.toNat other known hvalue) hvalue
  | _ => exact hrefused (by simp) (reason_of_write fun _ => append_ne_empty (by decide) _)

/-- A reading that goes into the choices makes the option accepted or rejected. -/
theorem Reading.ok_or_error {α : Type} {option : String} {stands : α → Prop}
    {x : Except Error α} (h : Reading d option v stands x) (hknown : option ∈ d.options)
    (strict : Bool) (next : α → Choices) :
    (d.Accepts strict (option, v) ∧ ∃ c, (do return next (← x)) = Except.ok c) ∨
      ∃ e, d.Rejects strict (option, v) e ∧ (do return next (← x)) = Except.error e := by
  cases h with
  | taken htakes _ => exact .inl ⟨.inl htakes, _, rfl⟩
  | refused hvalue hreason =>
    cases hreason with
    | text hreason hwritten => exact .inr ⟨_, .value hknown hvalue hreason hwritten, rfl⟩
    | fault hfault => exact .inr ⟨_, .unwritten hknown hvalue hfault, rfl⟩

/-- **One option.** It is accepted and read, or it is rejected with its error. What was chosen
before makes no difference. -/
theorem read_ok_or_error (d : RuleDefinition) (strict : Bool) (c : Choices)
    (entry : String × Value) :
    (d.Accepts strict entry ∧ ∃ c', c.read d strict entry = .ok c') ∨
      ∃ e, d.Rejects strict entry e ∧ c.read d strict entry = .error e := by
  obtain ⟨option, value⟩ := entry
  unfold Choices.read
  dsimp only
  by_cases henabled : option = "enabled"
  · rw [if_pos henabled, henabled]
    exact reading_readEnabled.ok_or_error d.enabled_mem_options strict _
  rw [if_neg henabled]
  by_cases hseverity : option = "severity"
  · rw [if_pos hseverity, hseverity]
    exact reading_readSeverity.ok_or_error d.severity_mem_options strict _
  rw [if_neg hseverity]
  by_cases hprofile : option = "profile" ∧ d.profiles.entries ≠ []
  · rw [if_pos hprofile, hprofile.1]
    exact (reading_readProfile hprofile.2).ok_or_error (profile_mem_options hprofile.2) strict _
  rw [if_neg hprofile]
  have hother : Other d option := ⟨henabled, hseverity, hprofile⟩
  by_cases hthreshold : option ∈ d.defaults.thresholds.keys
  · rw [if_pos (by simpa [Table.contains] using hthreshold)]
    exact (reading_readThreshold hother hthreshold).ok_or_error
      (threshold_mem_options hthreshold) strict _
  · -- none of the names, so that only the mode decides
    rw [if_neg (by simpa [Table.contains] using hthreshold)]
    have hunknown : option ∉ d.options := mt (mem_options_iff_of_other hother).mp hthreshold
    cases strict with
    | true => exact .inr ⟨_, .unknown hunknown rfl, rfl⟩
    | false => exact .inl ⟨.inr ⟨rfl, hunknown⟩, _, rfl⟩

/-! ## 3. All options -/

/-- **All options.** They are all accepted and read, or one is rejected and all before it are
accepted. -/
theorem readAll_ok_or_error (d : RuleDefinition) (strict : Bool) (c : Choices)
    (entries : List (String × Value)) :
    ((∀ entry ∈ entries, d.Accepts strict entry) ∧ ∃ c', readAll d strict c entries = .ok c') ∨
      ∃ before entry after e, entries = before ++ entry :: after ∧
        (∀ earlier ∈ before, d.Accepts strict earlier) ∧ d.Rejects strict entry e ∧
        readAll d strict c entries = .error e := by
  induction entries generalizing c with
  | nil => exact .inl ⟨fun _ h => absurd h List.not_mem_nil, c, rfl⟩
  | cons first rest ih =>
    rw [readAll]
    rcases read_ok_or_error d strict c first with ⟨haccepts, next, hread⟩ | ⟨e, hrejects, hread⟩
    · rw [hread]
      rcases ih next with
        ⟨hall, c', hrest⟩ | ⟨before, entry, after, e, rfl, hbefore, hrejects, hrest⟩
      · exact .inl ⟨List.forall_mem_cons.mpr ⟨haccepts, hall⟩, c', hrest⟩
      · exact .inr ⟨first :: before, entry, after, e, rfl,
          List.forall_mem_cons.mpr ⟨haccepts, hbefore⟩, hrejects, hrest⟩
    · rw [hread]
      exact .inr ⟨[], first, rest, e, rfl, fun _ h => absurd h List.not_mem_nil, hrejects, rfl⟩

/-- **All entries are read** exactly if each is accepted: what was read before has no influence. -/
theorem readAll_ok_iff {strict : Bool} {c : Choices} {entries : List (String × Value)} :
    (∃ c', readAll d strict c entries = .ok c') ↔ ∀ entry ∈ entries, d.Accepts strict entry := by
  rcases readAll_ok_or_error d strict c entries with
    ⟨hall, hok⟩ | ⟨before, entry, after, e, rfl, -, hrejects, herror⟩
  · exact iff_of_true hok hall
  · refine iff_of_false ?_ ?_
    · rintro ⟨c', hok⟩
      exact absurd (hok.symm.trans herror) (by simp)
    · intro hall
      exact (hall entry (by simp)).not_rejects hrejects

end Choices

end Conformance
