import Conformance.Proofs.Options
import Conformance.Registry.Basic
import Mathlib.Data.List.Basic

/-!
# What every registry has in common

A registry keeps two tables, one of definitions and one of configurations, and changes them by
registering, configuring and resetting rules. Whatever calls are made, and whether or not they are
refused, the two tables stay in step: they have the same identifiers in the order of registration,
and every configuration fits its rule. Therefore a snapshot always succeeds, and it holds exactly
the enabled rules.

The argument is an invariant (`Registry.Sound`). One lemma says what an update of configurations
keeps, and both ways of configuring and resetting are instances of it; registering is the only
call that touches the definitions.
-/

set_option autoImplicit false

namespace Conformance

/-! ## 1. Histories of calls -/

/-- A call that changes a registry. -/
inductive RegistryCall where
  | register (ruleId : String) (d : RuleDefinition)
  | configure (ruleId : String) (options : Value) (strict : Bool)
  | configureMany (options : Table Value) (strict : Bool)
  | reset (ruleId : String)

namespace Registry

/-- What a call leads to: another registry, or a refusal. -/
def call (r : Registry) : RegistryCall → Except Error Registry
  | .register ruleId d => r.register ruleId d
  | .configure ruleId options strict => do return (← r.configure ruleId options strict).1
  | .configureMany options strict => do return (← r.configureMany options strict).1
  | .reset ruleId => r.reset ruleId

/-- The registry after a call; one that is refused changes nothing. -/
def after (r : Registry) (c : RegistryCall) : Registry :=
  match r.call c with
  | .ok changed => changed
  | .error _ => r

/-- The registry after calls, from first to last. -/
def afterAll (r : Registry) (calls : List RegistryCall) : Registry := calls.foldl after r

/-- The rule that a call registers, if it is a registration and is not refused. -/
def registered (r : Registry) (c : RegistryCall) : List RuleDefinition :=
  match c, r.call c with
  | .register _ d, .ok _ => [d]
  | _, _ => []

/-- The rules that calls register, in order. -/
def registrations (r : Registry) : List RegistryCall → List RuleDefinition
  | [] => []
  | c :: rest => r.registered c ++ (r.after c).registrations rest

/-! ## 2. The invariant -/

/-- The two tables are in step. -/
structure Sound (r : Registry) : Prop where
  sameIds : r.configs.keys = r.definitions.keys
  ownIds : ∀ e ∈ r.definitions.entries, e.1 = e.2.ruleId
  fits : ∀ id d c, r.definitions.get? id = some d → r.configs.get? id = some c → c.Fits d

theorem sound_empty : Sound {} where
  sameIds := rfl
  ownIds := fun _ he => absurd he List.not_mem_nil
  fits := fun _ _ _ hd => absurd hd (by simp)

/-- **Registering.** A rule that is not refused comes last in both tables, at its defaults. -/
theorem Sound.register {r r' : Registry} {ruleId : String} {d : RuleDefinition} (hr : r.Sound)
    (h : r.register ruleId d = .ok r') :
    r'.Sound ∧ r'.definitions.entries = r.definitions.entries ++ [(d.ruleId, d)] := by
  unfold Registry.register at h
  by_cases hid : ruleId = d.ruleId
  · rw [if_neg (not_not_intro hid)] at h
    by_cases hnew : ruleId ∈ r.ruleIds
    · rw [if_pos hnew] at h
      exact absurd h (by simp)
    · rw [if_neg hnew] at h
      rw [← Except.ok.inj h, ← hid]
      have hdefinitions : ruleId ∉ r.definitions.keys := hnew
      have hconfigs : ruleId ∉ r.configs.keys := by rw [hr.sameIds]; exact hnew
      have hentries := Table.entries_insert_of_not_mem hdefinitions d
      refine ⟨⟨?_, ?_, ?_⟩, hentries⟩
      · show (r.configs.insert ruleId d.defaults).keys = (r.definitions.insert ruleId d).keys
        rw [Table.keys_insert_of_not_mem hconfigs, Table.keys_insert_of_not_mem hdefinitions,
          hr.sameIds]
      · intro e he
        rw [hentries] at he
        rcases List.mem_append.mp he with hold | hlast
        · exact hr.ownIds e hold
        · rw [List.mem_singleton.mp hlast]
          exact hid
      · -- the new rule stands at its defaults, and the others are untouched
        intro id d' c hd hc
        rw [Table.get?_insert] at hd hc
        by_cases hsame : id = ruleId
        · rw [if_pos hsame] at hd hc
          rw [← Option.some.inj hd, ← Option.some.inj hc]
          exact d.defaults_fits
        · rw [if_neg hsame] at hd hc
          exact hr.fits id d' c hd hc
  · rw [if_pos hid] at h
    exact absurd h (by simp)

/-- A configuration for a registered rule, which it fits. -/
def Admits (r : Registry) (update : String × RuleConfig) : Prop :=
  ∃ d, r.definitions.get? update.1 = some d ∧ update.2.Fits d

/-- **Updating.** Configurations that fit replace others without moving anything, so the two tables
stay in step. -/
theorem Sound.update {r : Registry} (hr : r.Sound) {updates : List (String × RuleConfig)}
    (h : ∀ update ∈ updates, r.Admits update) :
    Sound { r with configs := r.configs.insertAll updates } where
  sameIds := by
    show (r.configs.insertAll updates).keys = r.definitions.keys
    -- only registered identifiers are updated, so no key comes in or moves
    rw [Table.keys_insertAll_of_mem, hr.sameIds]
    intro id hid
    obtain ⟨update, hupdate, rfl⟩ := List.mem_map.mp hid
    obtain ⟨d, hd, -⟩ := h update hupdate
    rw [hr.sameIds]
    exact Table.mem_keys_of_get? hd
  ownIds := hr.ownIds
  fits := by
    intro id d c hd hc
    -- a configuration found after the update is one of the new ones or was there before
    rcases Table.get?_insertAll hc with hupdate | hold
    · obtain ⟨d', hd', hfits⟩ := h (id, c) hupdate
      rw [Option.some.inj (hd.symm.trans hd')]
      exact hfits
    · exact hr.fits id d c hd hold

/-- What is asked for by its name is what is stored under it. -/
theorem get?_of_definition {r : Registry} {ruleId : String} {d : RuleDefinition}
    (h : r.definition ruleId = .ok d) : r.definitions.get? ruleId = some d := by
  unfold Registry.definition at h
  cases hget : r.definitions.get? ruleId with
  | none =>
    rw [hget] at h
    exact absurd h (by simp)
  | some found =>
    rw [hget] at h
    rw [Except.ok.inj h]

theorem get?_of_config {r : Registry} {ruleId : String} {c : RuleConfig}
    (h : r.config ruleId = .ok c) : r.configs.get? ruleId = some c := by
  unfold Registry.config at h
  cases hget : r.configs.get? ruleId with
  | none =>
    rw [hget] at h
    exact absurd h (by simp)
  | some found =>
    rw [hget] at h
    rw [Except.ok.inj h]

/-- A rule that is found has a configuration that fits it. -/
theorem Sound.get {r : Registry} (hr : r.Sound) {ruleId : String} {rule : ConfiguredRule}
    (h : r.get ruleId = .ok rule) :
    r.definitions.get? ruleId = some rule.definition ∧ rule.config.Fits rule.definition := by
  unfold Registry.get at h
  obtain ⟨d, hdefinition, h⟩ := bind_ok_iff.mp h
  obtain ⟨c, hconfig, h⟩ := bind_ok_iff.mp h
  have hd := get?_of_definition hdefinition
  have hc := get?_of_config hconfig
  rw [← Except.ok.inj h]
  exact ⟨hd, hr.fits ruleId d c hd hc⟩

/-- The configurations that groups of options lead to fit the rules they are for. -/
theorem Sound.resolveGroups {r : Registry} (hr : r.Sound) {strict : Bool}
    {groups : List (String × Table Value)} {updates : List (String × RuleConfig)}
    {notes : List Diagnostic} (h : r.resolveGroups strict groups = .ok (updates, notes)) :
    ∀ update ∈ updates, r.Admits update := by
  induction groups generalizing updates notes with
  | nil =>
    rw [← (Prod.mk.inj (Except.ok.inj h)).1]
    exact fun _ hmem => absurd hmem List.not_mem_nil
  | cons group rest ih =>
    obtain ⟨ruleId, options⟩ := group
    obtain ⟨rule, hrule, h⟩ := bind_ok_iff.mp h
    obtain ⟨⟨config, own⟩, hresolved, h⟩ := bind_ok_iff.mp h
    obtain ⟨⟨others, later⟩, hrest, h⟩ := bind_ok_iff.mp h
    rw [← (Prod.mk.inj (Except.ok.inj h)).1]
    obtain ⟨hdefinition, hfits⟩ := hr.get hrule
    intro update hupdate
    rcases List.mem_cons.mp hupdate with rfl | hlater
    · exact ⟨rule.definition, hdefinition, hfits.resolveOptions hresolved⟩
    · exact ih hrest update hlater

/-- Many rules at once: the definitions are not touched, and the configurations stay under their
rules. -/
theorem Sound.configureMany {r r' : Registry} (hr : r.Sound) {options : Table Value}
    {strict : Bool} {notes : List Diagnostic}
    (h : r.configureMany options strict = .ok (r', notes)) :
    r'.Sound ∧ r'.definitions = r.definitions := by
  unfold Registry.configureMany at h
  obtain ⟨grouped, -, h⟩ := bind_ok_iff.mp h
  obtain ⟨⟨updates, own⟩, hresolved, h⟩ := bind_ok_iff.mp h
  rw [← (Prod.mk.inj (Except.ok.inj h)).1]
  exact ⟨hr.update (hr.resolveGroups hresolved), rfl⟩

/-- A reset puts the defaults of a rule back, which fit it. -/
theorem Sound.reset {r r' : Registry} (hr : r.Sound) {ruleId : String}
    (h : r.reset ruleId = .ok r') : r'.Sound ∧ r'.definitions = r.definitions := by
  unfold Registry.reset at h
  obtain ⟨d, hdefinition, h⟩ := bind_ok_iff.mp h
  have hadmits : ∀ update ∈ [(ruleId, d.defaults)], r.Admits update := by
    intro update hupdate
    rw [List.mem_singleton.mp hupdate]
    exact ⟨d, get?_of_definition hdefinition, d.defaults_fits⟩
  rw [← Except.ok.inj h]
  exact ⟨hr.update hadmits, rfl⟩

/-- **One call.** It keeps the invariant, and registers at the end or nowhere. -/
theorem Sound.after {r : Registry} (hr : r.Sound) (c : RegistryCall) :
    (r.after c).Sound ∧
      (r.after c).definitions.entries =
        r.definitions.entries ++ (r.registered c).map fun d => (d.ruleId, d) := by
  unfold Registry.after registered
  cases h : r.call c with
  -- a refused call changes nothing and registers nothing
  | error e => exact ⟨hr, by cases c <;> simp⟩
  | ok r' =>
    cases c with
    | register ruleId d => exact hr.register h
    | configure ruleId options strict =>
      obtain ⟨⟨changed, notes⟩, hconfigured, hpure⟩ := bind_ok_iff.mp h
      obtain ⟨hsound, hdefinitions⟩ := hr.configureMany hconfigured
      rw [← Except.ok.inj hpure]
      exact ⟨hsound, by simp [hdefinitions]⟩
    | configureMany options strict =>
      obtain ⟨⟨changed, notes⟩, hconfigured, hpure⟩ := bind_ok_iff.mp h
      obtain ⟨hsound, hdefinitions⟩ := hr.configureMany hconfigured
      rw [← Except.ok.inj hpure]
      exact ⟨hsound, by simp [hdefinitions]⟩
    | reset ruleId =>
      obtain ⟨hsound, hdefinitions⟩ := hr.reset h
      exact ⟨hsound, by simp [hdefinitions]⟩

/-- **A history.** The invariant holds after any calls, and the definitions are those that were
there followed by those that were registered. -/
theorem Sound.afterAll {r : Registry} (hr : r.Sound) (calls : List RegistryCall) :
    (r.afterAll calls).Sound ∧
      (r.afterAll calls).definitions.entries =
        r.definitions.entries ++ (r.registrations calls).map fun d => (d.ruleId, d) := by
  induction calls generalizing r with
  | nil => exact ⟨hr, by simp [Registry.afterAll, registrations]⟩
  | cons c rest ih =>
    obtain ⟨hsound, hentries⟩ := hr.after c
    obtain ⟨hsoundAll, hentriesAll⟩ := ih hsound
    refine ⟨hsoundAll, ?_⟩
    show ((r.after c).afterAll rest).definitions.entries = _
    rw [hentriesAll, hentries, registrations, List.map_append, List.append_assoc]

/-- A registry that starts from rules has them in order. -/
theorem Sound.registerAll {r r' : Registry} (hr : r.Sound) {definitions : List RuleDefinition}
    (h : r.registerAll definitions = .ok r') :
    r'.Sound ∧ r'.definitions.entries =
      r.definitions.entries ++ definitions.map fun d => (d.ruleId, d) := by
  induction definitions generalizing r with
  | nil =>
    rw [← Except.ok.inj h]
    exact ⟨hr, by simp⟩
  | cons d rest ih =>
    obtain ⟨next, hregister, hrest⟩ := bind_ok_iff.mp h
    obtain ⟨hsound, hentries⟩ := hr.register hregister
    obtain ⟨hsoundAll, hentriesAll⟩ := ih hsound hrest
    refine ⟨hsoundAll, ?_⟩
    rw [hentriesAll, hentries, List.append_assoc, List.map_cons, List.singleton_append]

/-! ## 3. The rules of a registry, and its snapshots -/

/-- The configuration of a registered rule, by the rule's identifier. -/
theorem Sound.get?_of_entry {r : Registry} (hr : r.Sound) {e : String × RuleDefinition}
    (he : e ∈ r.definitions.entries) : ∃ c, r.configs.get? e.1 = some c := by
  refine Table.exists_get?_of_mem_keys ?_
  rw [hr.sameIds]
  exact List.mem_map.mpr ⟨e, he, rfl⟩

/-- Read as pairs of identifier and definition, the rules are the table of definitions. -/
theorem Sound.definitions_eq {r : Registry} (hr : r.Sound) :
    r.rules.map (fun rule => (rule.ruleId, rule.definition)) = r.definitions.entries := by
  unfold Registry.rules
  rw [List.map_filterMap]
  refine (List.filterMap_congr fun e he => ?_).trans List.filterMap_some
  obtain ⟨c, hc⟩ := hr.get?_of_entry he
  rw [hc, Option.map_some, Option.map_some, Option.some.injEq]
  exact Prod.ext (hr.ownIds e he).symm rfl

/-- Read as pairs of identifier and configuration, they are the table of configurations. -/
theorem Sound.configs_eq {r : Registry} (hr : r.Sound) :
    r.rules.map (fun rule => (rule.ruleId, rule.config)) = r.configs.entries := by
  -- the rules are listed by the keys of the definitions, which are those of the configurations
  have hrules : r.rules.map (fun rule => (rule.ruleId, rule.config)) =
      r.definitions.keys.filterMap fun id => (r.configs.get? id).map fun c => (id, c) := by
    unfold Registry.rules Table.keys keysOf
    rw [List.map_filterMap, List.filterMap_map]
    refine List.filterMap_congr fun e he => ?_
    obtain ⟨c, hc⟩ := hr.get?_of_entry he
    show Option.map _ (Option.map _ (r.configs.get? e.1)) =
      (r.configs.get? e.1).map fun c => (e.1, c)
    rw [hc, Option.map_some, Option.map_some, Option.map_some, hr.ownIds e he]
    rfl
  rw [hrules, ← hr.sameIds, ← Table.entries_eq_filterMap]

/-- The rules are listed under the names they were registered with. -/
theorem Sound.ruleIds_eq {r : Registry} (hr : r.Sound) :
    r.rules.map (·.ruleId) = r.ruleIds := by
  have h : (r.rules.map fun rule => (rule.ruleId, rule.definition)).map Prod.fst = r.ruleIds := by
    rw [hr.definitions_eq]
    rfl
  rwa [List.map_map] at h

/-- A rule that is listed is stored under its name. -/
theorem Sound.definition_of_mem {r : Registry} (hr : r.Sound) {rule : ConfiguredRule}
    (h : rule ∈ r.rules) : r.definitions.get? rule.ruleId = some rule.definition := by
  have hentry : (rule.ruleId, rule.definition) ∈ r.definitions.entries := by
    rw [← hr.definitions_eq]
    exact List.mem_map.mpr ⟨rule, h, rfl⟩
  exact Table.get?_of_mem hentry

theorem Sound.config_of_mem {r : Registry} (hr : r.Sound) {rule : ConfiguredRule}
    (h : rule ∈ r.rules) : r.configs.get? rule.ruleId = some rule.config := by
  have hentry : (rule.ruleId, rule.config) ∈ r.configs.entries := by
    rw [← hr.configs_eq]
    exact List.mem_map.mpr ⟨rule, h, rfl⟩
  exact Table.get?_of_mem hentry

/-- Every rule has a configuration that fits it. -/
theorem Sound.fits_of_mem {r : Registry} (hr : r.Sound) {rule : ConfiguredRule}
    (h : rule ∈ r.rules) : rule.config.Fits rule.definition :=
  hr.fits rule.ruleId rule.definition rule.config (hr.definition_of_mem h) (hr.config_of_mem h)

/-- Reading the configuration of each rule succeeds if there is one for each. -/
theorem withConfigs_eq_ok {r : Registry} {entries : List (String × RuleDefinition)}
    (h : ∀ e ∈ entries, ∃ c, r.configs.get? e.1 = some c) :
    r.withConfigs entries = .ok (entries.filterMap fun e =>
      (r.configs.get? e.1).map fun config => ⟨e.2, config⟩) := by
  induction entries with
  | nil => rfl
  | cons e rest ih =>
    obtain ⟨c, hc⟩ := h e List.mem_cons_self
    have hrest := ih fun other hother => h other (List.mem_cons_of_mem _ hother)
    have hconfig : r.config e.1 = .ok c := by
      unfold Registry.config
      rw [hc]
    rw [withConfigs, hconfig, hrest, List.filterMap_cons_some (by rw [hc, Option.map_some])]
    rfl

end Registry

/-- Enabled rules with distinct identifiers make a rule set, so a snapshot of a sound registry is
never refused. -/
theorem RuleSet.make_eq_ok {rules : List ConfiguredRule}
    (hnodup : (rules.map (·.ruleId)).Nodup) (henabled : ∀ r ∈ rules, r.config.enabled = true) :
    RuleSet.make rules = .ok ⟨rules, hnodup, henabled⟩ := by
  have hnone : rules.find? (!·.config.enabled) = none := by
    rw [List.find?_eq_none]
    intro rule hrule
    simp [henabled rule hrule]
  unfold RuleSet.make
  rw [dif_pos hnodup]
  split
  · rename_i rule hfound
    exact absurd (hnone.symm.trans hfound) (by simp)
  · rfl

/-- **Snapshots.** The snapshot of a sound registry holds exactly its enabled rules, in order. -/
theorem Registry.Sound.snapshot {r : Registry} (hr : r.Sound) :
    ∃ rules, r.snapshot = .ok rules ∧ rules.rules = r.rules.filter (·.config.enabled) := by
  have hnodup : ((r.rules.filter (·.config.enabled)).map (·.ruleId)).Nodup := by
    have hids : (r.rules.map (·.ruleId)).Nodup := by
      rw [hr.ruleIds_eq]
      exact r.definitions.nodup
    exact hids.sublist (List.filter_sublist.map _)
  have henabled : ∀ rule ∈ r.rules.filter (·.config.enabled), rule.config.enabled = true :=
    fun rule hrule => (List.mem_filter.mp hrule).2
  refine ⟨⟨_, hnodup, henabled⟩, ?_, rfl⟩
  unfold Registry.snapshot
  rw [Registry.withConfigs_eq_ok fun e he => hr.get?_of_entry he]
  exact RuleSet.make_eq_ok hnodup henabled

/-! ## 4. Every reachable registry -/

namespace Registry

/-- Rules with distinct identifiers are all registered, whatever the registry holds of others. -/
theorem registerAll_eq_ok {r : Registry} (hr : r.Sound) {definitions : List RuleDefinition}
    (hnodup : (definitions.map (·.ruleId)).Nodup)
    (hnew : ∀ d ∈ definitions, d.ruleId ∉ r.ruleIds) :
    r.registerAll definitions =
      .ok ⟨r.definitions.insertAll (definitions.map fun d => (d.ruleId, d)),
        r.configs.insertAll (definitions.map fun d => (d.ruleId, d.defaults))⟩ := by
  induction definitions generalizing r with
  | nil => rfl
  | cons d rest ih =>
    have hd : d.ruleId ∉ r.ruleIds := hnew d List.mem_cons_self
    have hcons : d.ruleId ∉ rest.map (·.ruleId) ∧ (rest.map (·.ruleId)).Nodup :=
      List.nodup_cons.mp hnodup
    have hregister : r.register d.ruleId d =
        .ok ⟨r.definitions.insert d.ruleId d, r.configs.insert d.ruleId d.defaults⟩ := by
      unfold Registry.register
      rw [if_neg (not_not_intro rfl), if_neg hd]
    rw [registerAll, hregister]
    -- what is registered first differs from what comes later, so these stay new
    refine ih (hr.register hregister).1 hcons.2 fun other hother hmem => ?_
    rw [Registry.ruleIds, Table.keys_insert_of_not_mem hd, List.mem_append] at hmem
    rcases hmem with hold | hlast
    · exact hnew other (List.mem_cons_of_mem _ hother) hold
    · rw [← List.mem_singleton.mp hlast] at hcons
      exact hcons.1 (List.mem_map.mpr ⟨other, hother, rfl⟩)

/-- The built-in registry is what registering the built-in rules in order leads to. -/
theorem ofDefinitions_builtinRules : ofDefinitions builtinRules = .ok builtin :=
  registerAll_eq_ok sound_empty nodup_builtinRules fun _ _ hmem => absurd hmem List.not_mem_nil

/-- A registry that some rules and some calls lead to. -/
def Reachable (r : Registry) : Prop :=
  ∃ definitions start calls, ofDefinitions definitions = .ok start ∧ start.afterAll calls = r

/-- **Every reachable registry is sound**, by induction on its history. -/
theorem Reachable.sound {r : Registry} (h : r.Reachable) : r.Sound := by
  obtain ⟨definitions, start, calls, hstart, rfl⟩ := h
  exact ((sound_empty.registerAll hstart).1.afterAll calls).1

/-- **Tables in step.** Whatever calls are made on a registry, accepted or refused:

* the table of definitions holds the rules it started from and then those that calls registered,
  in that order and each under its own identifier, and no identifier twice; the table of
  configurations has the same identifiers in the same order;
* every configuration has the thresholds of its rule's defaults, in their order (a threshold is a
  natural number by its type), and no profile that the rule does not define;
* a snapshot succeeds, and holds exactly the enabled rules in order of registration, each with its
  current configuration. -/
theorem tables_in_step {definitions : List RuleDefinition} {start : Registry}
    (hstart : ofDefinitions definitions = .ok start) (calls : List RegistryCall) :
    (start.afterAll calls).definitions.entries =
        (definitions ++ start.registrations calls).map (fun d => (d.ruleId, d)) ∧
      (start.afterAll calls).definitions.keys.Nodup ∧
      (start.afterAll calls).configs.keys = (start.afterAll calls).definitions.keys ∧
      (∀ id d c, (start.afterAll calls).definitions.get? id = some d →
        (start.afterAll calls).configs.get? id = some c →
          c.thresholds.keys = d.defaults.thresholds.keys ∧ ∀ p ∈ c.profile, p ∈ d.profiles.keys) ∧
      (start.afterAll calls).rules.map (fun rule => (rule.ruleId, rule.definition)) =
        (start.afterAll calls).definitions.entries ∧
      (start.afterAll calls).rules.map (fun rule => (rule.ruleId, rule.config)) =
        (start.afterAll calls).configs.entries ∧
      ∃ rules, (start.afterAll calls).snapshot = .ok rules ∧
        rules.rules = (start.afterAll calls).rules.filter (·.config.enabled) := by
  obtain ⟨hsoundStart, hentriesStart⟩ := sound_empty.registerAll hstart
  obtain ⟨hsound, hentries⟩ := hsoundStart.afterAll calls
  refine ⟨?_, (start.afterAll calls).definitions.nodup, hsound.sameIds, ?_, hsound.definitions_eq,
    hsound.configs_eq, hsound.snapshot⟩
  · rw [hentries, hentriesStart, List.map_append]
    rfl
  · intro id d c hd hc
    have hfits := hsound.fits id d c hd hc
    exact ⟨hfits.thresholds, hfits.profile⟩

/-- Calls of every kind, the second and the last two of them refused. -/
def sampleHistory : List RegistryCall :=
  [.register "no-abbreviation" Builtin.noAbbreviation,
    .register "max-call-chain" Builtin.maxCallChain,
    .configure "no-else-branch" (.table [("enabled", .bool false)]) true,
    .configureMany (Table.ofList [("max-call-chain.threshold", .int 4)]) false,
    .reset "no-abbreviation",
    .reset "max-calls",
    .configure "max-call-chain" (.table [("threshold", .int (-1))]) false]

/-- A history with calls that are refused in it, and rules registered late and switched off. -/
theorem tables_in_step_sample :
    ∃ start, ofDefinitions [Builtin.maxCallChain, Builtin.noElseBranch] = .ok start ∧
      (start.afterAll sampleHistory).definitions.keys =
        ["max-call-chain", "no-else-branch", "no-abbreviation"] ∧
      ∃ rules, (start.afterAll sampleHistory).snapshot = .ok rules ∧
        rules.ruleIds = ["max-call-chain", "no-abbreviation"] := by
  have hstart : ofDefinitions [Builtin.maxCallChain, Builtin.noElseBranch] =
      .ok ⟨Table.ofList [("max-call-chain", Builtin.maxCallChain),
          ("no-else-branch", Builtin.noElseBranch)],
        Table.ofList [("max-call-chain", Builtin.maxCallChain.defaults),
          ("no-else-branch", Builtin.noElseBranch.defaults)]⟩ := rfl
  obtain ⟨hentries, -, -, -, -, -, rules, hsnapshot, hrules⟩ := tables_in_step hstart sampleHistory
  refine ⟨_, hstart, ?_, rules, hsnapshot, ?_⟩
  · rw [Table.keys, hentries]
    decide +kernel
  · rw [RuleSet.ruleIds, hrules]
    decide +kernel

end Registry

end Conformance
