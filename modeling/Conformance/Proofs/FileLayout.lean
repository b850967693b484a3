import Conformance.Configuration
import Conformance.Proofs.Table
import Mathlib.Algebra.Order.Ring.Int
import Mathlib.Data.List.Forall2
import Mathlib.Data.Option.Basic

/-!
# What a configuration file says

A configuration stands at the top of a file of its own, or under the name of the checker in a file
that other tools share. Which of the two it is makes no difference: the same table leads to the same
configuration, or to the same error (`FileConfiguration.parse_of_embeds`).

What the table has to look like is said here without the functions that read it. Each setting is
left out or has a value of its kind, which for numbers comes with a bound; truth values are no
numbers here. The options of the rules are tables in a table. `FileConfiguration.Describes` says
that a table has these properties and that a configuration holds what is in it, and a table is read
as a configuration exactly if it describes it.
-/

set_option autoImplicit false

namespace Conformance

/-! ## 1. Amounts of time -/

/-- Zero of either sign, and all numbers below. What is not a number is not among them. -/
inductive Binary64.AtMostZero : Binary64 → Prop
  | infinite : AtMostZero (.infinite true)
  | zero (negative : Bool) (exponent : Int) : AtMostZero (.finite negative 0 exponent)
  | negative (significand : Nat) (exponent : Int) :
      AtMostZero (.finite true significand exponent)

/-- An amount that no budget may have. -/
inductive Seconds.AtMostZero : Seconds → Prop
  | whole {n : Int} (h : n ≤ 0) : AtMostZero (.whole n)
  | fraction {x : Binary64} (h : x.AtMostZero) : AtMostZero (.fraction x)

/-- The sign of a float is told by its bits: multiplying by a power of two does not change it. -/
theorem Binary64.units_pos_iff {negative : Bool} {significand : Nat} {exponent : Int} :
    0 < units negative significand exponent ↔ negative = false ∧ significand ≠ 0 := by
  have hpow : 0 < Nat.pow 2 (exponent - leastExponent).toNat := Nat.pow_pos (by decide)
  have hsize : 0 < significand * Nat.pow 2 (exponent - leastExponent).toNat ↔ significand ≠ 0 := by
    rw [Nat.mul_pos_iff_of_pos_right hpow, Nat.pos_iff_ne_zero]
  unfold units
  dsimp only
  cases negative with
  | true =>
    rw [if_pos rfl]
    exact iff_of_false (by omega) (by simp)
  | false =>
    rw [if_neg Bool.false_ne_true, ← hsize, eq_self, true_and]
    exact Int.natCast_pos

/-- So a budget that is a float is judged by comparing it with zero, as a number on the line. -/
theorem Binary64.atMostZero_iff {x : Binary64} {p : LinePoint} (hp : x.point? = some p) :
    x.AtMostZero ↔ LinePoint.lt (.at 0) p = false := by
  cases x with
  | nan => exact absurd hp (by simp [point?])
  | infinite negative =>
    rw [← Option.some.inj hp]
    cases negative with
    | true => exact iff_of_true .infinite rfl
    | false => exact iff_of_false (fun h => nomatch h) (by simp [LinePoint.lt])
  | finite negative significand exponent =>
    rw [← Option.some.inj hp]
    have hlt : LinePoint.lt (.at 0) (.at (units negative significand exponent)) = false ↔
        ¬ (negative = false ∧ significand ≠ 0) := by
      rw [← units_pos_iff]
      exact decide_eq_false_iff_not
    rw [hlt]
    -- a negative zero is not above zero: the sign counts only with a significand
    constructor
    · rintro (_ | _ | _)
      · simp
      · simp
    · intro h
      cases negative with
      | true => exact .negative significand exponent
      | false =>
        have hzero : significand = 0 := by simpa using h
        exact hzero ▸ .zero false exponent

/-- The comparison that settings make is the one with zero. -/
theorem Seconds.isAtMostZero_iff {b : Seconds} : b.isAtMostZero = true ↔ b.AtMostZero := by
  cases b with
  | whole n =>
    have hpow : 0 < Int.pow 2 1074 := Int.pow_pos (by decide)
    have hpos : 0 < n * Int.pow 2 1074 ↔ 0 < n := mul_pos_iff_of_pos_right hpow
    have hlt : (Seconds.whole n).isAtMostZero = !decide (0 < n * Int.pow 2 1074) := rfl
    rw [hlt, Bool.not_eq_true', decide_eq_false_iff_not, hpos, Int.not_lt]
    exact ⟨.whole, fun h => by cases h; assumption⟩
  | fraction x =>
    have hfraction : (Seconds.fraction x).AtMostZero ↔ x.AtMostZero :=
      ⟨fun h => by cases h; assumption, .fraction⟩
    have hpoint : (Seconds.fraction x).point? = x.point? := rfl
    rw [hfraction, isAtMostZero, hpoint]
    cases hp : x.point? with
    | none =>
      refine iff_of_false (by simp) fun h => ?_
      cases h <;> simp [Binary64.point?] at hp
    | some p => rw [Binary64.atMostZero_iff hp, Bool.not_eq_true']

/-- There is at least one worker and the budget is not at most zero, if these are given. -/
theorem Settings.make_eq_ok_iff {workers : Option Int} {budget : Option Seconds} {strict : Bool}
    {settings : Settings} :
    Settings.make workers budget strict = .ok settings ↔
      (∀ n ∈ workers, 1 ≤ n) ∧ (∀ b ∈ budget, ¬ b.AtMostZero) ∧
      settings = ⟨workers.map Int.toNat, budget, strict⟩ := by
  have hworkers : (∀ n ∈ workers, 1 ≤ n) ↔ workers.filter (· < 1) = none := by
    rw [Option.filter_eq_none_iff]
    simp
  have hbudget : (∀ b ∈ budget, ¬ b.AtMostZero) ↔ budget.filter (·.isAtMostZero) = none := by
    rw [Option.filter_eq_none_iff]
    simp only [Seconds.isAtMostZero_iff]
    rfl
  rw [hworkers, hbudget]
  unfold Settings.make
  cases workers.filter (· < 1) with
  | some n => simp
  | none =>
    cases budget.filter (·.isAtMostZero) with
    | some b => simp
    | none => simp [eq_comm]

/-- Settings within the bounds are made of what they hold. -/
theorem Settings.make_self {settings : Settings} (hworkers : ∀ n ∈ settings.maxWorkers, 1 ≤ n)
    (hbudget : ∀ b ∈ settings.budget, ¬ b.AtMostZero) :
    Settings.make (settings.maxWorkers.map Int.ofNat) settings.budget settings.strictOptions =
      .ok settings := by
  rw [make_eq_ok_iff]
  refine ⟨fun n hn => ?_, hbudget, ?_⟩
  · obtain ⟨m, hm, rfl⟩ := Option.map_eq_some_iff.mp hn
    exact Int.ofNat_le.mpr (hworkers m hm)
  · have hround : (settings.maxWorkers.map Int.ofNat).map Int.toNat = settings.maxWorkers := by
      rw [Option.map_map]
      exact Option.map_id'
    rw [hround]

namespace FileConfiguration

/-! ## 2. The two layouts -/

/-- A document that other tools share holds a table under the name of the checker. -/
def Embeds (document s : Table Value) : Prop :=
  ∃ v tool w, document.get? "tool" = some v ∧ v.table? = some tool ∧
    tool.get? toolName = some w ∧ w.table? = some s

/-- A table that does not hold another one in this way, nor anything else under this name. -/
def Outermost (s : Table Value) : Prop :=
  ∀ v tool, s.get? "tool" = some v → v.table? = some tool → toolName ∉ tool.keys

/-- Where the layout with a section is recognised, the section is what it holds. -/
theorem sectionOf_of_embeds {document s : Table Value} (h : Embeds document s) (source : String) :
    sectionOf source document = .ok s := by
  obtain ⟨v, tool, w, hv, htool, hw, hs⟩ := h
  unfold sectionOf
  rw [hv, Option.bind_some, htool, Option.bind_some, hw]
  dsimp only
  rw [hs]

/-- Where it is not, the whole document is the section. -/
theorem sectionOf_of_outermost {s : Table Value} (h : Outermost s) (source : String) :
    sectionOf source s = .ok s := by
  have hnone : ((s.get? "tool").bind Value.table?).bind (·.get? toolName) = none := by
    cases hv : s.get? "tool" with
    | none => rfl
    | some v =>
      rw [Option.bind_some]
      cases htool : v.table? with
      | none => rfl
      | some tool => exact Table.get?_eq_none_iff.mpr (h v tool hv htool)
  unfold sectionOf
  rw [hnone]

/-- **Two layouts.** A table is read alike where it stands at the top and where it stands under the
name of the checker, whatever else is in the shared document. -/
theorem parse_of_embeds {document s : Table Value} (hdocument : Embeds document s)
    (hs : Outermost s) (source : String) : parse source document = parse source s := by
  unfold parse
  rw [sectionOf_of_embeds hdocument, sectionOf_of_outermost hs]

/-! ## 3. The options of rules -/

/-- The tables that are kept are the given ones, in their order and under their names. -/
def Keeps (given : Table Value) (kept : Table (Table Value)) : Prop :=
  List.Forall₂ (fun e k => k.1 = e.1 ∧ e.2.table? = some k.2) given.entries kept.entries

/-- One entry of the rules passes if its value is a table, and is kept as it is. -/
theorem checkRule_eq_ok_iff {source : String} {e : String × Value} {kept : String × Table Value} :
    checkRule source e = .ok kept ↔ kept.1 = e.1 ∧ e.2.table? = some kept.2 := by
  unfold checkRule
  cases e.2.table? with
  | none => simp
  | some options =>
    obtain ⟨name, t⟩ := kept
    simp [eq_comm]

/-- All of them pass if each does, and they stay in their order. -/
theorem mapM_checkRule_eq_ok_iff {source : String} {entries : List (String × Value)}
    {kept : List (String × Table Value)} :
    entries.mapM (checkRule source) = .ok kept ↔
      List.Forall₂ (fun e k => k.1 = e.1 ∧ e.2.table? = some k.2) entries kept := by
  simp only [mapM_eq_ok_iff, checkRule_eq_ok_iff]

/-- The names of the rules are kept, so they are still distinct. -/
theorem keysOf_of_forall₂ {entries : List (String × Value)} {kept : List (String × Table Value)}
    (h : List.Forall₂ (fun e k => k.1 = e.1 ∧ e.2.table? = some k.2) entries kept) :
    keysOf kept = keysOf entries := by
  induction h with
  | nil => rfl
  | cons hfirst _ ih => exact congrArg₂ List.cons hfirst.1 ih

/-- No rules, or a table of tables. -/
inductive RulesAre (s : Table Value) (rules : Table (Table Value)) : Prop
  | none (absent : s.get? "rules" = none) (h : rules = .empty)
  | given {v : Value} {given : Table Value} (present : s.get? "rules" = some v)
      (table : v.table? = some given) (h : Keeps given rules)

/-- **The rules** of a section are read exactly if all of them are tables. -/
theorem readRules_eq_ok_iff {source : String} {s : Table Value} {rules : Table (Table Value)} :
    readRules source s = .ok rules ↔ RulesAre s rules := by
  unfold readRules
  constructor
  · intro h
    cases hv : s.get? "rules" with
    | none =>
      rw [hv] at h
      exact .none hv (Except.ok.inj h).symm
    | some v =>
      rw [hv] at h
      dsimp only at h
      cases htable : v.table? with
      | none =>
        rw [htable] at h
        exact absurd h (by simp)
      | some given =>
        rw [htable] at h
        obtain ⟨kept, hkept, h⟩ := bind_ok_iff.mp h
        rw [mapM_checkRule_eq_ok_iff] at hkept
        refine .given hv htable ?_
        rw [← Except.ok.inj h]
        unfold Keeps
        -- the names are those of a table, so that none of them comes twice
        rw [Table.entries_ofList (keysOf_of_forall₂ hkept ▸ given.nodup)]
        exact hkept
  · rintro (⟨absent, rfl⟩ | ⟨present, table, hkept⟩)
    · rw [absent]
    · rw [present]
      dsimp only
      rw [table]
      refine bind_ok_iff.mpr ⟨rules.entries, mapM_checkRule_eq_ok_iff.mpr hkept, ?_⟩
      exact congrArg Except.ok (Table.ofList_entries rules)

/-- Tables in a table can be kept: they are put together to a table again, since their keys are the
same. -/
theorem exists_keeps {given : Table Value}
    (h : ∀ e ∈ given.entries, ∃ options, e.2.table? = some options) : ∃ kept, Keeps given kept := by
  refine ⟨given.mapValues fun _ v => v.table?.getD .empty, ?_⟩
  unfold Keeps Table.mapValues
  rw [List.forall₂_map_right_iff, List.forall₂_same]
  intro e he
  obtain ⟨options, hoptions⟩ := h e he
  refine ⟨rfl, ?_⟩
  show e.2.table? = some (e.2.table?.getD .empty)
  rw [hoptions, Option.getD_some]

/-- The converse of what was kept: the entries were tables. -/
theorem table_of_forall₂ {entries : List (String × Value)} {kept : List (String × Table Value)}
    (h : List.Forall₂ (fun e k => k.1 = e.1 ∧ e.2.table? = some k.2) entries kept) :
    ∀ e ∈ entries, ∃ options, e.2.table? = some options := by
  induction h with
  | nil => exact fun _ he => absurd he List.not_mem_nil
  | cons hfirst _ ih => exact List.forall_mem_cons.mpr ⟨⟨_, hfirst.2⟩, ih⟩

/-! ## 4. Settings -/

/-- A setting is left out, or has a value of its kind. -/
theorem readSetting_eq_ok_iff {α : Type} {read : Value → Option α} {write : α → Value}
    (hread : ∀ v a, read v = some a ↔ v = write a) {source key kind : String} {s : Table Value}
    {setting : Option α} :
    readSetting source key kind read s = .ok setting ↔ s.get? key = setting.map write := by
  unfold readSetting
  cases s.get? key with
  | none => simp [eq_comm]
  | some v =>
    dsimp only
    cases hv : read v with
    | some a =>
      rw [(hread v a).mp hv, Except.ok.injEq]
      cases setting with
      | none => simp
      | some b =>
        have hinj : write a = write b ↔ a = b := by
          rw [← hread, (hread (write a) a).mpr rfl, Option.some.injEq]
        rw [Option.map_some, Option.some.injEq, Option.some.injEq, hinj]
    | none =>
      refine iff_of_false (fun h => ?_) fun h => ?_
      · obtain ⟨text, -, hrefused⟩ := bind_ok_iff.mp h
        cases hrefused
      obtain ⟨a, -, ha⟩ := Option.map_eq_some_iff.mp h.symm
      exact absurd (hv.symm.trans ((hread v a).mpr ha.symm)) (by simp)

/-- A whole number is an integer; a truth value is none here. -/
theorem whole?_eq_some_iff (v : Value) (n : Int) : whole? v = some n ↔ v = .int n := by
  cases v <;> simp [whole?]

/-- A truth value is one of the two, and no number. -/
theorem bool?_eq_some_iff (v : Value) (b : Bool) : bool? v = some b ↔ v = .bool b := by
  cases v <;> simp [bool?]

/-- A number of seconds is an integer or a float, the two kinds of number that a file can hold. -/
theorem ofValue?_eq_some_iff (v : Value) (b : Seconds) :
    Seconds.ofValue? v = some b ↔ v = b.toValue := by
  cases v <;> cases b <;> simp [Seconds.ofValue?, Seconds.toValue]

/-- A flag is given as it is, or it is off and may be left out. -/
theorem getD_flag_iff {given : Option Value} {flag : Bool} :
    given.getD (.bool false) = .bool flag ↔
      ∃ read : Option Bool, given = read.map Value.bool ∧ read.getD false = flag := by
  constructor
  · intro h
    cases given with
    | none => exact ⟨none, rfl, Value.bool.inj h⟩
    | some v => exact ⟨some flag, congrArg some h, rfl⟩
  · rintro ⟨read, rfl, rfl⟩
    cases read <;> rfl

/-- A table has settings of the right kinds and sizes, and these are the settings: the given value,
or the default if none is given. -/
structure SettingsAre (s : Table Value) (settings : Settings) : Prop where
  maxWorkers : s.get? "max_workers" = settings.maxWorkers.map fun n => .int n
  someWorker : ∀ n ∈ settings.maxWorkers, 1 ≤ n
  budget : s.get? "time_budget_s" = settings.budget.map Seconds.toValue
  positive : ∀ b ∈ settings.budget, ¬ b.AtMostZero
  strictOptions : (s.get? "strict_options").getD (.bool false) = .bool settings.strictOptions

/-- **The settings** of a section, one by one: a setting that is missing has its default. -/
theorem readSettings_eq_ok_iff {source : String} {s : Table Value} {settings : Settings} :
    readSettings source s = .ok settings ↔ SettingsAre s settings := by
  unfold readSettings
  constructor
  · intro h
    obtain ⟨workers, hworkers, h⟩ := bind_ok_iff.mp h
    obtain ⟨budget, hbudget, h⟩ := bind_ok_iff.mp h
    obtain ⟨strict, hstrict, h⟩ := bind_ok_iff.mp h
    rw [readSetting_eq_ok_iff whole?_eq_some_iff] at hworkers
    rw [readSetting_eq_ok_iff ofValue?_eq_some_iff] at hbudget
    rw [readSetting_eq_ok_iff bool?_eq_some_iff] at hstrict
    cases hmake : Settings.make workers budget (strict.getD false) with
    | error e =>
      rw [hmake] at h
      exact absurd h (by simp [throw, throwThe, MonadExceptOf.throw])
    | ok made =>
      rw [hmake] at h
      rw [← Except.ok.inj h]
      obtain ⟨hleast, hpositive, rfl⟩ := Settings.make_eq_ok_iff.mp hmake
      refine ⟨?_, ?_, hbudget, hpositive, ?_⟩
      · rw [hworkers]
        cases workers with
        | none => rfl
        | some n =>
          -- the file holds an integer and the settings a natural number
          have hn := hleast n rfl
          have hnat : (n.toNat : Int) = n := by omega
          simp [hnat]
      · intro n hn
        obtain ⟨m, hm, rfl⟩ := Option.map_eq_some_iff.mp hn
        have hleast := hleast m hm
        omega
      · exact getD_flag_iff.mpr ⟨strict, hstrict, rfl⟩
  · intro h
    obtain ⟨strict, hstrict, hflag⟩ := getD_flag_iff.mp h.strictOptions
    refine bind_ok_iff.mpr ⟨settings.maxWorkers.map Int.ofNat,
      (readSetting_eq_ok_iff whole?_eq_some_iff).mpr ?_,
      bind_ok_iff.mpr ⟨settings.budget, (readSetting_eq_ok_iff ofValue?_eq_some_iff).mpr h.budget,
        bind_ok_iff.mpr ⟨strict, (readSetting_eq_ok_iff bool?_eq_some_iff).mpr hstrict, ?_⟩⟩⟩
    · rw [h.maxWorkers, Option.map_map]
      rfl
    · rw [hflag, Settings.make_self h.someWorker h.positive]
      rfl

/-! ## 5. What a table describes -/

/-- A table has what a configuration needs, and the configuration is made of it. -/
structure Describes (s : Table Value) (config : FileConfiguration) : Prop where
  rules : RulesAre s config.rules
  settings : SettingsAre s config.settings

/-- A table has what a configuration needs. -/
structure Valid (s : Table Value) : Prop where
  rules : ∀ v, s.get? "rules" = some v → ∃ given, v.table? = some given ∧
    ∀ e ∈ given.entries, ∃ options, e.2.table? = some options
  maxWorkers : ∀ v, s.get? "max_workers" = some v → ∃ n : Int, v = .int n ∧ 1 ≤ n
  budget : ∀ v, s.get? "time_budget_s" = some v →
    (∃ n : Int, v = .int n ∧ ¬ n ≤ 0) ∨ ∃ x, v = .float x ∧ ¬ x.AtMostZero
  strictOptions : ∀ v, s.get? "strict_options" = some v → ∃ b, v = .bool b

/-- **A section is parsed** exactly to what it describes; rules and settings are independent of each
other. -/
theorem parse_eq_ok_iff {source : String} {s : Table Value} (hs : Outermost s)
    {config : FileConfiguration} : parse source s = .ok config ↔ Describes s config := by
  have hparse : parse source s = do
      let rules ← readRules source s
      let settings ← readSettings source s
      return { rules, settings } := by
    unfold parse
    rw [sectionOf_of_outermost hs]
    rfl
  rw [hparse]
  constructor
  · intro h
    obtain ⟨rules, hrules, h⟩ := bind_ok_iff.mp h
    obtain ⟨settings, hsettings, h⟩ := bind_ok_iff.mp h
    rw [← Except.ok.inj h]
    exact ⟨readRules_eq_ok_iff.mp hrules, readSettings_eq_ok_iff.mp hsettings⟩
  · intro h
    exact bind_ok_iff.mpr ⟨config.rules, readRules_eq_ok_iff.mpr h.rules,
      bind_ok_iff.mpr ⟨config.settings, readSettings_eq_ok_iff.mpr h.settings, rfl⟩⟩

/-- What is described is valid, since each part of a description is a part of validity. -/
theorem Describes.valid {s : Table Value} {config : FileConfiguration} (h : Describes s config) :
    Valid s where
  rules := by
    intro v hv
    cases h.rules with
    | none absent _ => exact absurd (hv.symm.trans absent) (by simp)
    | given present table hkept =>
      rw [Option.some.inj (hv.symm.trans present)]
      exact ⟨_, table, table_of_forall₂ hkept⟩
  maxWorkers := by
    intro v hv
    obtain ⟨n, hn, rfl⟩ := Option.map_eq_some_iff.mp (h.settings.maxWorkers.symm.trans hv)
    exact ⟨n, rfl, Int.ofNat_le.mpr (h.settings.someWorker n hn)⟩
  budget := by
    intro v hv
    obtain ⟨b, hb, rfl⟩ := Option.map_eq_some_iff.mp (h.settings.budget.symm.trans hv)
    have hpositive := h.settings.positive b hb
    cases b with
    | whole n => exact .inl ⟨n, rfl, fun hn => hpositive (.whole hn)⟩
    | fraction x => exact .inr ⟨x, rfl, fun hx => hpositive (.fraction hx)⟩
  strictOptions := by
    intro v hv
    have hflag := h.settings.strictOptions
    rw [hv] at hflag
    exact ⟨_, hflag⟩

/-- In the other direction, valid rules can be written down. -/
theorem Valid.exists_rules {s : Table Value} (h : Valid s) : ∃ rules, RulesAre s rules := by
  cases hv : s.get? "rules" with
  | none => exact ⟨.empty, .none hv rfl⟩
  | some v =>
    obtain ⟨given, htable, hgiven⟩ := h.rules v hv
    obtain ⟨kept, hkept⟩ := exists_keeps hgiven
    exact ⟨kept, .given hv htable hkept⟩

theorem Valid.exists_settings {s : Table Value} (h : Valid s) :
    ∃ settings, SettingsAre s settings := by
  have hworkers : ∃ workers : Option Nat,
      s.get? "max_workers" = workers.map (fun n => .int n) ∧ ∀ n ∈ workers, 1 ≤ n := by
    cases hv : s.get? "max_workers" with
    | none => exact ⟨none, rfl, fun _ hn => nomatch hn⟩
    | some v =>
      obtain ⟨n, rfl, hn⟩ := h.maxWorkers v hv
      have hnat : (n.toNat : Int) = n := by omega
      refine ⟨some n.toNat, by simp [hnat], fun m hm => ?_⟩
      rw [← Option.some.inj hm]
      omega
  have hbudget : ∃ budget : Option Seconds,
      s.get? "time_budget_s" = budget.map Seconds.toValue ∧ ∀ b ∈ budget, ¬ b.AtMostZero := by
    cases hv : s.get? "time_budget_s" with
    | none => exact ⟨none, rfl, fun _ hb => nomatch hb⟩
    | some v =>
      rcases h.budget v hv with ⟨n, rfl, hn⟩ | ⟨x, rfl, hx⟩
      · refine ⟨some (.whole n), rfl, fun b hb hzero => ?_⟩
        rw [← Option.some.inj hb] at hzero
        cases hzero with
        | whole hle => exact hn hle
      · refine ⟨some (.fraction x), rfl, fun b hb hzero => ?_⟩
        rw [← Option.some.inj hb] at hzero
        cases hzero with
        | fraction hle => exact hx hle
  have hstrict : ∃ b, (s.get? "strict_options").getD (.bool false) = .bool b := by
    cases hv : s.get? "strict_options" with
    | none => exact ⟨false, rfl⟩
    | some v => exact h.strictOptions v hv
  -- each key was read on its own: no setting depends on another
  obtain ⟨workers, hworkers, hleast⟩ := hworkers
  obtain ⟨budget, hbudget, hpositive⟩ := hbudget
  obtain ⟨strict, hstrict⟩ := hstrict
  exact ⟨⟨workers, budget, strict⟩, hworkers, hleast, hbudget, hpositive, hstrict⟩

/-- **Layouts and settings.** Take a table that does not itself hold an entry for the checker in a
table of tools, and any name for its source.

* A document that holds the table under the name of the checker leads to the same configuration as
  the table alone, or to the same error, whatever else the document and its table of tools hold.
* The table leads to a configuration exactly if the rules are left out or are a table of tables, the
  number of workers is left out or a whole number of at least one, the time budget is left out or a
  number that does not compare as at most zero, and the strictness is left out or a truth value.
* It is then read as the configuration that has the given tables in order, and each setting as given
  or at its default. -/
theorem layouts_agree_and_settings_exact {s : Table Value} (hs : Outermost s) (source : String) :
    (∀ document, Embeds document s → parse source document = parse source s) ∧
      ((∃ config, parse source s = .ok config) ↔ Valid s) ∧
      ∀ config, parse source s = .ok config ↔ Describes s config := by
  refine ⟨fun document h => parse_of_embeds h hs source, ⟨?_, fun h => ?_⟩,
    fun config => parse_eq_ok_iff hs⟩
  · rintro ⟨config, h⟩
    exact ((parse_eq_ok_iff hs).mp h).valid
  · obtain ⟨rules, hrules⟩ := h.exists_rules
    obtain ⟨settings, hsettings⟩ := h.exists_settings
    exact ⟨⟨rules, settings⟩, (parse_eq_ok_iff hs).mpr ⟨hrules, hsettings⟩⟩

/-- Settings and options for one rule; the table of tools is that of another tool. -/
def sampleTable : Table Value :=
  Table.ofList
    [("max_workers", .int 4), ("time_budget_s", .float .nan),
      ("tool", .table [("formatter", .table [])]),
      ("rules", .table [("max-class-size", .table [("profile", .text "relaxed")])])]

/-- A document of several tools. -/
def sampleDocument : Table Value :=
  Table.ofList
    [("project", .text "shop"),
      ("tool", .table [("formatter", .int 1), ("calicheck", .table sampleTable.entries)])]

theorem layouts_agree_and_settings_exact_sample :
    ∃ config, parse "shared.toml" sampleDocument = .ok config ∧
      parse "shared.toml" sampleTable = .ok config ∧
      config.rules.keys = ["max-class-size"] ∧ config.settings.maxWorkers = some 4 ∧
      config.settings.strictOptions = false := by
  have hs : Outermost sampleTable := by
    intro v tool hv htool
    obtain rfl : Value.table [("formatter", .table [])] = v := Option.some.inj hv
    obtain rfl := Option.some.inj htool
    decide
  obtain ⟨hlayouts, -, hdescribes⟩ := layouts_agree_and_settings_exact hs "shared.toml"
  have hdocument : Embeds sampleDocument sampleTable := ⟨_, _, _, rfl, rfl, rfl, rfl⟩
  have hconfig : parse "shared.toml" sampleTable = .ok
      ⟨Table.ofList [("max-class-size", Table.ofList [("profile", .text "relaxed")])],
        ⟨some 4, some (.fraction .nan), false⟩⟩ := rfl
  exact ⟨_, (hlayouts _ hdocument).trans hconfig, hconfig, rfl, rfl, rfl⟩

end FileConfiguration

end Conformance
