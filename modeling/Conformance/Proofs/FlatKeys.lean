import Conformance.Proofs.Grouping
import Mathlib.Data.List.Forall2
import Mathlib.Data.List.Nodup
import Mathlib.Data.List.TakeWhile

/-!
# Flat keys and tables

An option is given under a flat key, in which a dot joins the rule and the option, or in a table
under the name of the rule. What an entry gives to which rule is said here without the function that
groups the entries (`Gives`), and what a list of entries means follows from it: the rules are those
that are mentioned, in the order of their first mention, and the value of an option is that of the
last entry that supplies one. An entry of one kind may override one of the other in either
direction.

Grouping is a loop. Its invariant is an account of the entries that were grouped so far
(`Accounts`): one more entry mentions one rule, and what it supplies comes before all that was
supplied for this rule until then.
-/

set_option autoImplicit false

namespace Conformance

/-! ## 1. Keys of two parts -/

/-- A key is a rule and an option, none of them empty, and its first dot stands between the two. -/
structure Joins (key rule option : String) : Prop where
  key : key = rule ++ "." ++ option
  rule_ne : rule ≠ ""
  dotless : '.' ∉ rule.toList
  option_ne : option ≠ ""

/-- A flat key is the name of the rule, a dot, and the name of the option. -/
theorem toList_join (rule option : String) :
    (rule ++ "." ++ option).toList = rule.toList ++ '.' :: option.toList := by
  rw [String.toList_append, String.toList_append, List.append_assoc]
  rfl

/-- **Keys are cut at the first dot.** Names of rules have no dot, and what follows the first one is
the name of the option with all its dots. -/
theorem cutKey?_eq_some_iff {key rule option : String} :
    cutKey? key = some (rule, option) ↔ Joins key rule option := by
  unfold cutKey?
  dsimp only
  constructor
  · intro h
    split at h
    · rename_i r rs o os htake hdrop
      obtain ⟨rfl, rfl⟩ := Prod.mk.inj (Option.some.inj h)
      have hkey : key.toList = r :: rs ++ '.' :: o :: os := by
        rw [← htake, ← hdrop, List.takeWhile_append_dropWhile]
      refine ⟨?_, by simp, ?_, by simp⟩
      · rw [← String.toList_inj, toList_join, String.toList_ofList, String.toList_ofList, hkey]
      · rw [String.toList_ofList, ← htake]
        intro hdot
        exact absurd (List.mem_takeWhile_imp hdot) (by decide)
    · exact absurd h (by simp)
  · rintro ⟨rfl, hrule, hdotless, hoption⟩
    -- the rule holds no dot, so the first dot of the key is the one between the two
    have hbefore : ∀ c ∈ rule.toList, (c != '.') = true := by
      intro c hc
      rw [bne_iff_ne]
      exact fun hdot => hdotless (hdot ▸ hc)
    rw [toList_join, List.takeWhile_append_of_pos hbefore, List.dropWhile_append_of_pos hbefore,
      List.takeWhile_cons_of_neg (by decide), List.dropWhile_cons_of_neg (by decide),
      List.append_nil]
    obtain ⟨r, rs, hr⟩ := List.exists_cons_of_ne_nil (mt String.toList_eq_nil_iff.mp hrule)
    obtain ⟨o, os, ho⟩ := List.exists_cons_of_ne_nil (mt String.toList_eq_nil_iff.mp hoption)
    rw [hr, ho]
    show some (String.ofList (r :: rs), String.ofList (o :: os)) = some (rule, option)
    rw [← hr, ← ho, String.ofList_toList, String.ofList_toList]

/-! ## 2. What entries mean -/

/-- What an entry gives, and to which rule: a table gives all that is in it to the rule under whose
name it stands, and any other value is given as one option. -/
inductive Gives : String × Value → String → List (String × Value) → Prop
  | table (rule : String) (options : List (String × Value)) :
      Gives (rule, .table options) rule options
  | flat {key rule option : String} {v : Value} (flat : ∀ entries, v ≠ .table entries)
      (joins : Joins key rule option) : Gives (key, v) rule [(option, v)]

/-- An entry is about a rule. -/
def Mentions (entry : String × Value) (rule : String) : Prop := ∃ options, Gives entry rule options

/-- An entry has a value for an option of a rule. -/
def Supplies (entry : String × Value) (rule option : String) (v : Value) : Prop :=
  ∃ options, Gives entry rule options ∧ (Table.ofList options).get? option = some v

/-- The value is that of the last entry that supplies one. -/
def LastSupplies (entries : List (String × Value)) (rule option : String) (v : Value) : Prop :=
  ∃ before entry after, entries = before ++ entry :: after ∧ Supplies entry rule option v ∧
    ∀ later ∈ after, ∀ w, ¬ Supplies later rule option w

/-- An entry belongs to one rule, with one list of options: a flat key is cut at its first dot. -/
theorem Gives.unique {entry : String × Value} {rule other : String}
    {options others : List (String × Value)} (h : Gives entry rule options)
    (h' : Gives entry other others) : rule = other ∧ options = others := by
  cases h with
  | table => cases h' with
    | table => exact ⟨rfl, rfl⟩
    | flat flat _ => exact absurd rfl (flat _)
  | flat flat joins => cases h' with
    | table => exact absurd rfl (flat _)
    | flat _ joins' =>
      have hcut := (cutKey?_eq_some_iff.mpr joins).symm.trans (cutKey?_eq_some_iff.mpr joins')
      obtain ⟨rfl, rfl⟩ := Prod.mk.inj (Option.some.inj hcut)
      exact ⟨rfl, rfl⟩

/-- Only an entry that is no table may fail to mention a rule, by its key. -/
theorem mentions_iff {entry : String × Value} :
    (∃ rule, Mentions entry rule) ↔
      ((∀ entries, entry.2 ≠ .table entries) → ∃ rule option, Joins entry.1 rule option) := by
  constructor
  · rintro ⟨rule, options, hgives⟩ hflat
    cases hgives with
    | table => exact absurd rfl (hflat _)
    | flat _ joins => exact ⟨_, _, joins⟩
  · intro h
    obtain ⟨key, v⟩ := entry
    by_cases hflat : ∀ entries, v ≠ .table entries
    · obtain ⟨rule, option, joins⟩ := h hflat
      exact ⟨rule, _, .flat hflat joins⟩
    · simp only [not_forall, not_not] at hflat
      obtain ⟨entries, rfl⟩ := hflat
      exact ⟨key, _, .table key entries⟩

/-- What an entry supplies is in the options that it gives. -/
theorem Gives.supplies_iff {entry : String × Value} {rule : String}
    {options : List (String × Value)} (h : Gives entry rule options) {other option : String}
    {v : Value} :
    Supplies entry other option v ↔ other = rule ∧ (Table.ofList options).get? option = some v := by
  constructor
  · rintro ⟨others, hothers, hget⟩
    obtain ⟨rfl, rfl⟩ := h.unique hothers
    exact ⟨rfl, hget⟩
  · rintro ⟨rfl, hget⟩
    exact ⟨options, h, hget⟩

/-- One more entry decides, if it supplies a value; otherwise the decision stands. -/
theorem lastSupplies_append_singleton {seen : List (String × Value)} {entry : String × Value}
    {rule option : String} {v : Value} :
    LastSupplies (seen ++ [entry]) rule option v ↔ Supplies entry rule option v ∨
      (∀ w, ¬ Supplies entry rule option w) ∧ LastSupplies seen rule option v := by
  constructor
  · rintro ⟨before, found, after, hentries, hfound, hafter⟩
    rcases List.eq_nil_or_concat' after with rfl | ⟨init, last, rfl⟩
    · obtain ⟨-, hlast⟩ := List.append_inj' hentries rfl
      rw [List.singleton_inj] at hlast
      exact .inl (hlast ▸ hfound)
    · rw [← List.cons_append, ← List.append_assoc] at hentries
      obtain ⟨hseen, hlast⟩ := List.append_inj' hentries rfl
      rw [List.singleton_inj] at hlast
      refine .inr ⟨hlast ▸ hafter last (by simp), before, found, init, hseen, hfound, ?_⟩
      exact fun later hlater => hafter later (List.mem_append_left _ hlater)
  · rintro (hentry | ⟨hnone, before, found, after, rfl, hfound, hafter⟩)
    · exact ⟨seen, entry, [], rfl, hentry, fun _ hmem => absurd hmem List.not_mem_nil⟩
    · refine ⟨before, found, after ++ [entry], by simp, hfound, fun later hlater => ?_⟩
      rcases List.mem_append.mp hlater with hold | hlast
      · exact hafter later hold
      · rw [List.mem_singleton.mp hlast]
        exact hnone

/-! ## 3. One entry, and all of them -/

/-- A look-up after many insertions finds what the insertions alone would lead to, or else what was
there. -/
theorem Table.get?_insertAll_ofList {α : Type} (t : Table α) (entries : List (String × α))
    (key : String) :
    (t.insertAll entries).get? key = ((Table.ofList entries).get? key).or (t.get? key) := by
  induction entries generalizing t with
  | nil => rfl
  | cons e rest ih =>
    have hlist : Table.ofList (e :: rest) = (Table.empty.insert e.1 e.2).insertAll rest := rfl
    rw [hlist, Table.insertAll_cons, ih, ih (Table.empty.insert e.1 e.2), Option.or_assoc,
      Table.get?_insert, Table.get?_insert]
    by_cases hkey : key = e.1
    · rw [if_pos hkey, if_pos hkey, Option.some_or]
    · rw [if_neg hkey, if_neg hkey, Table.get?_empty, Option.none_or]

/-- An entry that gives options to a rule adds them to its group. -/
theorem splitEntry_eq_ok {entry : String × Value} {rule : String}
    {options : List (String × Value)} (h : Gives entry rule options)
    (grouped : Table (Table Value)) :
    splitEntry grouped entry =
      .ok (grouped.insert rule ((groupOf grouped rule).insertAll options)) := by
  cases h with
  | table => exact splitEntry_table grouped rule options
  | flat flat joins => rw [splitEntry_flat flat, cutKey?_eq_some_iff.mpr joins]; rfl

/-- An entry that mentions no rule is refused by its key. -/
theorem splitEntry_eq_error {entry : String × Value} (h : ¬ ∃ rule, Mentions entry rule)
    (grouped : Table (Table Value)) : splitEntry grouped entry = .error (.optionKey entry.1) := by
  rw [mentions_iff, Classical.not_imp] at h
  obtain ⟨hflat, hcut⟩ := h
  rw [splitEntry_flat hflat]
  cases hkey : cutKey? entry.1 with
  | none => rfl
  | some parts => exact absurd ⟨parts.1, parts.2, cutKey?_eq_some_iff.mp hkey⟩ hcut

/-- The groups hold what the entries that were seen so far mean. -/
structure Accounts (seen : List (String × Value)) (grouped : Table (Table Value)) : Prop where
  /-- Each entry mentions a rule, and the groups are in the order of the first mentions. -/
  rules : ∃ rules, List.Forall₂ Mentions seen rules ∧ grouped.keys = rules.eraseDups
  /-- An option has the value of the last entry that supplies one. -/
  values : ∀ rule option v,
    (groupOf grouped rule).get? option = some v ↔ LastSupplies seen rule option v

theorem accounts_nothing : Accounts [] .empty where
  rules := ⟨[], .nil, rfl⟩
  values := by
    refine fun rule option v => iff_of_false (by simp [groupOf]) ?_
    rintro ⟨before, entry, after, hentries, -⟩
    exact absurd hentries.symm (by simp)

/-- **One entry.** It adds its rule to the rules and its options to those of the rule. -/
theorem Accounts.step {seen : List (String × Value)} {grouped : Table (Table Value)}
    (h : Accounts seen grouped) {entry : String × Value} {rule : String}
    {options : List (String × Value)} (hentry : Gives entry rule options) :
    Accounts (seen ++ [entry])
      (grouped.insert rule ((groupOf grouped rule).insertAll options)) where
  rules := by
    obtain ⟨rules, hmentions, hkeys⟩ := h.rules
    refine ⟨rules ++ [rule], List.rel_append hmentions (.cons ⟨options, hentry⟩ .nil), ?_⟩
    rw [Table.keys_insert, hkeys, eraseDups_append_singleton]
    simp only [List.mem_eraseDups]
  values := by
    intro other option v
    rw [groupOf_insert, lastSupplies_append_singleton, hentry.supplies_iff]
    by_cases hrule : other = rule
    · rw [if_pos hrule, Table.get?_insertAll_ofList, ← h.values, hrule]
      cases hget : (Table.ofList options).get? option with
      | none => simp [hentry.supplies_iff, hget]
      -- what the entry supplies hides all that came before
      | some w => simp [hentry.supplies_iff, hget]
    · rw [if_neg hrule, h.values]
      simp [hentry.supplies_iff, hrule]

/-- **All entries.** Each of them mentions a rule and they are grouped, or there is a first one that
does not, and its key is refused. -/
theorem splitOptions_go_ok_or_error {seen : List (String × Value)} {grouped : Table (Table Value)}
    (h : Accounts seen grouped) (entries : List (String × Value)) :
    ((∀ entry ∈ entries, ∃ rule, Mentions entry rule) ∧ ∃ result,
        splitOptions.go grouped entries = .ok result ∧ Accounts (seen ++ entries) result) ∨
      ∃ before entry after, entries = before ++ entry :: after ∧
        (∀ earlier ∈ before, ∃ rule, Mentions earlier rule) ∧ (¬ ∃ rule, Mentions entry rule) ∧
        splitOptions.go grouped entries = .error (.optionKey entry.1) := by
  induction entries generalizing seen grouped with
  | nil =>
    exact .inl ⟨fun _ hmem => absurd hmem List.not_mem_nil, grouped, rfl,
      (List.append_nil seen).symm ▸ h⟩
  | cons first rest ih =>
    rw [splitOptions.go]
    by_cases hfirst : ∃ rule, Mentions first rule
    · obtain ⟨rule, options, hgives⟩ := hfirst
      rw [splitEntry_eq_ok hgives]
      rcases ih (h.step hgives) with
        ⟨hall, result, hresult, haccounts⟩ | ⟨before, entry, after, rfl, hbefore, hentry, hrest⟩
      · rw [List.append_assoc] at haccounts
        exact .inl ⟨List.forall_mem_cons.mpr ⟨⟨rule, options, hgives⟩, hall⟩, result, hresult,
          haccounts⟩
      · exact .inr ⟨first :: before, entry, after, rfl,
          List.forall_mem_cons.mpr ⟨⟨rule, options, hgives⟩, hbefore⟩, hentry, hrest⟩
    · rw [splitEntry_eq_error hfirst]
      exact .inr ⟨[], first, rest, rfl, fun _ hmem => absurd hmem List.not_mem_nil, hfirst, rfl⟩

/-- **The groups account for all options**, by induction on them. -/
theorem splitOptions_accounts {options : Table Value} {grouped : Table (Table Value)}
    (h : splitOptions options = .ok grouped) : Accounts options.entries grouped := by
  rcases splitOptions_go_ok_or_error accounts_nothing options.entries with
    ⟨-, result, hresult, haccounts⟩ | ⟨_, _, _, _, _, _, herror⟩
  · rw [Except.ok.inj (h.symm.trans hresult)]
    exact haccounts
  · exact absurd (h.symm.trans herror) (by simp)

/-- The groups are there exactly if every entry mentions a rule. -/
theorem splitOptions_ok_iff {options : Table Value} :
    (∃ grouped, splitOptions options = .ok grouped) ↔
      ∀ entry ∈ options.entries, ∃ rule, Mentions entry rule := by
  rcases splitOptions_go_ok_or_error accounts_nothing options.entries with
    ⟨hall, result, hresult, -⟩ | ⟨before, entry, after, hentries, -, hentry, herror⟩
  · exact iff_of_true ⟨result, hresult⟩ hall
  · refine iff_of_false ?_ fun hall => hentry (hall entry (hentries ▸ by simp))
    rintro ⟨grouped, h⟩
    exact absurd (h.symm.trans herror) (by simp)

/-! ## 4. The options of one rule in both forms -/

/-- The options of a rule under flat keys. -/
def flattened (rule : String) (options : Table Value) : Table Value :=
  ⟨options.entries.map fun e => (rule ++ "." ++ e.1, e.2), by
    have hkeys : keysOf (options.entries.map fun e => (rule ++ "." ++ e.1, e.2)) =
        options.keys.map (rule ++ "." ++ ·) := by
      unfold Table.keys keysOf
      rw [List.map_map, List.map_map]
      rfl
    rw [hkeys]
    exact List.Nodup.map (fun _ _ h => (String.append_right_inj _).mp h) options.nodup⟩

/-- Flat keys of one rule go into its group, one after another. -/
theorem splitOptions_go_flattened {rule : String} {entries : List (String × Value)}
    (hgives : ∀ e ∈ entries, Gives (rule ++ "." ++ e.1, e.2) rule [e]) (group : Table Value) :
    splitOptions.go (Table.ofList [(rule, group)])
        (entries.map fun e => (rule ++ "." ++ e.1, e.2)) =
      .ok (Table.ofList [(rule, group.insertAll entries)]) := by
  induction entries generalizing group with
  | nil => rfl
  | cons e rest ih =>
    have hgroup : groupOf (Table.ofList [(rule, group)]) rule = group :=
      @groupOf_of_mem _ (rule, group) List.mem_cons_self
    have hreplaced : (Table.ofList [(rule, group)]).insert rule (group.insertAll [e]) =
        Table.ofList [(rule, group.insertAll [e])] := by
      apply Table.ext_entries
      show putEntry rule _ [(rule, group)] = [(rule, group.insertAll [e])]
      rw [putEntry, if_pos rfl]
    rw [List.map_cons, splitOptions.go, splitEntry_eq_ok (hgives e List.mem_cons_self), hgroup,
      hreplaced]
    exact ih (fun e' he' => hgives e' (List.mem_cons_of_mem _ he')) (group.insertAll [e])

/-- **One rule under flat keys.** There has to be an option, for else the rule is not mentioned. -/
theorem splitOptions_flattened {rule : String} {options : Table Value}
    (hgives : ∀ e ∈ options.entries, Gives (rule ++ "." ++ e.1, e.2) rule [e])
    (hoptions : options.entries ≠ []) :
    splitOptions (flattened rule options) = .ok (Table.ofList [(rule, options)]) := by
  obtain ⟨e, rest, hentries⟩ := List.exists_cons_of_ne_nil hoptions
  rw [hentries] at hgives
  have hfirst : splitEntry .empty (rule ++ "." ++ e.1, e.2) =
      .ok (Table.ofList [(rule, Table.ofList [e])]) :=
    splitEntry_eq_ok (hgives e List.mem_cons_self) .empty
  have hall : (Table.ofList [e]).insertAll rest = options := by
    rw [← Table.ofList_entries options, hentries]
    rfl
  show splitOptions.go .empty (options.entries.map _) = _
  rw [hentries, List.map_cons, splitOptions.go, hfirst]
  show splitOptions.go _ _ = _
  rw [splitOptions_go_flattened fun e' he' => hgives e' (List.mem_cons_of_mem _ he'), hall]

/-- Two rules, each of them under a flat key and in a table, in different order. -/
def mixedOptions : Table Value :=
  Table.ofList
    [("max-class-size.max_lines", .int 70),
      ("max-call-chain", .table [("threshold", .int 2), ("enabled", .bool true)]),
      ("max-class-size", .table [("max_lines", .int 80), ("max_methods", .int 9)]),
      ("max-call-chain.threshold", .int 3)]

/-- Options of one rule, one of them with a dot in its name. -/
def dottedOptions : Table Value :=
  Table.ofList [("max.lines", .int 70), ("profile", .text "relaxed")]

end Conformance
