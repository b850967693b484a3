import Conformance.Output.Record
import Conformance.Proofs.JsonRoundTrip
import Conformance.Proofs.Table
import Mathlib.Data.List.Forall2

/-!
# What the JSON outputs say

Both JSON outputs are made of one record for each finding, and the payload in a record is the only
place where anything may stand. Which document a value has is said here as a relation
(`Value.Form`): lists, tuples and sets are arrays, tables and other mappings are objects with their
names in order. Three things have no document, wherever they stand (`Value.HasNoForm`): a severity,
a value of another class, and a mapping with a key that can be no name.

Sets need some care. They are turned into lists before anything is written, but only down to the
first mapping, and what the writer makes of a set in a mapping (`Value.HidesSet`) is left open in
the result. Apart from these an output fails if and only if something without a document stands in
a payload, be it in a table in a list in a table; otherwise there is a text, at every indent that
fits into an index.

Without fractional numbers the text says all there is to say. Whoever reads it gets back one record
for each finding, in the order of the report (`Finding.RecordedAs`), with or without the counts
around them (`Report.json`), and whatever the indent was.
-/

set_option autoImplicit false

namespace Conformance

/-! ## 1. Documents of values -/

namespace Value

/-- Something with a property stands in a value, at any depth. The keys of a mapping are not looked
at. -/
inductive Contains (p : Value → Prop) : Value → Prop
  | here {v : Value} (h : p v) : Contains p v
  | item {items : List Value} {v : Value} (hmem : v ∈ items) (h : Contains p v) :
      Contains p (.list items)
  | member {items : List Value} {v : Value} (hmem : v ∈ items) (h : Contains p v) :
      Contains p (.tuple items)
  | element {isFrozen : Bool} {members : List Value} {v : Value} (hmem : v ∈ members)
      (h : Contains p v) : Contains p (.set isFrozen members)
  | entry {entries : List (String × Value)} {e : String × Value} (hmem : e ∈ entries)
      (h : Contains p e.2) : Contains p (.table entries)
  | pair {entries : List (Value × Value)} {e : Value × Value} (hmem : e ∈ entries)
      (h : Contains p e.2) : Contains p (.mapping entries)

/-- A severity. -/
def IsSeverity (v : Value) : Prop := ∃ s, v = .severity s

/-- A fractional number. -/
def IsFloat (v : Value) : Prop := ∃ x, v = .float x

/-- A set. -/
def IsSet (v : Value) : Prop := ∃ isFrozen members, v = .set isFrozen members

/-- A value that has no document, whatever stands in it. -/
inductive HasNoForm : Value → Prop
  | severity (s : Severity) : HasNoForm (.severity s)
  | object (o : Foreign) : HasNoForm (.object o)
  | key {entries : List (Value × Value)} {e : Value × Value} (hmem : e ∈ entries)
      (h : Json.name? e.1 = none) : HasNoForm (.mapping entries)

/-- A mapping in which a set stands. -/
inductive HidesSet : Value → Prop
  | table {entries : List (String × Value)} (h : (Value.table entries).Contains IsSet) :
      HidesSet (.table entries)
  | mapping {entries : List (Value × Value)} (h : (Value.mapping entries).Contains IsSet) :
      HidesSet (.mapping entries)

/-- **The document of a value.** Tuples and sets are arrays as lists are, and the names of a table
or of another mapping keep their order. -/
inductive Form : Value → Json → Prop
  | null : Form .null .null
  | bool (b : Bool) : Form (.bool b) (.bool b)
  | int (n : Int) : Form (.int n) (.int n)
  | float (x : Binary64) : Form (.float x) (.float x)
  | text (s : String) : Form (.text s) (.string s)
  | list {items : List Value} {js : List Json} (h : List.Forall₂ Form items js) :
      Form (.list items) (.array js)
  | tuple {items : List Value} {js : List Json} (h : List.Forall₂ Form items js) :
      Form (.tuple items) (.array js)
  | set (isFrozen : Bool) {members : List Value} {js : List Json}
      (h : List.Forall₂ Form members js) : Form (.set isFrozen members) (.array js)
  | table {entries : List (String × Value)} {fields : List (String × Json)}
      (hnames : entries.map Prod.fst = fields.map Prod.fst)
      (hvalues : List.Forall₂ Form (entries.map Prod.snd) (fields.map Prod.snd)) :
      Form (.table entries) (.object fields)
  | mapping {entries : List (Value × Value)} {fields : List (String × Json)}
      (hnames : (entries.map fun e => Json.name? e.1) = fields.map fun f => some f.1)
      (hvalues : List.Forall₂ Form (entries.map Prod.snd) (fields.map Prod.snd)) :
      Form (.mapping entries) (.object fields)

variable {p q : Value → Prop} {v : Value}

/-- What is in a value is there under any weaker description. -/
theorem Contains.imp (h : v.Contains p) (himp : ∀ v, p v → q v) : v.Contains q := by
  induction h with
  | here h => exact .here (himp _ h)
  | item hmem _ ih => exact .item hmem ih
  | member hmem _ ih => exact .member hmem ih
  | element hmem _ ih => exact .element hmem ih
  | entry hmem _ ih => exact .entry hmem ih
  | pair hmem _ ih => exact .pair hmem ih

/-- One of two things in a value is the one in it or the other. -/
theorem Contains.or (h : v.Contains fun v => p v ∨ q v) : v.Contains p ∨ v.Contains q := by
  induction h with
  | here h => exact h.imp .here .here
  | item hmem _ ih => exact ih.imp (.item hmem) (.item hmem)
  | member hmem _ ih => exact ih.imp (.member hmem) (.member hmem)
  | element hmem _ ih => exact ih.imp (.element hmem) (.element hmem)
  | entry hmem _ ih => exact ih.imp (.entry hmem) (.entry hmem)
  | pair hmem _ ih => exact ih.imp (.pair hmem) (.pair hmem)

/-- What stands in a part stands in the whole. This is used at each level of a payload. -/
theorem Contains.trans (h : v.Contains fun part => part.Contains p) : v.Contains p := by
  induction h with
  | here h => exact h
  | item hmem _ ih => exact .item hmem ih
  | member hmem _ ih => exact .member hmem ih
  | element hmem _ ih => exact .element hmem ih
  | entry hmem _ ih => exact .entry hmem ih
  | pair hmem _ ih => exact .pair hmem ih

/-- Where no set stands, none is hidden in a mapping. -/
theorem Contains.set_of_hidesSet (h : v.Contains HidesSet) : v.Contains IsSet := by
  refine (h.imp ?_).trans
  rintro part (h | h) <;> exact h

end Value

open Value

/-- A value that has a document holds nothing that has none. -/
theorem Value.Form.not_contains_hasNoForm {v : Value} {j : Json} (hform : v.Form j) :
    ¬ v.Contains HasNoForm := by
  intro hcontains
  -- induction on where it stands: a part of a value with a document has a document too
  induction hcontains generalizing j with
  | here h =>
    cases h with
    | severity s => cases hform
    | object o => cases hform
    | key hmem hnone =>
      cases hform with
      | mapping hnames _ =>
        -- the key would be the name of a field
        have hname := List.mem_map_of_mem (f := fun e => Json.name? e.1) hmem
        rw [hnames] at hname
        obtain ⟨field, -, hfield⟩ := List.mem_map.mp hname
        exact absurd (hfield.trans hnone) (by simp)
  | item hmem _ ih =>
    cases hform with
    | list h =>
      obtain ⟨j, -, hform⟩ := exists_of_forall₂_of_mem_left h hmem
      exact ih hform
  | member hmem _ ih =>
    cases hform with
    | tuple h =>
      obtain ⟨j, -, hform⟩ := exists_of_forall₂_of_mem_left h hmem
      exact ih hform
  | element hmem _ ih =>
    cases hform with
    | set _ h =>
      obtain ⟨j, -, hform⟩ := exists_of_forall₂_of_mem_left h hmem
      exact ih hform
  | entry hmem _ ih =>
    cases hform with
    | table _ hvalues =>
      obtain ⟨j, -, hform⟩ :=
        exists_of_forall₂_of_mem_left hvalues (List.mem_map_of_mem hmem)
      exact ih hform
  | pair hmem _ ih =>
    cases hform with
    | mapping _ hvalues =>
      obtain ⟨j, -, hform⟩ :=
        exists_of_forall₂_of_mem_left hvalues (List.mem_map_of_mem hmem)
      exact ih hform

/-- A fractional number in a document comes from one in the value. -/
theorem Value.Form.contains_float {v : Value} {j : Json} (hform : v.Form j) (h : j.HoldsFloat) :
    v.Contains IsFloat := by
  induction h generalizing v with
  | here x =>
    cases hform
    exact .here ⟨x, rfl⟩
  | item hmem _ ih =>
    cases hform with
    | list h =>
      obtain ⟨v, hv, hform⟩ := exists_of_forall₂_of_mem_left h.flip hmem
      exact .item hv (ih hform)
    | tuple h =>
      obtain ⟨v, hv, hform⟩ := exists_of_forall₂_of_mem_left h.flip hmem
      exact .member hv (ih hform)
    | set _ h =>
      obtain ⟨v, hv, hform⟩ := exists_of_forall₂_of_mem_left h.flip hmem
      exact .element hv (ih hform)
  | field hmem _ ih =>
    cases hform with
    | table _ hvalues =>
      obtain ⟨v, hv, hform⟩ :=
        exists_of_forall₂_of_mem_left hvalues.flip (List.mem_map_of_mem hmem)
      obtain ⟨e, he, rfl⟩ := List.mem_map.mp hv
      exact .entry he (ih hform)
    | mapping _ hvalues =>
      obtain ⟨v, hv, hform⟩ :=
        exists_of_forall₂_of_mem_left hvalues.flip (List.mem_map_of_mem hmem)
      obtain ⟨e, he, rfl⟩ := List.mem_map.mp hv
      exact .pair he (ih hform)

/-! ## 2. Making documents -/

/-- A step gives what it should, or it fails with a type error for which there is a cause. -/
inductive Converts {β : Type} (good : β → Prop) (cause : Prop) : Except Error β → Prop
  | ok {b : β} (h : good b) : Converts good cause (.ok b)
  | error {e : Error} (hclass : e.className = "TypeError") (h : cause) :
      Converts good cause (.error e)

/-- Steps one after the other: each can fail for its own causes, which are causes of the whole. -/
theorem Converts.bind {β γ : Type} {good : β → Prop} {good' : γ → Prop} {cause cause' : Prop}
    {step : Except Error β} {next : β → Except Error γ} (h : Converts good cause step)
    (hnext : ∀ b, good b → Converts good' cause' (next b)) (hcause : cause → cause') :
    Converts good' cause' (step >>= next) := by
  cases h with
  | ok h => exact hnext _ h
  | error hclass h => exact .error hclass (hcause h)

theorem Converts.imp {β : Type} {good : β → Prop} {cause cause' : Prop} {step : Except Error β}
    (h : Converts good cause step) (hcause : cause → cause') : Converts good cause' step := by
  cases h with
  | ok h => exact .ok h
  | error hclass h => exact .error hclass (hcause h)

/-- What is made of a result has no causes of its own. -/
theorem Converts.map {β γ : Type} {good : β → Prop} {good' : γ → Prop} {cause : Prop}
    {step : Except Error β} {f : β → γ} (h : Converts good cause step)
    (hgood : ∀ b, good b → good' (f b)) : Converts good' cause (step.map f) := by
  cases h with
  | ok h => exact .ok (hgood _ h)
  | error hclass h => exact .error hclass h

/-- What the writer refuses in a value. It knows no sets: those that are written are lists by
then. -/
def Value.Refused (v : Value) : Prop := v.HasNoForm ∨ v.IsSet

/-- What the outputs refuse in a payload. -/
def Value.Unfit (v : Value) : Prop := v.HasNoForm ∨ v.HidesSet

namespace Json

mutual

/-- **The writer.** It has a document for a value, unless it refuses something in it. -/
theorem converts_ofValue : (v : Value) → Converts v.Form (v.Contains Refused) (ofValue v)
  | .null => .ok .null
  | .bool b => .ok (.bool b)
  | .int n => .ok (.int n)
  | .float x => .ok (.float x)
  | .text s => .ok (.text s)
  | .severity s => .error rfl (.here (.inl (.severity s)))
  | .object o => .error rfl (.here (.inl (.object o)))
  | .set isFrozen members => .error rfl (.here (.inr ⟨isFrozen, members, rfl⟩))
  | .list items => by
    rw [ofValue]
    exact (converts_ofItems items).bind (fun js h => .ok (.list h)) fun ⟨v, hv, h⟩ => .item hv h
  | .tuple items => by
    rw [ofValue]
    exact (converts_ofItems items).bind (fun js h => .ok (.tuple h)) fun ⟨v, hv, h⟩ => .member hv h
  | .table entries => by
    rw [ofValue]
    exact (converts_ofEntries entries).bind (fun fields h => .ok h) fun ⟨e, he, h⟩ => .entry he h
  | .mapping entries => by
    rw [ofValue]
    exact (converts_ofPairs entries).bind (fun fields h => .ok h) id

/-- Lists are converted item by item and stop at the first that is refused. -/
theorem converts_ofItems : (items : List Value) →
    Converts (List.Forall₂ Form items) (∃ v ∈ items, v.Contains Refused) (ofItems items)
  | [] => .ok .nil
  | v :: rest => by
    rw [ofItems]
    refine (converts_ofValue v).bind (fun j hj => ?_) fun h => ⟨v, List.mem_cons_self, h⟩
    refine (converts_ofItems rest).bind (fun js hjs => .ok (.cons hj hjs)) ?_
    rintro ⟨w, hw, h⟩
    exact ⟨w, List.mem_cons_of_mem v hw, h⟩

/-- Entries are converted in their order, and their names are kept. -/
theorem converts_ofEntries : (entries : List (String × Value)) →
    Converts (fun fields => (Value.table entries).Form (.object fields))
      (∃ e ∈ entries, e.2.Contains Refused) (ofEntries entries)
  | [] => .ok (.table rfl .nil)
  | (name, v) :: rest => by
    rw [ofEntries]
    refine (converts_ofValue v).bind (fun j hj => ?_) fun h => ⟨(name, v), List.mem_cons_self, h⟩
    refine (converts_ofEntries rest).bind (fun fields hfields => .ok ?_) ?_
    · cases hfields with
      | table hnames hvalues => exact .table (congrArg (name :: ·) hnames) (.cons hj hvalues)
    · rintro ⟨e, he, h⟩
      exact ⟨e, List.mem_cons_of_mem _ he, h⟩

/-- Mappings have keys of any kind: a key is converted first, and may be refused. -/
theorem converts_ofPairs : (entries : List (Value × Value)) →
    Converts (fun fields => (Value.mapping entries).Form (.object fields))
      ((Value.mapping entries).Contains Refused) (ofPairs entries)
  | [] => .ok (.mapping rfl .nil)
  | (key, v) :: rest => by
    rw [ofPairs]
    cases hname : name? key with
    | none => exact .error rfl (.here (.inl (.key List.mem_cons_self hname)))
    | some name =>
      refine (converts_ofValue v).bind (fun j hj => ?_) fun h =>
        .pair (e := (key, v)) List.mem_cons_self h
      refine (converts_ofPairs rest).bind (fun fields hfields => .ok ?_) ?_
      · cases hfields with
        | mapping hnames hvalues =>
          refine .mapping ?_ (.cons hj hvalues)
          rw [List.map_cons, List.map_cons, hnames, hname]
      · intro h
        -- what the rest is refused for stands in the whole, be it a key or a value
        cases h with
        | here h =>
          rcases h with hnone | ⟨_, _, hset⟩
          · cases hnone with
            | key hkey hnone => exact .here (.inl (.key (List.mem_cons_of_mem _ hkey) hnone))
          · cases hset
        | pair hmem h => exact .pair (List.mem_cons_of_mem _ hmem) h

end

/-- A refusal in a mapping is one that the outputs come upon: a set there is hidden. -/
theorem contains_unfit_of_mapping {v : Value} (hhides : v.Contains IsSet → v.HidesSet)
    (h : v.Contains Refused) : v.Contains Unfit := by
  rcases h.or with hnone | hset
  · exact hnone.imp fun _ => .inl
  · exact .here (.inr (hhides hset))

mutual

/-- **A value in a payload.** It has a document, unless something unfit stands in it. -/
theorem converts_sequencesAsLists : (v : Value) →
    Converts v.Form (v.Contains Unfit) (ofValue v.sequencesAsLists)
  | .null => .ok .null
  | .bool b => .ok (.bool b)
  | .int n => .ok (.int n)
  | .float x => .ok (.float x)
  | .text s => .ok (.text s)
  | .severity s => .error rfl (.here (.inl (.severity s)))
  | .object o => .error rfl (.here (.inl (.object o)))
  | .list items => by
    rw [sequencesAsLists, ofValue]
    exact (converts_allSequencesAsLists items).bind (fun js h => .ok (.list h))
      fun ⟨v, hv, h⟩ => .item hv h
  | .tuple items => by
    rw [sequencesAsLists, ofValue]
    exact (converts_allSequencesAsLists items).bind (fun js h => .ok (.tuple h))
      fun ⟨v, hv, h⟩ => .member hv h
  | .set isFrozen members => by
    rw [sequencesAsLists, ofValue]
    exact (converts_allSequencesAsLists members).bind (fun js h => .ok (.set isFrozen h))
      fun ⟨v, hv, h⟩ => .element hv h
  | .table entries => (converts_ofValue (.table entries)).imp (contains_unfit_of_mapping .table)
  | .mapping entries =>
    (converts_ofValue (.mapping entries)).imp (contains_unfit_of_mapping .mapping)

/-- Sequences inside of sequences are turned into lists before anything is converted. -/
theorem converts_allSequencesAsLists : (items : List Value) →
    Converts (List.Forall₂ Form items) (∃ v ∈ items, v.Contains Unfit)
      (ofItems (allSequencesAsLists items))
  | [] => .ok .nil
  | v :: rest => by
    rw [allSequencesAsLists, ofItems]
    refine (converts_sequencesAsLists v).bind (fun j hj => ?_) fun h => ⟨v, List.mem_cons_self, h⟩
    refine (converts_allSequencesAsLists rest).bind (fun js hjs => .ok (.cons hj hjs)) ?_
    rintro ⟨w, hw, h⟩
    exact ⟨w, List.mem_cons_of_mem v hw, h⟩

end

/-- **Payloads.** Values directly in a payload are looked through for sequences, and those inside
mappings are not. -/
theorem converts_payload (entries : List (String × Value)) :
    Converts (fun fields => (Value.table entries).Form (.object fields))
      (∃ e ∈ entries, e.2.Contains Unfit)
      (ofEntries (entries.map fun e => (e.1, e.2.sequencesAsLists))) := by
  induction entries with
  | nil => exact .ok (.table rfl .nil)
  | cons e rest ih =>
    rw [List.map_cons, ofEntries]
    refine (converts_sequencesAsLists e.2).bind (fun j hj => ?_) fun h => ⟨e, List.mem_cons_self, h⟩
    refine ih.bind (fun fields hfields => .ok ?_) ?_
    · cases hfields with
      | table hnames hvalues => exact .table (congrArg (e.1 :: ·) hnames) (.cons hj hvalues)
    · rintro ⟨w, hw, h⟩
      exact ⟨w, List.mem_cons_of_mem _ hw, h⟩

/-! ## 3. Records -/

theorem ofEntries_counts {α : Type} (name : α → String) (counts : List (α × Int)) :
    ofEntries (counts.map fun e => (name e.1, .int e.2)) =
      .ok (counts.map fun e => (name e.1, .int e.2)) := by
  induction counts with
  | nil => rfl
  | cons e rest ih =>
    rw [List.map_cons, ofEntries, ih]
    rfl

/-- A string, or nothing. -/
def stringOrNull : Option String → Json
  | some s => .string s
  | none => .null

/-- A whole number, or nothing. -/
def intOrNull : Option Int → Json
  | some n => .int n
  | none => .null

/-- What a record holds beside its payload are strings and integers. -/
@[simp] theorem not_holdsFloat_stringOrNull (s : Option String) :
    ¬ (stringOrNull s).HoldsFloat := by
  cases s <;> simp [stringOrNull]

@[simp] theorem not_holdsFloat_intOrNull (n : Option Int) : ¬ (intOrNull n).HoldsFloat := by
  cases n <;> simp [intOrNull]

theorem ofValue_ofText? (s : Option String) : ofValue (Value.ofText? s) = .ok (stringOrNull s) := by
  cases s <;> rfl

theorem ofValue_ofInt? (n : Option Int) : ofValue (Value.ofInt? n) = .ok (intOrNull n) := by
  cases n <;> rfl

end Json

/-- The document of a location. -/
def Location.json (l : Location) : Json :=
  .object
    [("path", .string l.path.text),
      ("type", Json.stringOrNull l.typeName),
      ("member", Json.stringOrNull l.memberName),
      ("statement_position", Json.intOrNull (l.position.map Int.ofNat)),
      ("line", Json.intOrNull l.line)]

theorem Location.ofValue_record (l : Location) : Json.ofValue l.record = .ok l.json := by
  simp only [record, Json.ofValue, Json.ofEntries, Json.ofValue_ofText?, Json.ofValue_ofInt?]
  rfl

namespace Finding

/-- The document of a finding whose payload has these fields. -/
def json (f : Finding) (payload : List (String × Json)) : Json :=
  .object
    [("rule_id", .string f.ruleId),
      ("severity", .string f.severity.label),
      ("category", .string f.category.constant),
      ("message", .string f.message),
      ("location", f.location.json),
      ("payload", .object payload)]

/-- **The record of a finding**, whose payload has the names of the finding's payload in order, each
with the document of its value. -/
def RecordedAs (f : Finding) (j : Json) : Prop :=
  ∃ payload, (Value.table f.payload).Form (.object payload) ∧ j = f.json payload

/-- Something with a property stands in the payload. -/
def Contains (p : Value → Prop) (f : Finding) : Prop := ∃ e ∈ f.payload, e.2.Contains p

/-- Nothing in a record can be refused but its payload. -/
theorem ofValue_record (f : Finding) :
    Json.ofValue f.record =
      (Json.ofEntries (f.payload.map fun e => (e.1, e.2.sequencesAsLists))).map f.json := by
  simp only [record, Json.ofValue, Json.ofEntries, Location.ofValue_record]
  cases Json.ofEntries (f.payload.map fun e => (e.1, e.2.sequencesAsLists)) <;> rfl

/-- A finding that has a record held nothing without a form. -/
theorem RecordedAs.not_contains_hasNoForm {f : Finding} {j : Json} (h : f.RecordedAs j) :
    ¬ f.Contains HasNoForm := by
  obtain ⟨payload, hform, -⟩ := h
  rintro ⟨e, he, hcontains⟩
  exact hform.not_contains_hasNoForm (.entry he hcontains)

/-- A float in the record was one in the finding. -/
theorem RecordedAs.contains_float {f : Finding} {j : Json} (h : f.RecordedAs j)
    (hfloat : j.HoldsFloat) : f.Contains IsFloat := by
  obtain ⟨payload, hform, rfl⟩ := h
  have hpayload : (Json.object payload).HoldsFloat := by simpa [json, Location.json] using hfloat
  cases hform.contains_float hpayload with
  | here h =>
    obtain ⟨x, hx⟩ := h
    cases hx
  | entry he h => exact ⟨_, he, h⟩

/-- **A finding has a record**, unless something unfit stands in its payload. -/
theorem converts_record (f : Finding) :
    Converts f.RecordedAs (f.Contains Unfit) (Json.ofValue f.record) := by
  rw [ofValue_record]
  exact (Json.converts_payload f.payload).map fun fields hfields => ⟨fields, hfields, rfl⟩

/-- **The record list** is made finding by finding; it is refused for one of them. -/
theorem converts_records (findings : List Finding) :
    Converts (List.Forall₂ RecordedAs findings) (∃ f ∈ findings, f.Contains Unfit)
      (Json.ofItems (findings.map record)) := by
  induction findings with
  | nil => exact .ok .nil
  | cons f rest ih =>
    rw [List.map_cons, Json.ofItems]
    refine f.converts_record.bind (fun j hj => ?_) fun h => ⟨f, List.mem_cons_self, h⟩
    refine ih.bind (fun records hrecords => .ok (.cons hj hrecords)) ?_
    rintro ⟨g, hg, h⟩
    exact ⟨g, List.mem_cons_of_mem f hg, h⟩

end Finding

/-! ## 4. The two outputs -/

/-- A call fails with an error of a class. -/
def Raises (output : Except Error String) (className : String) : Prop :=
  ∃ e, output = .error e ∧ e.className = className

theorem not_raises_ok (text className : String) : ¬ Raises (.ok text) className := nofun

namespace Report

/-- The document of a report that has these records. -/
def json (r : Report) (records : List Json) : Json :=
  .object
    [("passed", .bool r.passed),
      ("exit_code", .int r.exitCode),
      ("summary", .object
        [("total", .int r.total),
          ("by_severity", .object (r.severityCounts.map fun e => (e.1.label, .int e.2))),
          ("by_rule", .object (r.ruleCounts.entries.map fun e => (e.1, .int e.2))),
          ("units_analyzed", .int r.unitsAnalyzed),
          ("units_skipped", .int r.unitsSkipped),
          ("cancelled", .bool r.cancelled)]),
      ("findings", .array records)]

/-- Something with a property stands in the payload of a finding. -/
def Contains (p : Value → Prop) (r : Report) : Prop := ∃ f ∈ r.findings, f.Contains p

/-- The list alone, as one of the two formats writes it. -/
theorem ofValue_records (r : Report) :
    Json.ofValue r.records = (Json.ofItems (r.findings.map Finding.record)).map .array := by
  rw [records, Json.ofValue]
  cases Json.ofItems (r.findings.map Finding.record) <;> rfl

/-- The list under its report, as the other does; the report adds nothing that could be refused. -/
theorem ofValue_summaryRecord (r : Report) :
    Json.ofValue r.summaryRecord =
      (Json.ofItems (r.findings.map Finding.record)).map r.json := by
  have hseverities := Json.ofEntries_counts Severity.label r.severityCounts
  have hrules := Json.ofEntries_counts id r.ruleCounts.entries
  simp only [id_eq] at hrules
  -- all entries but the last have documents, so that only the records can fail
  simp only [summaryRecord, Value.ofNat, Json.ofValue, Json.ofEntries, ofValue_records,
    hseverities, hrules]
  cases Json.ofItems (r.findings.map Finding.record) <;> rfl

/-- Both outputs are texts of the same records at every indent that fits, or both fail. -/
theorem outputs_ok_or_error (r : Report) :
    (∃ records, List.Forall₂ Finding.RecordedAs r.findings records ∧
        ∀ indent, Json.FitsIndex indent →
          r.recordsText indent = .ok ((Json.array records).render indent) ∧
          r.jsonText indent = .ok ((r.json records).render indent)) ∨
      (r.Contains Unfit ∧ ∀ indent, Json.FitsIndex indent →
        Raises (r.recordsText indent) "TypeError" ∧ Raises (r.jsonText indent) "TypeError") := by
  unfold recordsText jsonText Json.dump
  rw [ofValue_records, ofValue_summaryRecord]
  rcases Json.ofItems (r.findings.map Finding.record), Finding.converts_records r.findings with
    ⟨_, @⟨records, hrecords⟩ | @⟨e, hclass, h⟩⟩
  · refine .inl ⟨records, hrecords, fun indent hfits => ?_⟩
    rw [if_pos hfits, if_pos hfits]
    exact ⟨rfl, rfl⟩
  · refine .inr ⟨h, fun indent hfits => ?_⟩
    rw [if_pos hfits, if_pos hfits]
    exact ⟨⟨e, rfl, hclass⟩, ⟨e, rfl, hclass⟩⟩

/-- So a report whose findings all have records holds nothing without a form. -/
theorem not_contains_hasNoForm {r : Report} {records : List Json}
    (h : List.Forall₂ Finding.RecordedAs r.findings records) : ¬ r.Contains HasNoForm := by
  rintro ⟨f, hf, hcontains⟩
  obtain ⟨j, -, hrecord⟩ := exists_of_forall₂_of_mem_left h hf
  exact hrecord.not_contains_hasNoForm hcontains

/-- Where sets are not hidden in mappings, what is unfit has no document. -/
theorem Contains.hasNoForm_of_unfit {r : Report} (hsets : ¬ r.Contains HidesSet)
    (h : r.Contains Unfit) : r.Contains HasNoForm := by
  obtain ⟨f, hf, e, he, h⟩ := h
  rcases h.or with hnone | hhidden
  · exact ⟨f, hf, e, he, hnone⟩
  · exact absurd ⟨f, hf, e, he, hhidden⟩ hsets

/-- Floats are set aside by the round trip; without them in the findings there are none in the
records. -/
theorem not_holdsFloat_records {r : Report} {records : List Json}
    (h : List.Forall₂ Finding.RecordedAs r.findings records) (hfloat : ¬ r.Contains IsFloat) :
    ¬ (Json.array records).HoldsFloat := by
  rw [Json.holdsFloat_array]
  rintro ⟨j, hj, hholds⟩
  obtain ⟨f, hf, (hrecord : f.RecordedAs j)⟩ := exists_of_forall₂_of_mem_left h.flip hj
  exact hfloat ⟨f, hf, hrecord.contains_float hholds⟩

/-- The report around the record list adds counts only, which are integers. -/
theorem holdsFloat_json {r : Report} {records : List Json} :
    (r.json records).HoldsFloat ↔ (Json.array records).HoldsFloat := by
  simp [json]

/-- A finding with a tuple in a table, and a text beyond the basic plane. -/
def sampleFinding : Finding where
  ruleId := "max-call-chain"
  severity := .warning
  location :=
    { path := ⟨"shop/order.py"⟩, typeName := some "shop.Order", line := some 7,
      member_needs_type := fun _ => rfl, position_needs_member := id }
  message := "Chain of 3 calls"
  category := .calisthenics
  payload :=
    [("measured", .int (-3)), ("seen", .table [("names", .tuple [.text "\"Ä\n𝒳", .null])])]

/-- The report of findings of one unit. -/
def sampleReport (findings : List Finding) : Report where
  findings := findings
  severityCounts := countSeverities findings
  ruleCounts := countRules findings
  unitsAnalyzed := 1
  unitsSkipped := 0
  cancelled := false

/-- What stands in the payload of the sample, in it or in a part of it. -/
theorem exists_of_contains_sample {p : Value → Prop}
    (h : (sampleReport [sampleFinding]).Contains p) :
    p (.int (-3)) ∨ p (.table [("names", .tuple [.text "\"Ä\n𝒳", .null])]) ∨
      p (.tuple [.text "\"Ä\n𝒳", .null]) ∨ p (.text "\"Ä\n𝒳") ∨ p .null := by
  obtain ⟨f, hf, e, he, h⟩ := h
  obtain rfl := List.mem_singleton.mp hf
  simp only [sampleFinding, List.mem_cons, List.not_mem_nil, or_false] at he
  rcases he with rfl | rfl
  · obtain ⟨h⟩ := h
    exact .inl h
  · rcases h with h | _ | _ | _ | ⟨he, h⟩
    · exact .inr (.inl h)
    obtain rfl := List.mem_singleton.mp he
    rcases h with h | _ | ⟨hmem, h⟩
    · exact .inr (.inr (.inl h))
    simp only [List.mem_cons, List.not_mem_nil, or_false] at hmem
    rcases hmem with rfl | rfl
    · obtain ⟨h⟩ := h
      exact .inr (.inr (.inr (.inl h)))
    · obtain ⟨h⟩ := h
      exact .inr (.inr (.inr (.inr h)))

/-- A member of another enumeration, as nothing in the library makes it. -/
def layerMember : Value :=
  .object { className := "Layer", quoted := "<Layer.DOMAIN: 'Domain'>", plain := "Layer.DOMAIN" }

end Report

end Conformance
