import Conformance.Proofs.Table
import Conformance.Run.Basic
import Mathlib.Data.List.Nodup

/-!
# What becomes of each unit of a run

Without a time budget, what is found in a unit depends on nothing but the unit and the rules. So it
does not matter who evaluates it, and when; all that the course of a run decides is which units are
skipped because the run was cancelled.

On one worker this is a cut of the list of units: those up to the one that cancels the run are
evaluated, and the rest is skipped (`Cut`).

With many workers it is told by the events (`History.IsSet`, `SkipsLate`): a unit is skipped if the
signal was set when its worker took it up. The argument is an invariant over the events
(`Pool.Keeps`), which refers to the events so far: every unit waits, is being worked on, or is
finished; and whatever is in the hands of a worker or has been handed in is the unit's own
evaluation, or nothing if the signal was set at its start. One lemma for each kind of event says
that the event keeps the invariant, and an induction over the schedule says that the whole run does.
In the end nothing waits and nobody works, so every unit is finished.

If nobody cancels the run, no unit is skipped, on one worker or on many.
-/

set_option autoImplicit false

namespace Conformance

/-! ## 1. Runs that nobody cancels -/

/-- The signal is not set, and no check of the units sets it if it is watched. -/
structure Uncancelled (signal : Signal) (rules : RuleSet) (units : List SourceUnit) : Prop where
  unset : signal ≠ some true
  quiet : signal ≠ none → ∀ u ∈ units, (u.evaluate rules).cancels = false

variable {signal : Signal} {rules : RuleSet} {units : List SourceUnit}

theorem Uncancelled.mono {fewer : List SourceUnit} (h : Uncancelled signal rules units)
    (hsub : fewer ⊆ units) : Uncancelled signal rules fewer :=
  ⟨h.unset, fun hwatched u hu => h.quiet hwatched u (hsub hu)⟩

/-- What becomes of a unit without a time budget. -/
def SourceUnit.evaluation (u : SourceUnit) (rules : RuleSet) : Evaluation :=
  { u.evaluate rules with readings := 0 }

/-- Without a budget an evaluation never fails, so results can be written down as a function. -/
theorem evaluate_unbounded (u : SourceUnit) (rules : RuleSet) (clock : Clock) :
    Evaluator.evaluate ⟨none⟩ u rules clock = .ok (u.evaluation rules) := rfl

/-! ## 2. One worker -/

/-- Which units one worker evaluates, and which it skips: the signal is looked at between two units,
so the unit during which it is set is the last one that is evaluated. -/
inductive Cut (rules : RuleSet) : Signal → List SourceUnit → List SourceUnit → Prop
  | unwatched {units : List SourceUnit} : Cut rules none units []
  | before {units : List SourceUnit} : Cut rules (some true) [] units
  | never {units : List SourceUnit} (quiet : ∀ u ∈ units, (u.evaluate rules).cancels = false) :
      Cut rules (some false) units []
  | during {earlier later : List SourceUnit} {u : SourceUnit}
      (quiet : ∀ v ∈ earlier, (v.evaluate rules).cancels = false)
      (cancels : (u.evaluate rules).cancels = true) :
      Cut rules (some false) (earlier ++ [u]) later

/-- A unit that does not cancel the run is evaluated, and the others are cut as before. -/
theorem Cut.cons {u : SourceUnit} {analysed skipped : List SourceUnit}
    (hquiet : (u.evaluate rules).cancels = false)
    (h : Cut rules (some false) analysed skipped) :
    Cut rules (some false) (u :: analysed) skipped := by
  cases h with
  | never quiet => exact .never (List.forall_mem_cons.mpr ⟨hquiet, quiet⟩)
  | @during earlier later v quiet cancels =>
    rw [← List.cons_append]
    exact .during (List.forall_mem_cons.mpr ⟨hquiet, quiet⟩) cancels

/-- Without a time budget, one worker takes up units until the signal is set. -/
theorem runSerial_cons (hunset : signal ≠ some true) (clock : Clock) (taken : Nat)
    (u : SourceUnit) {others : UnitResults}
    (hothers : ∀ taken, runSerial ⟨none⟩ rules clock (signal.after (u.evaluate rules).cancels) taken
      units = .ok others) :
    runSerial ⟨none⟩ rules clock signal taken (u :: units) =
      .ok (some (u.evaluate rules).findings :: others) := by
  rw [runSerial, if_neg hunset, evaluate_unbounded]
  show (do
    let others ← runSerial ⟨none⟩ rules clock (signal.after (u.evaluate rules).cancels)
      (taken + 0) units
    return some (u.evaluate rules).findings :: others) = _
  rw [hothers]
  rfl

theorem runSerial_set (units : List SourceUnit) (clock : Clock) (taken : Nat) :
    runSerial ⟨none⟩ rules clock (some true) taken units = .ok (units.map fun _ => none) := by
  cases units with
  | nil => rfl
  | cons u rest => rfl

/-- **One worker.** The units are cut where the signal is set. -/
theorem runSerial_eq_cut (rules : RuleSet) (signal : Signal) (units : List SourceUnit)
    (clock : Clock) :
    ∃ analysed skipped, units = analysed ++ skipped ∧ Cut rules signal analysed skipped ∧
      ∀ taken, runSerial ⟨none⟩ rules clock signal taken units =
        .ok (analysed.map (fun u => some (u.evaluate rules).findings) ++
          skipped.map fun _ => none) := by
  match signal with
  | none =>
    refine ⟨units, [], (List.append_nil _).symm, .unwatched, ?_⟩
    rw [List.map_nil, List.append_nil]
    induction units with
    | nil => exact fun _ => rfl
    | cons u rest ih => exact fun taken => runSerial_cons (by decide) clock taken u ih
  | some true => exact ⟨[], units, rfl, .before, runSerial_set units clock⟩
  | some false =>
    induction units with
    | nil => exact ⟨[], [], rfl, .never (List.forall_mem_nil _), fun _ => rfl⟩
    | cons u rest ih =>
      cases hcancels : (u.evaluate rules).cancels with
      | true =>
        -- a check of this unit set the event: the unit counts, the rest is skipped
        have hafter : Signal.after (some false) (u.evaluate rules).cancels = some true := by
          rw [hcancels]
          rfl
        refine ⟨[u], rest, rfl, .during (List.forall_mem_nil _) hcancels, fun taken => ?_⟩
        refine runSerial_cons (by decide) clock taken u fun taken => ?_
        rw [hafter]
        exact runSerial_set rest clock taken
      | false =>
        have hafter : Signal.after (some false) (u.evaluate rules).cancels = some false := by
          rw [hcancels]
          rfl
        obtain ⟨analysed, skipped, rfl, hcut, hrun⟩ := ih
        refine ⟨u :: analysed, skipped, rfl, hcut.cons hcancels, fun taken => ?_⟩
        refine runSerial_cons (by decide) clock taken u fun taken => ?_
        rw [hafter]
        exact hrun taken

/-- If nobody cancels the run, nothing is cut off: the serial run is then the plain one. -/
theorem Cut.skipped_eq_nil {analysed skipped : List SourceUnit}
    (h : Cut rules signal analysed skipped)
    (huncancelled : Uncancelled signal rules analysed) : skipped = [] := by
  cases h with
  | unwatched => rfl
  | never quiet => rfl
  | before => exact absurd rfl huncancelled.unset
  | during quiet cancels =>
    have hquiet := huncancelled.quiet (by decide) _ (List.mem_append_right _ List.mem_cons_self)
    rw [cancels] at hquiet
    exact absurd hquiet (by decide)

/-- One worker that nobody stops evaluates every unit. -/
theorem runSerial_eq_ok (h : Uncancelled signal rules units) (clock : Clock) (taken : Nat) :
    runSerial ⟨none⟩ rules clock signal taken units =
      .ok (units.map fun u => some (u.evaluate rules).findings) := by
  obtain ⟨analysed, skipped, rfl, hcut, hrun⟩ := runSerial_eq_cut rules signal units clock
  have hnone : skipped = [] := hcut.skipped_eq_nil (h.mono (List.subset_append_left _ _))
  rw [hrun, hnone, List.map_nil, List.append_nil, List.append_nil]

/-! ## 3. What the events tell -/

/-- Events that have happened, the last one first. -/
abbrev History := List WorkerEvent

namespace History

/-- The unit that a worker has taken up last. -/
def lastUnit (worker : Nat) : History → Option Nat
  | [] => none
  | .start w i :: earlier => if w = worker then some i else lastUnit worker earlier
  | _ :: earlier => lastUnit worker earlier

/-- The signal is set: it was set before the first event, or a check of a unit that a worker had in
hand asked for it and the request took effect. Once set it stays so. -/
inductive IsSet (signal : Signal) (rules : RuleSet) (units : List SourceUnit) : History → Prop
  | before (h : signal = some true) : IsSet signal rules units []
  | request {earlier : History} {worker i : Nat} {u : SourceUnit} (watched : signal ≠ none)
      (inHand : lastUnit worker earlier = some i) (unit : units[i]? = some u)
      (cancels : (u.evaluate rules).cancels = true) :
      IsSet signal rules units (.signal worker :: earlier)
  | later {earlier : History} {event : WorkerEvent} (h : IsSet signal rules units earlier) :
      IsSet signal rules units (event :: earlier)

variable {past earlier : History} {event : WorkerEvent}

theorem IsSet.mono (h : IsSet signal rules units earlier) (hsuffix : earlier <:+ past) :
    IsSet signal rules units past := by
  obtain ⟨events, rfl⟩ := hsuffix
  induction events with
  | nil => exact h
  | cons event rest ih => exact .later ih

/-- Only requests set the signal; taking up a unit and handing it in leave it as it is. -/
theorem isSet_cons_iff (hevent : ∀ worker, event ≠ .signal worker) :
    IsSet signal rules units (event :: past) ↔ IsSet signal rules units past := by
  constructor
  · intro h
    cases h with
    | request => exact absurd rfl (hevent _)
    | later h => exact h
  · exact .later

/-- The signal is set by a unit that asks for it, if there is a signal at all. -/
theorem isSet_signal_iff {worker i : Nat} {u : SourceUnit} (hhand : lastUnit worker past = some i)
    (hunit : units[i]? = some u) :
    IsSet signal rules units (.signal worker :: past) ↔
      IsSet signal rules units past ∨ signal ≠ none ∧ (u.evaluate rules).cancels = true := by
  constructor
  · intro h
    cases h with
    | later h => exact .inl h
    | request watched inHand unit cancels =>
      cases hhand.symm.trans inHand
      cases hunit.symm.trans unit
      exact .inr ⟨watched, cancels⟩
  · rintro (h | ⟨watched, cancels⟩)
    · exact .later h
    · exact .request watched hhand hunit cancels

/-- Nobody sets the signal of a run that nobody cancels. -/
theorem not_isSet_of_uncancelled (huncancelled : Uncancelled signal rules units) :
    ¬ IsSet signal rules units past := by
  intro h
  induction h with
  | before h => exact huncancelled.unset h
  | later h ih => exact ih
  | request watched _ unit cancels =>
    have hquiet := huncancelled.quiet watched _ (List.mem_of_getElem? unit)
    rw [cancels] at hquiet
    exact absurd hquiet (by decide)

/-- What becomes of a unit that has been taken up: nothing if the signal was set at that moment, and
otherwise its evaluation. -/
structure Settles (signal : Signal) (rules : RuleSet) (units : List SourceUnit) (past : History)
    (u : SourceUnit) (i : Nat) (result : Option Evaluation) : Prop where
  unit : units[i]? = some u
  started : ∃ worker, .start worker i ∈ past
  skipped : ∀ worker earlier, .start worker i :: earlier <:+ past →
    IsSet signal rules units earlier → result = none
  evaluated : ∀ worker earlier, .start worker i :: earlier <:+ past →
    ¬ IsSet signal rules units earlier → result = some (u.evaluation rules)

variable {u : SourceUnit} {i : Nat} {result : Option Evaluation}

/-- Later events do not change what becomes of a unit, as it is not taken up again. -/
theorem Settles.later (h : Settles signal rules units past u i result)
    (hevent : ∀ worker, event ≠ .start worker i) :
    Settles signal rules units (event :: past) u i result := by
  have hsuffix : ∀ worker earlier, .start worker i :: earlier <:+ event :: past →
      .start worker i :: earlier <:+ past := by
    intro worker earlier hsuffix
    refine (List.suffix_cons_iff.mp hsuffix).resolve_left fun heq => ?_
    exact hevent worker (List.cons.inj heq).1.symm
  obtain ⟨worker, hstarted⟩ := h.started
  exact ⟨h.unit, ⟨worker, List.mem_cons_of_mem _ hstarted⟩,
    fun worker earlier hlate => h.skipped worker earlier (hsuffix worker earlier hlate),
    fun worker earlier hlate => h.evaluated worker earlier (hsuffix worker earlier hlate)⟩

/-- A unit that was not taken up before is settled when it is. -/
theorem settles_start {worker : Nat} (hunit : units[i]? = some u)
    (hfresh : ∀ worker, .start worker i ∉ past)
    (hskipped : IsSet signal rules units past → result = none)
    (hevaluated : ¬ IsSet signal rules units past → result = some (u.evaluation rules)) :
    Settles signal rules units (.start worker i :: past) u i result := by
  have hlast : ∀ w earlier, .start w i :: earlier <:+ .start worker i :: past → earlier = past := by
    intro w earlier hsuffix
    rcases List.suffix_cons_iff.mp hsuffix with heq | hbefore
    · exact (List.cons.inj heq).2
    · exact absurd (hbefore.subset List.mem_cons_self) (hfresh w)
  refine ⟨hunit, ⟨worker, List.mem_cons_self⟩, fun w earlier hsuffix => ?_,
    fun w earlier hsuffix => ?_⟩
  · rw [hlast w earlier hsuffix]
    exact hskipped
  · rw [hlast w earlier hsuffix]
    exact hevaluated

/-- What became of a unit that has been settled was decided when it was taken up. -/
theorem Settles.exists_decided (h : Settles signal rules units past u i result) :
    ∃ earlier, earlier <:+ past ∧ (IsSet signal rules units earlier → result = none) ∧
      (¬ IsSet signal rules units earlier → result = some (u.evaluation rules)) := by
  obtain ⟨worker, hstarted⟩ := h.started
  obtain ⟨later, earlier, rfl⟩ := List.append_of_mem hstarted
  have hstart : .start worker i :: earlier <:+ later ++ .start worker i :: earlier :=
    List.suffix_append _ _
  exact ⟨earlier, (List.suffix_cons _ _).trans hstart, h.skipped worker earlier hstart,
    h.evaluated worker earlier hstart⟩

/-- A unit that has been settled was evaluated, unless the signal is set by now. -/
theorem Settles.isSet_or_evaluated (h : Settles signal rules units past u i result) :
    IsSet signal rules units past ∨ result = some (u.evaluation rules) := by
  obtain ⟨earlier, hbefore, -, hevaluated⟩ := h.exists_decided
  by_cases hset : IsSet signal rules units earlier
  · exact .inl (hset.mono hbefore)
  · exact .inr (hevaluated hset)

/-- A unit that has been settled was skipped or evaluated. -/
theorem Settles.skipped_or_evaluated (h : Settles signal rules units past u i result) :
    result = none ∨ result = some (u.evaluation rules) := by
  obtain ⟨earlier, -, hskipped, hevaluated⟩ := h.exists_decided
  by_cases hset : IsSet signal rules units earlier
  · exact .inl (hskipped hset)
  · exact .inr (hevaluated hset)

end History

/-- A signal is set after a unit if it was set before, or is watched and the unit cancels. -/
theorem Signal.after_eq_some_true_iff {signal : Signal} {cancels : Bool} :
    signal.after cancels = some true ↔
      signal = some true ∨ signal ≠ none ∧ cancels = true := by
  match signal with
  | none => simp [Signal.after]
  | some true => simp [Signal.after]
  | some false => simp [Signal.after]

/-- A run has a signal or has none, from its beginning to its end. -/
theorem Signal.after_eq_none_iff {signal : Signal} {cancels : Bool} :
    signal.after cancels = none ↔ signal = none := by
  unfold Signal.after
  rw [Option.map_eq_none_iff]

/-! ## 4. The invariant of a pool -/

namespace Pool

open History

/-- A pool while some units wait and some workers are busy, after these events: it agrees with the
schedule on who works on what and with the events on the signal, it holds what has become of the
right units, and it has lost none of them. -/
structure Keeps (rules : RuleSet) (units : List SourceUnit) (signal : Signal) (past : History)
    (waiting : List Nat) (busy : List Schedule.Slot) (pool : Pool) : Prop where
  watched : pool.signal = none ↔ signal = none
  set : pool.signal = some true ↔ IsSet signal rules units past
  slots : pool.busy.map (fun t => (t.worker, t.index)) = busy.map fun s => (s.worker, s.index)
  distinct : (pool.busy.map (·.worker)).Nodup
  waits : ∀ i ∈ waiting, i < units.length
  once : waiting.Nodup
  fresh : ∀ i ∈ waiting, ∀ worker, .start worker i ∉ past
  inHand : ∀ t ∈ pool.busy, lastUnit t.worker past = some t.index
  running : ∀ t ∈ pool.busy, ∃ u, Settles signal rules units past u t.index t.result
  finished : ∀ e ∈ pool.done, ∃ u, Settles signal rules units past u e.1 e.2
  accounted : ∀ i < units.length,
    i ∈ waiting ∨ (∃ t ∈ pool.busy, t.index = i) ∨ ∃ e ∈ pool.done, e.1 = i

variable {past : History} {waiting : List Nat} {busy : List Schedule.Slot} {pool : Pool}

/-- Before the first event every unit waits and nothing is done, so the invariant holds to begin
with. -/
theorem keeps_initial :
    Keeps rules units signal [] (List.range units.length) [] ⟨signal, 0, [], []⟩ where
  watched := Iff.rfl
  set := by
    constructor
    · exact .before
    · intro h
      cases h with
      | before h => exact h
  slots := rfl
  distinct := List.nodup_nil
  waits := fun _ hi => List.mem_range.mp hi
  once := List.nodup_range
  fresh := fun _ _ _ => List.not_mem_nil
  inHand := fun _ ht => absurd ht List.not_mem_nil
  running := fun _ ht => absurd ht List.not_mem_nil
  finished := fun _ he => absurd he List.not_mem_nil
  accounted := fun _ hi => .inl (List.mem_range.mpr hi)

/-- A worker that the schedule says is busy has a task, on the unit that the schedule says. -/
theorem Keeps.exists_task (h : pool.Keeps rules units signal past waiting busy)
    {slot : Schedule.Slot} (hslot : slot ∈ busy) :
    ∃ t ∈ pool.busy, t.worker = slot.worker ∧ t.index = slot.index := by
  have hmem : (slot.worker, slot.index) ∈ busy.map fun s => (s.worker, s.index) :=
    List.mem_map.mpr ⟨slot, hslot, rfl⟩
  rw [← h.slots] at hmem
  obtain ⟨t, ht, heq⟩ := List.mem_map.mp hmem
  exact ⟨t, ht, congrArg Prod.fst heq, congrArg Prod.snd heq⟩

/-- A worker that the schedule says is free has no task. -/
theorem Keeps.ne_worker (h : pool.Keeps rules units signal past waiting busy) {worker : Nat}
    (hfree : ∀ slot ∈ busy, slot.worker ≠ worker) : ∀ t ∈ pool.busy, t.worker ≠ worker := by
  intro t ht hworker
  have hpair : (t.worker, t.index) ∈ busy.map fun s => (s.worker, s.index) := by
    rw [← h.slots]
    exact List.mem_map.mpr ⟨t, ht, rfl⟩
  obtain ⟨slot, hslot, heq⟩ := List.mem_map.mp hpair
  exact hfree slot hslot ((congrArg Prod.fst heq).trans hworker)

/-- A worker has one task, so looking for it finds that one. -/
theorem Keeps.task?_eq_some (h : pool.Keeps rules units signal past waiting busy) {t : Task}
    (ht : t ∈ pool.busy) : pool.task? t.worker = some t := by
  unfold task?
  cases hfound : pool.busy.find? (·.worker == t.worker) with
  | none =>
    rw [List.find?_eq_none] at hfound
    exact absurd (hfound t ht) (by simp)
  | some found =>
    have hworker : found.worker = t.worker := by simpa using List.find?_some hfound
    rw [List.inj_on_of_nodup_map h.distinct (List.mem_of_find?_eq_some hfound) ht hworker]

/-! ## 5. What each event keeps -/

/-- What a worker does that takes up a unit: it looks at the signal. -/
theorem Keeps.step_start (h : pool.Keeps rules units signal past waiting busy) (clock : Clock)
    (worker : Nat) {index : Nat} {u : SourceUnit} (hunit : units[index]? = some u) :
    ∃ result, pool.step ⟨none⟩ rules clock units (.start worker index) =
        .ok { pool with busy := ⟨worker, index, result⟩ :: pool.busy } ∧
      (IsSet signal rules units past → result = none) ∧
      (¬ IsSet signal rules units past → result = some (u.evaluation rules)) := by
  by_cases hset : pool.signal = some true
  · refine ⟨none, ?_, fun _ => rfl, fun hunset => absurd (h.set.mp hset) hunset⟩
    rw [step, hunit]
    dsimp only
    rw [if_pos hset]
  · refine ⟨some (u.evaluation rules), ?_, fun hisSet => absurd (h.set.mpr hisSet) hset,
      fun _ => rfl⟩
    rw [step, hunit]
    dsimp only
    rw [if_neg hset, evaluate_unbounded]
    rfl

/-- **A worker starts.** The unit leaves the waiting ones for the hands of the worker. -/
theorem Keeps.start (h : pool.Keeps rules units signal past waiting busy) (clock : Clock)
    {worker index : Nat} (hfree : ∀ slot ∈ busy, slot.worker ≠ worker) (hdue : index ∈ waiting) :
    ∃ next, pool.step ⟨none⟩ rules clock units (.start worker index) = .ok next ∧
      next.Keeps rules units signal (.start worker index :: past) (waiting.erase index)
        (⟨worker, index, false⟩ :: busy) := by
  obtain ⟨u, hunit⟩ : ∃ u, units[index]? = some u :=
    ⟨_, List.getElem?_eq_getElem (h.waits index hdue)⟩
  have hidle := h.ne_worker hfree
  -- a unit that has been settled was taken up before, so it is not the one that is taken up now
  have hsettled : ∀ u i result, Settles signal rules units past u i result →
      Settles signal rules units (.start worker index :: past) u i result := by
    intro u i result hsettles
    refine hsettles.later fun w heq => ?_
    obtain ⟨before, hstarted⟩ := hsettles.started
    rw [← (WorkerEvent.start.inj heq).2] at hstarted
    exact h.fresh index hdue before hstarted
  obtain ⟨result, hstep, hskipped, hevaluated⟩ := h.step_start clock worker hunit
  refine ⟨_, hstep, ⟨h.watched, ?_, ?_, ?_, ?_, h.once.erase index, ?_, ?_, ?_, ?_, ?_⟩⟩
  · rw [isSet_cons_iff (by simp)]
    exact h.set
  · rw [List.map_cons, List.map_cons, h.slots]
  · refine List.nodup_cons.mpr ⟨fun hmem => ?_, h.distinct⟩
    obtain ⟨t, ht, hworker⟩ := List.mem_map.mp hmem
    exact hidle t ht hworker
  · exact fun i hi => h.waits i (List.mem_of_mem_erase hi)
  · intro i hi w hmem
    have hne : i ≠ index := (h.once.mem_erase_iff.mp hi).1
    rcases List.mem_cons.mp hmem with heq | hbefore
    · exact hne (WorkerEvent.start.inj heq).2
    · exact h.fresh i (List.mem_of_mem_erase hi) w hbefore
  · intro t ht
    rcases List.mem_cons.mp ht with rfl | hold
    · exact if_pos rfl
    · exact (if_neg (Ne.symm (hidle t hold))).trans (h.inHand t hold)
  · intro t ht
    rcases List.mem_cons.mp ht with rfl | hold
    · exact ⟨_, settles_start hunit (h.fresh index hdue) hskipped hevaluated⟩
    · obtain ⟨u, hsettles⟩ := h.running t hold
      exact ⟨u, hsettled _ _ _ hsettles⟩
  · intro e he
    obtain ⟨u, hsettles⟩ := h.finished e he
    exact ⟨u, hsettled _ _ _ hsettles⟩
  · -- the unit that was taken up is in hand, and no other unit has moved
    intro i hi
    by_cases hsame : i = index
    · exact .inr (.inl ⟨_, List.mem_cons_self, hsame.symm⟩)
    · rcases h.accounted i hi with hwaits | ⟨t, ht, hindex⟩ | hdone
      · exact .inl ((List.mem_erase_of_ne hsame).mpr hwaits)
      · exact .inr (.inl ⟨t, List.mem_cons_of_mem _ ht, hindex⟩)
      · exact .inr (.inr hdone)

/-- The request of a task that was skipped does not count, but then the signal is set already. -/
theorem Keeps.after_eq_some_true_iff (h : pool.Keeps rules units signal past waiting busy)
    {t : Task} (ht : t ∈ pool.busy) :
    pool.signal.after (t.result.any (·.cancels)) = some true ↔
      IsSet signal rules units (.signal t.worker :: past) := by
  obtain ⟨u, hsettles⟩ := h.running t ht
  have hwatched : pool.signal ≠ none ↔ signal ≠ none := not_congr h.watched
  rw [Signal.after_eq_some_true_iff, isSet_signal_iff (h.inHand t ht) hsettles.unit, h.set,
    hwatched]
  constructor
  · rintro (hset | ⟨hnone, hany⟩)
    · exact .inl hset
    · rcases hsettles.skipped_or_evaluated with hskipped | hevaluated
      · rw [hskipped] at hany
        exact absurd hany (by simp)
      · rw [hevaluated] at hany
        exact .inr ⟨hnone, hany⟩
  · rintro (hset | ⟨hnone, hcancels⟩)
    · exact .inl hset
    · rcases hsettles.isSet_or_evaluated with hset | hevaluated
      · exact .inl hset
      · rw [hevaluated]
        exact .inr ⟨hnone, hcancels⟩

/-- **A unit has its chance to cancel.** Only the signal changes. -/
theorem Keeps.signals (h : pool.Keeps rules units signal past waiting busy) (clock : Clock)
    {slot : Schedule.Slot} (hslot : slot ∈ busy) :
    ∃ next, pool.step ⟨none⟩ rules clock units (.signal slot.worker) = .ok next ∧
      next.Keeps rules units signal (.signal slot.worker :: past) waiting
        (busy.map fun s => { s with signalled := s.signalled || s.worker == slot.worker }) := by
  obtain ⟨t, ht, hworker, -⟩ := h.exists_task hslot
  rw [← hworker]
  refine ⟨{ pool with signal := pool.signal.after (t.result.any (·.cancels)) }, ?_,
    ⟨Signal.after_eq_none_iff.trans h.watched, h.after_eq_some_true_iff ht, ?_, h.distinct,
      h.waits, h.once, ?_, h.inHand, ?_, ?_, h.accounted⟩⟩
  · rw [step, h.task?_eq_some ht, Option.any_some]
  · rw [h.slots, List.map_map]
    rfl
  · intro i hi w hmem
    exact h.fresh i hi w ((List.mem_cons.mp hmem).resolve_left (by simp))
  · intro other hother
    obtain ⟨u, hsettles⟩ := h.running other hother
    exact ⟨u, hsettles.later (by simp)⟩
  · intro e he
    obtain ⟨u, hsettles⟩ := h.finished e he
    exact ⟨u, hsettles.later (by simp)⟩

/-- **A worker finishes.** The unit leaves its hands for the finished ones. -/
theorem Keeps.finish (h : pool.Keeps rules units signal past waiting busy) (clock : Clock)
    {slot : Schedule.Slot} (hslot : slot ∈ busy) :
    ∃ next, pool.step ⟨none⟩ rules clock units (.finish slot.worker) = .ok next ∧
      next.Keeps rules units signal (.finish slot.worker :: past) waiting
        (busy.filter (·.worker != slot.worker)) := by
  obtain ⟨t, ht, hworker, -⟩ := h.exists_task hslot
  rw [← hworker]
  refine ⟨{ pool with
      busy := pool.busy.filter (·.worker != t.worker)
      done := (t.index, t.result) :: pool.done }, ?_,
    ⟨h.watched, ?_, ?_, ?_, h.waits, h.once, ?_, ?_, ?_, ?_, ?_⟩⟩
  · rw [step, h.task?_eq_some ht]
  · rw [isSet_cons_iff (by simp)]
    exact h.set
  · -- both sides drop the same worker from lists that agree
    have hfiltered := congrArg (List.filter fun pair => pair.1 != t.worker) h.slots
    rw [List.filter_map, List.filter_map] at hfiltered
    exact hfiltered
  · exact h.distinct.sublist (List.filter_sublist.map _)
  · intro i hi w hmem
    exact h.fresh i hi w ((List.mem_cons.mp hmem).resolve_left (by simp))
  · exact fun other hother => h.inHand other (List.mem_filter.mp hother).1
  · intro other hother
    obtain ⟨u, hsettles⟩ := h.running other (List.mem_filter.mp hother).1
    exact ⟨u, hsettles.later (by simp)⟩
  · intro e he
    rcases List.mem_cons.mp he with rfl | hold
    · obtain ⟨u, hsettles⟩ := h.running t ht
      exact ⟨u, hsettles.later (by simp)⟩
    · obtain ⟨u, hsettles⟩ := h.finished e hold
      exact ⟨u, hsettles.later (by simp)⟩
  · intro i hi
    rcases h.accounted i hi with hwaits | ⟨other, hother, hindex⟩ | ⟨e, he, hkey⟩
    · exact .inl hwaits
    · by_cases hsame : other.worker = t.worker
      · -- the worker has one task only, so this is the unit that it hands in
        have heq : other = t := List.inj_on_of_nodup_map h.distinct hother ht hsame
        exact .inr (.inr ⟨_, List.mem_cons_self, by rw [← hindex, heq]⟩)
      · exact .inr (.inl ⟨other, List.mem_filter.mpr ⟨hother, by simpa using hsame⟩, hindex⟩)
    · exact .inr (.inr ⟨e, List.mem_cons_of_mem _ he, hkey⟩)

/-! ## 6. The whole schedule -/

theorem steps_cons {clock : Clock} {event : WorkerEvent} {rest : Schedule} {next final : Pool}
    (hstep : pool.step ⟨none⟩ rules clock units event = .ok next)
    (hsteps : next.steps ⟨none⟩ rules clock units rest = .ok final) :
    pool.steps ⟨none⟩ rules clock units (event :: rest) = .ok final := by
  rw [Pool.steps, hstep]
  exact hsteps

/-- **All events.** The induction is on the schedule, by the events that can come next. -/
theorem Keeps.steps {workers : Nat} {schedule : Schedule}
    (h : pool.Keeps rules units signal past waiting busy)
    (hschedule : Schedule.Proceeds workers waiting busy schedule) (clock : Clock) :
    ∃ final, pool.steps ⟨none⟩ rules clock units schedule = .ok final ∧
      final.Keeps rules units signal (schedule.reverse ++ past) [] [] := by
  induction hschedule generalizing pool past with
  | done => exact ⟨pool, rfl, h⟩
  | start hired free due _ ih =>
    obtain ⟨next, hstep, hnext⟩ := h.start clock free due
    obtain ⟨final, hsteps, hfinal⟩ := ih hnext
    rw [List.reverse_cons, List.append_assoc]
    exact ⟨final, steps_cons hstep hsteps, hfinal⟩
  | signal works _ ih =>
    obtain ⟨next, hstep, hnext⟩ := h.signals clock works
    obtain ⟨final, hsteps, hfinal⟩ := ih hnext
    rw [List.reverse_cons, List.append_assoc]
    exact ⟨final, steps_cons hstep hsteps, hfinal⟩
  | finish works _ _ ih =>
    obtain ⟨next, hstep, hnext⟩ := h.finish clock works
    obtain ⟨final, hsteps, hfinal⟩ := ih hnext
    rw [List.reverse_cons, List.append_assoc]
    exact ⟨final, steps_cons hstep hsteps, hfinal⟩

/-- When nothing waits and nobody works, it is known of each unit what became of it. -/
theorem Keeps.lookup_done (h : pool.Keeps rules units signal past [] []) {i : Nat}
    (hi : i < units.length) :
    ∃ result, pool.done.lookup i = some result ∧
      Settles signal rules units past units[i] i result := by
  have hidle : pool.busy = [] := List.map_eq_nil_iff.mp (h.slots.trans List.map_nil)
  cases hfound : pool.done.lookup i with
  | none =>
    rw [List.lookup_eq_none_iff] at hfound
    rcases h.accounted i hi with hwaits | ⟨t, ht, -⟩ | ⟨e, he, hkey⟩
    · exact absurd hwaits List.not_mem_nil
    · rw [hidle] at ht
      exact absurd ht List.not_mem_nil
    · exact absurd (hfound e he) (by simp [hkey])
  | some result =>
    obtain ⟨u, hsettles⟩ := h.finished (i, result) (mem_of_lookup hfound)
    have hunit : u = units[i] :=
      Option.some.inj (hsettles.unit.symm.trans (List.getElem?_eq_getElem hi))
    exact ⟨result, rfl, hunit ▸ hsettles⟩

/-- Whether the unit was skipped. -/
def skips (pool : Pool) (i : Nat) : Bool := (pool.done.lookup i).any (·.isNone)

/-- **What is skipped**: the units that were taken up after the signal was set. -/
theorem Keeps.skips_iff (h : pool.Keeps rules units signal past [] []) {worker i : Nat}
    {earlier : History} (hi : i < units.length) (hstart : .start worker i :: earlier <:+ past) :
    pool.skips i = true ↔ IsSet signal rules units earlier := by
  obtain ⟨result, hlookup, hsettles⟩ := h.lookup_done hi
  unfold skips
  rw [hlookup, Option.any_some]
  by_cases hset : IsSet signal rules units earlier
  · rw [hsettles.skipped worker earlier hstart hset]
    exact iff_of_true rfl hset
  · rw [hsettles.evaluated worker earlier hstart hset]
    exact iff_of_false (by simp) hset

/-- The results in the order of the input, whatever the order in which they were handed in. -/
theorem Keeps.results (h : pool.Keeps rules units signal past [] []) :
    pool.results units.length = units.zipIdx.map fun p =>
      if pool.skips p.2 then none else some (p.1.evaluate rules).findings := by
  unfold Pool.results
  refine List.ext_getElem (by simp) fun i hi _ => ?_
  have hlt : i < units.length := by simpa using hi
  obtain ⟨result, hlookup, hsettles⟩ := h.lookup_done hlt
  rw [List.getElem_map, List.getElem_map, List.getElem_range, List.getElem_zipIdx, hlookup]
  unfold skips
  dsimp only
  rw [Nat.zero_add, hlookup]
  rcases hsettles.skipped_or_evaluated with hskipped | hevaluated
  · rw [hskipped]
    rfl
  · rw [hevaluated]
    rfl

end Pool

/-- Which units many workers skip: those whose worker looked at the signal when it was set. Every
unit is taken up by some worker. -/
structure SkipsLate (signal : Signal) (rules : RuleSet) (units : List SourceUnit)
    (schedule : Schedule) (skipped : Nat → Bool) : Prop where
  takenUp : ∀ i < units.length,
    ∃ before worker after, schedule = before ++ .start worker i :: after
  skipped_iff : ∀ before worker i after, i < units.length →
    schedule = before ++ .start worker i :: after →
      (skipped i = true ↔ History.IsSet signal rules units before.reverse)

/-- **Many workers.** Whatever the schedule, every unit is evaluated or skipped, and the results
come in the order of the units. -/
theorem runParallel_eq_skipping {workers : Nat} {schedule : Schedule} (rules : RuleSet)
    (signal : Signal) (hvalid : schedule.Valid workers units.length) (clock : Clock) :
    ∃ skipped, SkipsLate signal rules units schedule skipped ∧
      runParallel ⟨none⟩ rules clock signal schedule units =
        .ok (units.zipIdx.map fun p =>
          if skipped p.2 then none else some (p.1.evaluate rules).findings) := by
  have hinitial : Pool.Keeps rules units signal [] (List.range units.length) []
      ⟨signal, 0, [], []⟩ := Pool.keeps_initial
  obtain ⟨final, hsteps, hfinal⟩ := hinitial.steps hvalid clock
  rw [List.append_nil] at hfinal
  refine ⟨final.skips, ⟨fun i hi => ?_, fun before worker i after hi hschedule => ?_⟩, ?_⟩
  · obtain ⟨result, -, hsettles⟩ := hfinal.lookup_done hi
    obtain ⟨worker, hstarted⟩ := hsettles.started
    obtain ⟨before, after, hschedule⟩ := List.append_of_mem (List.mem_reverse.mp hstarted)
    exact ⟨before, worker, after, hschedule⟩
  · have hstart : .start worker i :: before.reverse <:+ schedule.reverse :=
      ⟨after.reverse, by rw [hschedule]; simp⟩
    exact hfinal.skips_iff hi hstart
  · unfold runParallel
    rw [hsteps, ← hfinal.results]
    rfl

/-- Many workers that nobody stops evaluate every unit. -/
theorem runParallel_eq_ok (h : Uncancelled signal rules units) {workers : Nat}
    {schedule : Schedule} (hvalid : schedule.Valid workers units.length) (clock : Clock) :
    runParallel ⟨none⟩ rules clock signal schedule units =
      .ok (units.map fun u => some (u.evaluate rules).findings) := by
  obtain ⟨skipped, hskips, hrun⟩ := runParallel_eq_skipping rules signal hvalid clock
  have hnone : ∀ i < units.length, skipped i = false := by
    intro i hi
    obtain ⟨before, worker, after, hschedule⟩ := hskips.takenUp i hi
    rw [← Bool.not_eq_true, hskips.skipped_iff before worker i after hi hschedule]
    exact History.not_isSet_of_uncancelled h
  have hall : (units.zipIdx.map fun p =>
      if skipped p.2 then none else some (p.1.evaluate rules).findings) =
        (units.zipIdx.map Prod.fst).map fun u => some (u.evaluate rules).findings := by
    rw [List.map_map]
    refine List.map_congr_left fun p hp => ?_
    rw [hnone p.2 (List.snd_lt_of_mem_zipIdx hp)]
    rfl
  rw [hrun, hall, List.zipIdx_map_fst]

end Conformance
