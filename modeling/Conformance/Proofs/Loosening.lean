import Conformance.Proofs.BuiltinSafety

/-!
# Looser configurations

A configuration is looser than another if it asks for less: what a rule allows at most is raised,
and what a name must have at least is lowered. The findings of a check need not be the same under
the two, since their wording and their details name the thresholds; a name that was too short may
even be found for another reason, namely for its letters. But the check makes no more of them
(`Check.Shrinking`). This is shown for every built-in rule, from the calls that its check is made of
(`Shrinking`).
-/

set_option autoImplicit false

namespace Conformance

/-! ## 1. Looser configurations -/

/-- A configuration that asks for no more than another: every ceiling is at least as high, and the
one floor among the thresholds, the least length of a name, is at most as high. -/
structure RuleConfig.Loosens (relaxed strict : RuleConfig) : Prop where
  severity : relaxed.severity = strict.severity
  ceiling : ∀ name ≠ "min_length", ∀ before after, strict.threshold name = .ok before →
    relaxed.threshold name = .ok after → before ≤ after
  floor : ∀ before after, strict.threshold "min_length" = .ok before →
    relaxed.threshold "min_length" = .ok after → after ≤ before

/-- Every rule is disabled in the relaxed registry, or enabled in both and configured more
loosely. -/
def Registry.Relaxes (relaxed strict : Registry) : Prop :=
  ∀ ruleId before after, strict.configs.get? ruleId = some before →
    relaxed.configs.get? ruleId = some after →
      after.enabled = false ∨
        before.enabled = true ∧ after.enabled = true ∧ after.Loosens before

/-- A threshold can be asked for exactly if it is there. -/
theorem RuleConfig.threshold_eq_ok_iff {config : RuleConfig} {name : String} {n : Nat} :
    config.threshold name = .ok n ↔ config.thresholds.get? name = some n := by
  unfold threshold
  cases config.thresholds.get? name with
  | none => exact iff_of_false (by simp) (by simp)
  | some m => simp

/-- Only the thresholds that there are need to be compared. -/
theorem RuleConfig.loosens_iff {relaxed strict : RuleConfig} :
    relaxed.Loosens strict ↔ relaxed.severity = strict.severity ∧
      ∀ e ∈ strict.thresholds.entries, ∀ after ∈ relaxed.thresholds.get? e.1,
        if e.1 = "min_length" then after ≤ e.2 else e.2 ≤ after := by
  constructor
  · intro h
    refine ⟨h.severity, fun e he after hafter => ?_⟩
    have hbefore := threshold_eq_ok_iff.mpr (Table.get?_of_mem he)
    have hafter := threshold_eq_ok_iff.mpr hafter
    split
    · rename_i hname
      rw [hname] at hbefore hafter
      exact h.floor _ _ hbefore hafter
    · rename_i hname
      exact h.ceiling _ hname _ _ hbefore hafter
  · rintro ⟨hseverity, hthresholds⟩
    -- a table holds one value per name, so its entries are what its lookups give
    refine ⟨hseverity, fun name hname before after hbefore hafter => ?_,
      fun before after hbefore hafter => ?_⟩
    · have hmem := Table.mem_of_get? (threshold_eq_ok_iff.mp hbefore)
      have hle := hthresholds _ hmem _ (threshold_eq_ok_iff.mp hafter)
      rwa [if_neg hname] at hle
    · have hmem := Table.mem_of_get? (threshold_eq_ok_iff.mp hbefore)
      have hle := hthresholds _ hmem _ (threshold_eq_ok_iff.mp hafter)
      rwa [if_pos rfl] at hle

instance (relaxed strict : RuleConfig) : Decidable (relaxed.Loosens strict) :=
  decidable_of_iff _ RuleConfig.loosens_iff.symm

/-- The definition says which rules get looser; this says it entry by entry, so that it can be
checked. -/
theorem Registry.relaxes_iff {relaxed strict : Registry} :
    relaxed.Relaxes strict ↔ ∀ e ∈ strict.configs.entries, ∀ after ∈ relaxed.configs.get? e.1,
      after.enabled = false ∨ e.2.enabled = true ∧ after.enabled = true ∧ after.Loosens e.2 :=
  ⟨fun h e he after hafter => h e.1 e.2 after (Table.get?_of_mem he) hafter,
    fun h _ _ after hbefore hafter => h _ (Table.mem_of_get? hbefore) after hafter⟩

instance (relaxed strict : Registry) : Decidable (relaxed.Relaxes strict) :=
  decidable_of_iff _ Registry.relaxes_iff.symm

/-! ## 2. Checks that find less -/

/-- A result that has no more findings under a looser configuration, if it goes through under
both. -/
structure Shrinking (result : Context → Except Error (List Finding)) : Prop where
  fewer : ∀ {ctx : Context} {relaxed : RuleConfig} {found less : List Finding},
    relaxed.Loosens ctx.config → result ctx = .ok found →
      result { ctx with config := relaxed } = .ok less → less.length ≤ found.length

/-- The number of findings of the measuring call. -/
theorem Context.length_of_exceeds {ctx : Context} {element : Element} {message option : String}
    {measured : Int} {extra : Payload} {made : Option Finding}
    (h : ctx.exceeds element message measured option extra = .ok made) :
    ∃ n, ctx.config.threshold option = .ok n ∧
      made.toList.length = if measured ≤ n then 0 else 1 := by
  unfold exceeds at h
  obtain ⟨-, -, h⟩ := bind_ok_iff.mp h
  obtain ⟨-, -, h⟩ := bind_ok_iff.mp h
  obtain ⟨n, hn, h⟩ := bind_ok_iff.mp h
  refine ⟨n, hn, ?_⟩
  by_cases hle : measured ≤ n
  · rw [if_pos hle] at h ⊢
    rw [← Except.ok.inj h]
    rfl
  · rw [if_neg hle] at h ⊢
    obtain ⟨-, -, h⟩ := bind_ok_iff.mp h
    obtain ⟨-, -, h⟩ := bind_ok_iff.mp h
    obtain ⟨f, -, h⟩ := bind_ok_iff.mp h
    rw [← Except.ok.inj h]
    rfl

namespace Shrinking

theorem nil : Shrinking fun _ => .ok [] where
  fewer := by
    intro ctx relaxed found less _ _ hless
    rw [← Except.ok.inj hless]
    exact Nat.zero_le _

theorem error (e : Error) : Shrinking fun _ => .error e where
  fewer := fun _ hfound => absurd hfound (by simp)

/-- One finding under either configuration. Only its severity is configured, and severities are not
counted. -/
theorem finding (element : Element) (message : String) (payload : Payload) :
    Shrinking fun ctx => do
      let f ← ctx.finding element message payload
      return [f] where
  fewer := by
    intro ctx relaxed found less _ hfound hless
    obtain ⟨f, -, hfound⟩ := bind_ok_iff.mp hfound
    obtain ⟨g, -, hless⟩ := bind_ok_iff.mp hless
    rw [← Except.ok.inj hfound, ← Except.ok.inj hless]
    exact Nat.le_refl 1

/-- What is above the higher ceiling is above the lower one. The details may depend on the
configuration. -/
theorem exceeds (element : Element) (message : String) (measured : Int) {option : String}
    (extra : Context → Payload) (hoption : option ≠ "min_length") :
    Shrinking fun ctx =>
      Builtin.atMostOne (ctx.exceeds element message measured option (extra ctx)) where
  fewer := by
    intro ctx relaxed found less hloosens hfound hless
    obtain ⟨made, hmade, hfound⟩ := bind_ok_iff.mp hfound
    obtain ⟨still, hstill, hless⟩ := bind_ok_iff.mp hless
    obtain ⟨before, hbefore, hlength⟩ := Context.length_of_exceeds hmade
    obtain ⟨after, hafter, hlengthStill⟩ := Context.length_of_exceeds hstill
    have hle : before ≤ after := hloosens.ceiling option hoption before after hbefore hafter
    rw [← Except.ok.inj hfound, ← Except.ok.inj hless, hlength, hlengthStill]
    by_cases hbelow : measured ≤ before
    · have hstill : measured ≤ after := by omega
      rw [if_pos hstill]
      exact Nat.zero_le _
    · rw [if_neg hbelow]
      split <;> omega

theorem ite {p : Prop} [Decidable p] {first second : Context → Except Error (List Finding)}
    (hfirst : Shrinking first) (hsecond : Shrinking second) :
    Shrinking fun ctx => if p then first ctx else second ctx := by
  by_cases hp : p
  · simpa only [if_pos hp] using hfirst
  · simpa only [if_neg hp] using hsecond

/-- One result after the other: counts add up, and a failure of either ends both. -/
theorem append {first second : Context → Except Error (List Finding)}
    (hfirst : Shrinking first) (hsecond : Shrinking second) :
    Shrinking fun ctx => do
      let some_ ← first ctx
      let more ← second ctx
      return some_ ++ more where
  fewer := by
    intro ctx relaxed found less hloosens hfound hless
    obtain ⟨some_, hsome, hfound⟩ := bind_ok_iff.mp hfound
    obtain ⟨more, hmore, hfound⟩ := bind_ok_iff.mp hfound
    obtain ⟨someLess, hsomeLess, hless⟩ := bind_ok_iff.mp hless
    obtain ⟨moreLess, hmoreLess, hless⟩ := bind_ok_iff.mp hless
    rw [← Except.ok.inj hfound, ← Except.ok.inj hless, List.length_append, List.length_append]
    exact Nat.add_le_add (hfirst.fewer hloosens hsome hsomeLess)
      (hsecond.fewer hloosens hmore hmoreLess)

end Shrinking

/-- A check that never cancels a run, and finds no more under a looser configuration. -/
structure Check.Shrinking (check : Check) : Prop where
  quiet : ∀ element ctx, (check element ctx).cancels = false
  fewer : ∀ {element : Element} {ctx : Context} {relaxed : RuleConfig},
    relaxed.Loosens ctx.config → (check element ctx).failure = none →
      (check element { ctx with config := relaxed }).failure = none →
        (check element { ctx with config := relaxed }).findings.length ≤
          (check element ctx).findings.length

namespace Check

/-- What the check works out on the element is a shrinking result. -/
def ShrinksOn (check : Check) (element : Element) : Prop :=
  ∃ result, Conformance.Shrinking result ∧ ∀ ctx, check element ctx = .ofExcept (result ctx)

/-- What a check has to say about an element that is not for it has no findings. -/
theorem shrinks_onOther {check : Check} {element : Element} (parts : List Part)
    (h : ∀ ctx, check element ctx = onOther parts element) : check.ShrinksOn element := by
  refine ⟨fun _ => do element.checkParts parts; return [], ?_, h⟩
  cases element.checkParts parts with
  | ok _ => exact Conformance.Shrinking.nil
  | error e => exact Conformance.Shrinking.error e

/-- **Element by element.** A check is shrinking if what it works out on every element is. -/
theorem Shrinking.of_results {check : Check} (h : ∀ element, check.ShrinksOn element) :
    check.Shrinking where
  quiet := by
    intro element ctx
    obtain ⟨result, -, hrun⟩ := h element
    rw [hrun]
    cases result ctx with
    | ok findings => rfl
    | error e => rfl
  fewer := by
    intro element ctx relaxed hloosens hfailure hfailureRelaxed
    obtain ⟨result, hshrinks, hrun⟩ := h element
    rw [hrun] at hfailure hfailureRelaxed ⊢
    rw [hrun]
    cases hfound : result ctx with
    | error e =>
      rw [hfound] at hfailure
      exact absurd hfailure (by simp [CheckRun.ofExcept])
    | ok found =>
      -- both runs ended without a failure, so both results are findings
      cases hless : result { ctx with config := relaxed } with
      | error e =>
        rw [hless] at hfailureRelaxed
        exact absurd hfailureRelaxed (by simp [CheckRun.ofExcept])
      | ok less => exact hshrinks.fewer hloosens hfound hless

/-- A check of the elements of a form shrinks if its results do, since on the other elements it does
not look at the configuration. -/
theorem shrinking_ofForm {α : Type} {form : Element.Form α} {parts : List Part}
    {f : α → Context → Except Error (List Finding)} (h : ∀ a, Conformance.Shrinking (f a)) :
    (ofForm form parts f).Shrinking := by
  refine Shrinking.of_results fun element => ?_
  cases hget : form.get? element with
  | none => exact shrinks_onOther parts fun _ => ofForm_of_none hget
  | some a => exact ⟨f a, h a, fun _ => ofForm_of_some hget⟩

/-- The layer does not depend on the configuration, so the check is made under both or under none.
-/
theorem Shrinking.inDomain {check : Check} (h : check.Shrinking) :
    (Check.inDomain check).Shrinking where
  quiet := by
    intro element ctx
    unfold Check.inDomain
    split
    · exact h.quiet element ctx
    · rfl
  fewer := by
    intro element ctx relaxed hloosens
    unfold Check.inDomain
    by_cases hlayer : ctx.layer = some .domain
    · have hsame : ({ ctx with config := relaxed } : Context).layer = some .domain := hlayer
      rw [if_pos hlayer, if_pos hsame]
      exact h.fewer hloosens
    · have hsame : ({ ctx with config := relaxed } : Context).layer ≠ some .domain := hlayer
      rw [if_neg hlayer, if_neg hsame]
      exact fun _ _ => Nat.le_refl _

end Check

/-! ## 3. The built-in rules, one by one -/

namespace Builtin

theorem shrinking_maxIndentationDepth : maxIndentationDepth.check.Shrinking :=
  Check.shrinking_ofForm fun _ => Shrinking.exceeds _ _ _ (fun _ => []) (by decide)

theorem shrinking_maxMethodSize : maxMethodSize.check.Shrinking :=
  Check.shrinking_ofForm fun _ => Shrinking.exceeds _ _ _ (fun _ => []) (by decide)

theorem shrinking_maxInstanceVariables : maxInstanceVariables.check.Shrinking :=
  Check.shrinking_ofForm fun _ => Shrinking.exceeds _ _ _ (fun _ => []) (by decide)

theorem shrinking_maxInterfaceMethods : maxInterfaceMethods.check.Shrinking :=
  Check.shrinking_ofForm fun _ => Shrinking.exceeds _ _ _ (fun _ => []) (by decide)

theorem shrinking_maxCallChain : maxCallChain.check.Shrinking := by
  refine Check.shrinking_ofForm fun s => Shrinking.ite Shrinking.nil ?_
  cases s.callChainLength with
  | none => exact Shrinking.error _
  | some length => exact Shrinking.exceeds _ _ _ (fun _ => []) (by decide)

theorem shrinking_noElseBranch : noElseBranch.check.Shrinking := by
  refine Check.shrinking_ofForm fun s => Shrinking.ite ?_ Shrinking.nil
  cases s.elseBranches with
  | nil => exact Shrinking.error _
  | cons branch rest => exact Shrinking.finding _ _ _

theorem shrinking_noAccessorMethods : noAccessorMethods.check.Shrinking := by
  refine Check.Shrinking.inDomain (Check.shrinking_ofForm fun m => ?_)
  exact Shrinking.ite (Shrinking.finding _ _ _) Shrinking.nil

theorem shrinking_layeredDependency : layeredDependency.check.Shrinking := by
  refine Check.Shrinking.inDomain (Check.shrinking_ofForm fun t => ?_)
  exact Shrinking.ite Shrinking.nil (Shrinking.finding _ _ _)

/-- Each of the two measurements shrinks by itself. -/
theorem shrinking_maxClassSize : maxClassSize.check.Shrinking := by
  refine Check.shrinking_ofForm fun t => ?_
  have hmethods := Shrinking.exceeds (.type t) ("Type '" ++ t.name ++ "' has too many methods")
    t.methods.length (fun _ => [("metric", .text "methods")]) (show "max_methods" ≠ _ by decide)
  cases hspan : t.lineSpan with
  | none =>
    refine cast (congrArg Shrinking (funext fun ctx => ?_)) hmethods
    unfold checkClassSize
    rw [hspan]
    rfl
  | some span =>
    have hlines := Shrinking.exceeds (.type t) ("Type '" ++ t.name ++ "' spans too many lines")
      span (fun ctx => [("metric", .text "lines"), ("profile", Value.ofText? ctx.config.profile)])
      (show "max_lines" ≠ _ by decide)
    refine cast (congrArg Shrinking (funext fun ctx => ?_)) (hmethods.append hlines)
    unfold checkClassSize atMostOne
    rw [hspan]
    simp only [bind_assoc, pure_bind]

/-- The number of findings about a name: one if it is too short or has no vowel. -/
theorem length_of_checkName {kind name : String} {element : Element} {ctx : Context}
    {made : List Finding} (h : checkName kind name element ctx = .ok made) :
    ∃ least, ctx.config.threshold "min_length" = .ok least ∧
      made.length = if name.length < least ∨ isAllConsonant name = true then 1 else 0 := by
  unfold checkName at h
  obtain ⟨least, hleast, h⟩ := bind_ok_iff.mp h
  refine ⟨least, hleast, ?_⟩
  dsimp only at h
  by_cases hshort : name.length < least
  · rw [if_pos hshort] at h
    obtain ⟨f, -, h⟩ := bind_ok_iff.mp h
    rw [← Except.ok.inj h, if_pos (.inl hshort)]
    rfl
  · rw [if_neg hshort] at h
    by_cases hconsonant : isAllConsonant name = true
    · rw [if_pos hconsonant] at h
      obtain ⟨f, -, h⟩ := bind_ok_iff.mp h
      rw [← Except.ok.inj h, if_pos (.inr hconsonant)]
      rfl
    · rw [if_neg hconsonant] at h
      rw [← Except.ok.inj h, if_neg (not_or.mpr ⟨hshort, hconsonant⟩)]
      rfl

/-- A name that is still too short was too short. One that is found for its letters now was found
for these, or for its length. -/
theorem shrinking_checkName (kind name : String) (element : Element) :
    Shrinking (checkName kind name element) where
  fewer := by
    intro ctx relaxed found less hloosens hfound hless
    obtain ⟨before, hbefore, hlength⟩ := length_of_checkName hfound
    obtain ⟨after, hafter, hlengthLess⟩ := length_of_checkName hless
    have hle : after ≤ before := hloosens.floor before after hbefore hafter
    rw [hlength, hlengthLess]
    by_cases hstill : name.length < after ∨ isAllConsonant name = true
    · have hwas : name.length < before ∨ isAllConsonant name = true :=
        hstill.imp_left fun hshort => Nat.lt_of_lt_of_le hshort hle
      rw [if_pos hwas]
      split <;> omega
    · rw [if_neg hstill]
      exact Nat.zero_le _

/-- The minimum length loosens downwards: a name that is long enough for a larger one is long enough
for a smaller one. -/
theorem shrinking_noAbbreviation : noAbbreviation.check.Shrinking := by
  refine Check.Shrinking.of_results fun element => ?_
  cases element with
  | type t => exact ⟨_, shrinking_checkName "Type" t.name (.type t), fun _ => rfl⟩
  | method m => exact ⟨_, shrinking_checkName "Method" m.name (.method m), fun _ => rfl⟩
  | field f => exact ⟨_, shrinking_checkName "Field" f.name (.field f), fun _ => rfl⟩
  | parameter p => exact ⟨_, Shrinking.error _, fun _ => rfl⟩
  | _ => exact Check.shrinks_onOther [.name] fun _ => rfl

/-- What is no measurement does not look at thresholds at all. -/
theorem shrinking_rawCollection (element : Element) (name : String)
    (type? : Option TypeReference) : Shrinking (rawCollection element name type?) := by
  unfold rawCollection
  cases type?.filter (·.isCollection) with
  | none => exact Shrinking.nil
  | some r => exact Shrinking.finding _ _ _

theorem shrinking_firstClassCollection : firstClassCollection.check.Shrinking := by
  refine Check.Shrinking.inDomain (Check.Shrinking.of_results fun element => ?_)
  cases element with
  | field f => exact ⟨_, shrinking_rawCollection (.field f) f.name f.type?, fun _ => rfl⟩
  | parameter p => exact ⟨_, shrinking_rawCollection (.parameter p) p.name p.type?, fun _ => rfl⟩
  | _ => exact Check.shrinks_onOther [.typeReference] fun _ => rfl

theorem shrinking_wrapPrimitives : wrapPrimitives.check.Shrinking := by
  refine Check.Shrinking.inDomain (Check.Shrinking.of_results fun element => ?_)
  cases element with
  | field f =>
    refine ⟨_, ?_, fun _ => rfl⟩
    cases f.type?.filter (·.isPrimitive) with
    | none => exact Shrinking.nil
    | some r => exact Shrinking.finding _ _ _
  | parameter p =>
    refine ⟨_, ?_, fun _ => rfl⟩
    cases p.type?.filter (·.isPrimitive) with
    | none => exact Shrinking.nil
    | some r => exact Shrinking.finding _ _ _
  | _ => exact Check.shrinks_onOther [.typeReference] fun _ => rfl

/-- **All built-in rules shrink** as their thresholds are loosened: upwards for a ceiling, downwards
for the one minimum. -/
theorem shrinking_of_mem_builtinRules {d : RuleDefinition} (h : d ∈ builtinRules) :
    d.check.Shrinking := by
  cases isBuiltin_of_mem h with
  | maxIndentationDepth => exact shrinking_maxIndentationDepth
  | noElseBranch => exact shrinking_noElseBranch
  | wrapPrimitives => exact shrinking_wrapPrimitives
  | firstClassCollection => exact shrinking_firstClassCollection
  | maxCallChain => exact shrinking_maxCallChain
  | noAbbreviation => exact shrinking_noAbbreviation
  | maxClassSize => exact shrinking_maxClassSize
  | maxInstanceVariables => exact shrinking_maxInstanceVariables
  | noAccessorMethods => exact shrinking_noAccessorMethods
  | layeredDependency => exact shrinking_layeredDependency
  | maxInterfaceMethods => exact shrinking_maxInterfaceMethods
  | maxMethodSize => exact shrinking_maxMethodSize

end Builtin

end Conformance
