import Conformance.Evaluation.Site

/-!
# Findings made through a context

A check makes its findings by calls to its context. Two facts about these calls carry the rest of
the theory. What a call returns is settled by the context: the rule, its severity and category,
and the path of the unit. And at the element that the context was set up for, a call does not
fail: the location exists because the owners are the right ones, and the names of the details are
free because the check chose them.
-/

set_option autoImplicit false

namespace Conformance

/-! ## The parts of a finding -/

/-- Whatever parts it is given, a location keeps its path. -/
theorem Location.path_of_make {path : SourcePath} {typeName memberName : Option String}
    {position line : Option Int} {l : Location}
    (h : Location.make (some path) typeName memberName position line = .ok l) :
    l.path = path := by
  unfold Location.make at h
  dsimp only at h
  split at h
  · cases position with
    | none =>
      dsimp only at h
      rw [← Except.ok.inj h]
    | some n =>
      dsimp only at h
      split at h
      · split at h
        · exact absurd h (by simp)
        · rw [← Except.ok.inj h]
      · exact absurd h (by simp)
  · exact absurd h (by simp)

namespace Context

/-- An element found under a context is found in the unit of the context. -/
theorem path_of_locationFor {ctx : Context} {element : Element} {l : Location}
    (h : ctx.locationFor element = .ok l) : l.path = ctx.unit.path := by
  unfold locationFor at h
  cases element with
  | unit u => exact Location.path_of_make h
  | type t => exact Location.path_of_make h
  | field f => exact Location.path_of_make h
  | method m => exact Location.path_of_make h
  | parameter p =>
    obtain ⟨m, -, hm⟩ := bind_ok_iff.mp h
    exact Location.path_of_make hm
  | statement s =>
    obtain ⟨m, -, hm⟩ := bind_ok_iff.mp h
    exact Location.path_of_make hm

/-- A finding made by a call: everything but message and payload comes from the context. -/
structure Signs (ctx : Context) (f : Finding) : Prop where
  ruleId : f.ruleId = ctx.ruleId
  severity : f.severity = ctx.config.severity
  category : f.category = ctx.category
  path : f.location.path = ctx.unit.path

/-- What the plain call returns, if it returns at all. -/
theorem eq_of_finding {ctx : Context} {element : Element} {message : String} {payload : Payload}
    {f : Finding} (h : ctx.finding element message payload = .ok f) :
    ∃ location, ctx.locationFor element = .ok location ∧
      f = ⟨ctx.ruleId, ctx.config.severity, location, message, ctx.category, payload⟩ := by
  unfold finding at h
  obtain ⟨-, -, hlocated⟩ := bind_ok_iff.mp h
  obtain ⟨location, hlocation, hmade⟩ := bind_ok_iff.mp hlocated
  unfold Finding.make at hmade
  split at hmade
  · exact absurd hmade (by simp)
  · split at hmade
    · exact absurd hmade (by simp)
    · exact ⟨location, hlocation, (Except.ok.inj hmade).symm⟩

theorem signs_of_finding {ctx : Context} {element : Element} {message : String}
    {payload : Payload} {f : Finding} (h : ctx.finding element message payload = .ok f) :
    ctx.Signs f := by
  obtain ⟨location, hlocation, rfl⟩ := eq_of_finding h
  exact ⟨rfl, rfl, rfl, path_of_locationFor hlocation⟩

/-- The measuring call makes a finding only above the threshold, and makes it by the plain call with
the two numbers in front of the other details. -/
theorem above_of_exceeds {ctx : Context} {element : Element} {message option : String}
    {measured : Int} {extra : Payload} {f : Finding}
    (h : ctx.exceeds element message measured option extra = .ok (some f)) :
    ∃ threshold : Nat, threshold < measured ∧ ∃ text, ctx.finding element text
      ([("measured", .int measured), ("threshold", Value.ofNat threshold)] ++ extra) = .ok f := by
  unfold exceeds at h
  obtain ⟨-, -, h⟩ := bind_ok_iff.mp h
  obtain ⟨-, -, h⟩ := bind_ok_iff.mp h
  obtain ⟨threshold, -, h⟩ := bind_ok_iff.mp h
  split at h
  · exact absurd h (by simp [pure, Except.pure])
  · rename_i hnotLe
    obtain ⟨-, -, h⟩ := bind_ok_iff.mp h
    obtain ⟨-, -, h⟩ := bind_ok_iff.mp h
    obtain ⟨made, hmade, h⟩ := bind_ok_iff.mp h
    obtain rfl : made = f := Option.some.inj (Except.ok.inj h)
    exact ⟨threshold, by omega, _, hmade⟩

/-- What a measurement above its threshold leads to is a finding made by the plain call. -/
theorem finding_of_exceeds {ctx : Context} {element : Element} {message option : String}
    {measured : Int} {extra : Payload} {f : Finding}
    (h : ctx.exceeds element message measured option extra = .ok (some f)) :
    ∃ text payload, ctx.finding element text payload = .ok f := by
  obtain ⟨threshold, -, text, hmade⟩ := above_of_exceeds h
  exact ⟨text, _, hmade⟩

/-- A finding that one of the two calls of a context made at an element. -/
inductive Makes (ctx : Context) (element : Element) (f : Finding) : Prop
  | finding (message : String) (payload : Payload)
      (h : ctx.finding element message payload = .ok f)
  | exceeds (message option : String) (measured : Int) (extra : Payload)
      (h : ctx.exceeds element message measured option extra = .ok (some f))

/-- Either call is in the end the plain one, so what holds of its findings holds of all. -/
theorem Makes.exists_finding {ctx : Context} {element : Element} {f : Finding}
    (h : ctx.Makes element f) : ∃ message payload, ctx.finding element message payload = .ok f := by
  cases h with
  | finding message payload h => exact ⟨message, payload, h⟩
  | exceeds message option measured extra h => exact finding_of_exceeds h

/-- So does every call, since all go through the plain one. -/
theorem Makes.signs {ctx : Context} {element : Element} {f : Finding} (h : ctx.Makes element f) :
    ctx.Signs f := by
  obtain ⟨message, payload, hmade⟩ := h.exists_finding
  exact signs_of_finding hmade

/-! ## Calls that do not fail -/

/-- None of the names is used for a detail. -/
def NamesFree (names : List String) (details : Payload) : Prop :=
  ∀ name ∈ keysOf details, name ∉ names

theorem NamesFree.mono {names fewer : List String} {details : Payload}
    (h : NamesFree names details) (hsub : fewer ⊆ names) : NamesFree fewer details :=
  fun name hname hmem => h name hname (hsub hmem)

theorem find?_eq_none_of_namesFree {names : List String} {details : Payload}
    (h : NamesFree names details) :
    (details.find? fun d => names.contains d.1) = none := by
  rw [List.find?_eq_none]
  intro d hd
  have hfree : d.1 ∉ names := h d.1 (List.mem_map.mpr ⟨d, hd, rfl⟩)
  simpa using hfree

/-- Details that keep clear of the names of a call are not refused. -/
theorem checkDetails_eq_ok {call : String} {details : Payload}
    (h : NamesFree callNames details) : checkDetails call details = .ok () := by
  unfold checkDetails
  rw [find?_eq_none_of_namesFree h]

/-- The same for the names under which a call is given other values. -/
theorem checkGiven_eq_ok {call : String} {given : List String} {details : Payload}
    (h : NamesFree given details) : checkGiven call given details = .ok () := by
  unfold checkGiven
  rw [find?_eq_none_of_namesFree h]

/-- A context that was set up for a site, for a rule that has a name. -/
structure At (ctx : Context) (site : Site) : Prop where
  type : ctx.type? = site.type?
  method : ctx.method? = site.method?
  ruleId : ctx.ruleId ≠ ""

/-- The finding at a site, signed by the context. -/
def signed (ctx : Context) (site : Site) (message : String) (payload : Payload) : Finding where
  ruleId := ctx.ruleId
  severity := ctx.config.severity
  location := site.location ctx.unit.path
  message := message
  category := ctx.category
  payload := payload

/-- **The plain call at its own element.** It makes the finding if there is something to say and
the details leave the names of the call alone. -/
theorem finding_eq_ok {ctx : Context} {site : Site} {message : String} {payload : Payload}
    (hat : ctx.At site) (hmessage : message ≠ "") (hfree : NamesFree callNames payload) :
    ctx.finding site.element message payload = .ok (ctx.signed site message payload) := by
  unfold finding
  rw [checkDetails_eq_ok hfree, Site.locationFor_eq hat.type hat.method]
  show Finding.make ctx.ruleId ctx.config.severity (site.location ctx.unit.path) message
    ctx.category payload = _
  unfold Finding.make
  rw [if_neg hat.ruleId, if_neg hmessage]
  rfl

/-- The details of a measurement above its threshold. -/
def measuredDetails (measured : Int) (threshold : Nat) (extra : Payload) : Payload :=
  [("measured", .int measured), ("threshold", Value.ofNat threshold)] ++ extra

/-- The two details that a measurement adds take none of the names of the call. -/
theorem namesFree_measuredDetails (measured : Int) (threshold : Nat) {extra : Payload}
    (h : NamesFree callNames extra) :
    NamesFree callNames (measuredDetails measured threshold extra) := by
  intro name hname
  have hcases : name = "measured" ∨ name = "threshold" ∨ name ∈ keysOf extra := by
    simpa [measuredDetails, keysOf] using hname
  rcases hcases with rfl | rfl | hextra
  · decide
  · decide
  · exact h name hextra

/-- **The measuring call at its own element.** It makes a finding exactly if the measurement is
above the threshold, and fails on nothing. -/
theorem exceeds_eq_ok {ctx : Context} {site : Site} {message option : String} {measured : Int}
    {threshold : Nat} {extra : Payload} (hat : ctx.At site)
    (hthreshold : ctx.config.threshold option = .ok threshold)
    (hfree : NamesFree ("measured" :: "option" :: "threshold" :: callNames) extra) :
    ctx.exceeds site.element message measured option extra =
      .ok (if measured ≤ threshold then none else
        some (ctx.signed site
          (message ++ ": " ++ toString measured ++ " > " ++ toString threshold)
          (measuredDetails measured threshold extra))) := by
  have hgiven : NamesFree ["measured", "option"] extra := hfree.mono (by simp)
  have hthresholdFree : NamesFree ["threshold"] extra := hfree.mono (by simp)
  have hcall : NamesFree callNames extra :=
    hfree.mono (fun name hname => by simp only [List.mem_cons, hname, or_true])
  unfold exceeds
  rw [checkGiven_eq_ok hgiven, checkDetails_eq_ok hcall, hthreshold]
  by_cases hle : measured ≤ threshold
  · rw [if_pos hle]
    show (if measured ≤ threshold then _ else _) = _
    rw [if_pos hle]
    rfl
  · -- above the threshold the plain call is made, with the two details in front
    rw [if_neg hle]
    show (if measured ≤ threshold then _ else _) = _
    rw [if_neg hle]
    show (do checkGiven "finding" ["threshold"] extra; _) = _
    rw [checkGiven_eq_ok hthresholdFree]
    show (do let f ← ctx.finding site.element _ (measuredDetails measured threshold extra); _) = _
    rw [finding_eq_ok hat (by simp) (namesFree_measuredDetails measured threshold hcall)]
    rfl

end Context

end Conformance
