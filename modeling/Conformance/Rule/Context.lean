import Conformance.Finding
import Conformance.Model.Element
import Conformance.Rule.Config

/-!
# The context of a check

A check sees the element it is called on, the unit, type and method that own it, and the
configuration of its rule. Through its context it makes findings at the element.
-/

set_option autoImplicit false

namespace Conformance

/-- Owners of an element, and the rule that is being checked. -/
structure Context where
  ruleId : String
  category : RuleCategory
  config : RuleConfig
  unit : SourceUnit
  type? : Option TypeDeclaration := none
  method? : Option Method := none

namespace Context

/-- Layer of the owning unit. -/
def layer (ctx : Context) : Option Layer := ctx.unit.layer

/-- The owning method, which parameters and statements need. -/
def owningMethod (ctx : Context) : Except Error Method :=
  match ctx.method? with
  | some m => .ok m
  | none => .error (.noOwningMethod ctx.ruleId)

/-- Where an element stands under this context. A parameter stands at its method. -/
def locationFor (ctx : Context) (element : Element) : Except Error Location :=
  let path := some ctx.unit.path
  let typeName := ctx.type?.map (·.qualifiedName)
  let at_ (line : Option Nat) : Option Int := line.map Int.ofNat
  match element with
  | .unit _ => Location.make path none none none none
  | .type t => Location.make path (some t.qualifiedName) none none (at_ t.line)
  | .field f => Location.make path typeName (some f.name) none (at_ f.line)
  | .method m => Location.make path typeName (some m.name) none (at_ m.line)
  | .parameter _ => do
    let m ← ctx.owningMethod
    Location.make path typeName (some m.name) none (at_ m.line)
  | .statement s => do
    let m ← ctx.owningMethod
    Location.make path typeName (some m.name) (some (s.position : Int)) (at_ s.line)

/-- The names that every call for a finding has for its own use. -/
def callNames : List String := ["self", "element", "message"]

/-- Details must not take a name that the call `call` has for its own use; the first that does is
the fault. -/
def checkDetails (call : String) (details : Payload) : Except Error Unit :=
  match details.find? fun d => callNames.contains d.1 with
  | some d => .error (.detailName call d.1)
  | none => .ok ()

/-- Details must not take one of the names under which the call `call` is given other values. -/
def checkGiven (call : String) (given : List String) (details : Payload) : Except Error Unit :=
  match details.find? fun d => given.contains d.1 with
  | some d => .error (.detailKeyword call d.1)
  | none => .ok ()

/-- A finding at the element, with the severity configured for the rule. -/
def finding (ctx : Context) (element : Element) (message : String) (payload : Payload) :
    Except Error Finding := do
  checkDetails "finding" payload
  let location ← ctx.locationFor element
  Finding.make ctx.ruleId ctx.config.severity location message ctx.category payload

/-- A finding if `measured` is above the threshold `option`, and nothing otherwise. -/
def exceeds (ctx : Context) (element : Element) (message : String) (measured : Int)
    (option : String) (extra : Payload) : Except Error (Option Finding) := do
  -- the names are looked at before the threshold is
  checkGiven "exceeds" ["measured", "option"] extra
  checkDetails "exceeds" extra
  let threshold ← ctx.config.threshold option
  if measured ≤ threshold then return none
  checkGiven "finding" ["threshold"] extra
  let f ← ctx.finding element
    (message ++ ": " ++ toString measured ++ " > " ++ toString threshold)
    ([("measured", .int measured), ("threshold", Value.ofNat threshold)] ++ extra)
  return some f

end Context

end Conformance
