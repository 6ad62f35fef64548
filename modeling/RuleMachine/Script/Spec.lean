import RuleMachine.Script.Body
import RuleMachine.Script.Options
import RuleMachine.RuleSet.Compile
/-!
# Rule-sets written as JSON

A rule-set is written `{"id": id, "options"?: options, "decls"?: [decl, …]}`. The declarations
are handed to a `Builder` in order:

- `{"t": "doc", "doc": text}` leaves a doc for the next declaration;
- `{"t": "transition", "from"?, "on"?, "on_any"?: true, "body"?, "to_states"?, "doc"?}` declares
  a transition with the parts present (`on_any` wins over `on`);
- `{"t": "bypass", "on"?, "body"?, "doc"?}` declares a bypass;
- `{"t": "simple", "from", "on", "to"}` and `{"t": "guarded", "from", "on", "to", "guard"}`
  declare the two ready-made transitions.

A text part written `null` counts as missing. A `body` or `to_states` that is present must be
a body or a list of strings, `null` included; `decls`, when present, must be a list (a
missing one declares nothing), and a `guarded`
declaration needs its guard, which is read before the other parts.

Options, when the key is present, are read by `readOptions`; a refusal there is reported
apart from a malformed description (`SpecError.options`).
-/

namespace RuleMachine

namespace Script

/-- Why a written rule-set cannot be built. -/
inductive SpecError where
  /-- The description does not follow the language. -/
  | badInput (message : String)
  /-- The options cannot be read. -/
  | options (message : String)

/-- Reads an optional body member: present, it must be a body. -/
def readBodyMember (j : Json) : Except String (Option Body) :=
  match j.get? "body" with
  | some b => (readBody b).map some
  | none => .ok none

/-- Reads a list of state names. -/
def readNames : Json → Except String (List StateName)
  | .array xs => xs.mapM fun
    | .string s => .ok s
    | _ => .error "expected a string"
  | _ => .error "expected a list of strings"

/-- Reads one declaration into the builder. -/
def readDecl (b : Builder) (j : Json) : Except String Builder := do
  let t ← requireText j "t"
  if t = "doc" then
    let d ← requireText j "doc"
    pure (b.doc d)
  else if t = "transition" then
    let state ← optionalText j "from"
    let on ← optionalText j "on"
    let event : Option Event :=
      if j.get? "on_any" == some (.bool true) then some .any else on.map Event.named
    let body ← readBodyMember j
    let dests ← match j.get? "to_states" with
      | some d => (readNames d).map some
      | none => pure none
    let doc ← optionalText j "doc"
    pure (b.transition { state, event, body, destinations := dests, doc })
  else if t = "bypass" then
    let event ← optionalText j "on"
    let body ← readBodyMember j
    let doc ← optionalText j "doc"
    pure (b.bypass { event, body, doc })
  else if t = "simple" then
    let source ← requireText j "from"
    let event ← requireText j "on"
    let target ← requireText j "to"
    pure (b.declare (Declaration.simple source event target))
  else if t = "guarded" then
    let guard ← match j.get? "guard" with
      | some g => readCond g
      | none => .error "guarded needs guard"
    let source ← requireText j "from"
    let event ← requireText j "on"
    let target ← requireText j "to"
    pure (b.declare (Declaration.guarded source event target guard.eval))
  else .error ("unknown declaration '" ++ t ++ "'")

/-- Reads a written rule-set into a builder. -/
def readRuleSet (j : Json) : Except SpecError Builder := do
  let id ← match requireText j "id" with
    | .ok id => pure id
    | .error m => throw (.badInput m)
  let options ← match j.get? "options" with
    | some o => match readOptions o with
      | .ok o => pure o
      | .error m => throw (.options m)
    | none => pure {}
  let decls ← match j.get? "decls" with
    | some (.array ds) => pure ds
    | none => pure []
    | some _ => throw (.badInput "decls must be a list")
  match decls.foldlM readDecl ((Builder.new id).withOptions options) with
  | .ok b => pure b
  | .error m => throw (.badInput m)

/-- The compiled rule-set of a builder, with the notes of compiling it. -/
def compileNoted (b : Builder) : Except CompileError RuleSet × List Note :=
  (b.build, RuleSet.compileNotes b.id b.declarations b.options)

end Script

end RuleMachine
