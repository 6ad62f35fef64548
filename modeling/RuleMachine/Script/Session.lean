import RuleMachine.Script.Values
import RuleMachine.Script.Encode
import RuleMachine.Inspect.Value
import RuleMachine.Inspect.Rule
import RuleMachine.History
import RuleMachine.Plan.Evaluate
/-!
# Scripted sessions

A session holds the compiled rule-sets, the kind of its records, a current value, the value it
started from, and a transition log. Each step of a script acts on it and is answered by a JSON
object; a step that cannot apply to the current value says so and changes nothing.

Dispatching steps (`dispatch`, `staged`) make the outcome the current value. A dispatch that
succeeds is also recorded in the log, from the state before to the state after; when one of
them cannot be read the answer says why under `log_error` and the log stays as it was. A handler
that breaks the reply contract is answered as such and leaves the current value unchanged.

The other steps ask about the current value (its state, kind, available actions, handler, merged
table, plan steps, inspection text), change it directly (`with_state`, `set`, `change`,
`add_error`, `apply`, `stage`), evaluate it as a plan, or compare it with a written value or
the value the session started from.
-/

namespace RuleMachine

namespace Script

/-- The state of a scripted session. -/
structure Session where
  catalog : Catalog
  workshop : Workshop
  current : Subject
  initial : Subject
  log : TransitionLog

/-- An answer made of members. -/
def answerOf (members : List (String × Json)) : Json := Json.obj members

/-- The answer to a refused dispatch. -/
def dispatchErrorJson (e : DispatchError) : Json :=
  answerOf [("error", .string "DispatchError"), ("code", .string e.code), ("message", .string e.message)]

/-- The answer to a broken reply contract. -/
def violationJson (v : Violation) : Json :=
  answerOf [("error", .string "ConsistencyViolation"), ("message", .string v.message)]

/-- The answer to a step that does not fit the kind of value. -/
def misfit (error : String) (v : Subject) : Json :=
  answerOf [("error", .string error), ("message", .string v.variant)]

/-- The answer to a state that cannot be read, as a refused dispatch. -/
def unreadableJson (e : AccessError) : Json := dispatchErrorJson (.unreadable e)

/-- The report of a value, extended by more members. -/
def valueAnswerWith (v : Subject) (more : List (String × Json)) : Json :=
  .object (more.foldl (fun ms (k, j) => Json.Members.insert k j ms) (valueAnswer v))

/-- The report of a handler. -/
def handlerJson : Handler → Json
  | h@(.transition o s e ds) =>
    answerOf [("kind", .string "transition"), ("display", .string h.display), ("owner", .string o.id),
      ("doc", optText h.doc?), ("doc_key", h.docKey.toJson), ("event", e.toJson),
      ("state", .string s), ("destinations", Json.strings ds)]
  | h@(.bypass o e) =>
    answerOf [("kind", .string "bypass"), ("display", .string h.display), ("owner", .string o.id),
      ("doc", optText h.doc?), ("doc_key", h.docKey.toJson), ("event", .string e)]
where
  optText : Option String → Json
    | some t => .string t
    | none => .null

/-- The report of a merged table, with the events at a state when it can be read. -/
def mergedJson (m : Merged) (state : Except AccessError StateName) : Json :=
  answerOf [("len", Json.nat m.length), ("is_empty", .bool (m.length == 0)), ("table", tableJson m.table),
    ("bypasses", nameMapJson m.bypassMap), ("graph", graphJson m.graph),
    ("events_at", match state with
      | .ok s => .array ((m.eventsAt s).map Event.toJson)
      | .error _ => .null)]

/-- The report of evaluated outputs. -/
def outputsJson (outs : Outputs) : Json := .object (outs.map fun (n, o) => (n, outputJson o))

namespace Session

/-- The parameters of a dispatching step: `{}` when it gives none. -/
def stepParams (step : Json) : Json := (step.get? "params").getD (.object [])

/-- The written value a step needs under `value`. -/
def stepValue (step : Json) (what : String) : Except String Json :=
  match step.get? "value" with
  | some v => .ok v
  | none => .error (what ++ " needs value")

/-- Builds a written value, using fresh stamps. -/
def build (s : Session) (j : Json) : Except String (Subject × Session) :=
  (readValue s.workshop j).map fun (v, w) => (v, { s with workshop := w })

/-- The answer to a dispatch outcome that made `next` from the current value, with the log
entry it adds. -/
def afterDispatch (s : Session) (event : EventName) (next : Subject) : Json × Session :=
  match s.log.recordDispatch event s.current next Instant.epoch with
  | .ok log => (.object (valueAnswer next), { s with current := next, log })
  | .error e =>
    (valueAnswerWith next [("log_error", .string e.message)], { s with current := next })

/-- Runs one step: its answer, its notes, and the session after it. -/
def step (s : Session) (st : Json) : Except String (Json × List Note × Session) := do
  let what ← requireText st "do"
  let cat := s.catalog
  let v := s.current
  let quiet (j : Json) : Except String (Json × List Note × Session) := pure (j, [], s)
  if what = "dispatch" then
    let event ← requireText st "event"
    let (outcome, notes) := dispatchNoted cat v event (stepParams st)
    match outcome with
    | .ok next =>
      let (j, s') := s.afterDispatch event next
      pure (j, notes, s')
    | .refused e => pure (dispatchErrorJson e, notes, s)
    | .broken viol => pure (violationJson viol, notes, s)
  else if what = "staged" then
    let event ← requireText st "event"
    match v with
    | .changeset c =>
      let (outcome, notes) := dispatchStagedNoted cat c event (stepParams st)
      match outcome with
      | .ok next => pure (.object (valueAnswer next), notes, { s with current := next })
      | .refused e => pure (dispatchErrorJson e, notes, s)
      | .broken viol => pure (violationJson viol, notes, s)
    | other => quiet (misfit "NotAChangeset" other)
  else if what = "actions" then
    match v.availableActions cat with
    | .ok acts => quiet (answerOf [("ok", .array (acts.map Event.toJson))])
    | .error e => quiet (unreadableJson e)
  else if what = "available" then
    let event ← requireText st "event"
    match v.actionAvailable cat event with
    | .ok b => quiet (answerOf [("ok", .bool b)])
    | .error e => quiet (unreadableJson e)
  else if what = "describe" then
    let event ← requireText st "event"
    match v.describe cat event with
    | .ok d => quiet (answerOf [("ok", match d with
        | some t => .string t
        | none => .null)])
    | .error e => quiet (unreadableJson e)
  else if what = "resolve" then
    let event ← requireText st "event"
    match v.resolve cat event with
    | .ok h => quiet (answerOf [("ok", match h with
        | some h => handlerJson h
        | none => .null)])
    | .error e => quiet (unreadableJson e)
  else if what = "debug_handler" then
    let event ← requireText st "event"
    match v.resolve cat event with
    | .ok h => quiet (answerOf [("ok", match h with
        | some h => .string (Inspect.handler h)
        | none => .null)])
    | .error e => quiet (unreadableJson e)
  else if what = "state" then
    quiet (answerOf [("ok", stateJson v.stateName)])
  else if what = "variant" then
    quiet (answerOf [("ok", answerOf [("variant", .string v.variant),
      ("rule_sets", Json.strings (v.ruleSets.map (·.id)))])])
  else if what = "with_state" then
    let name ← requireText st "name"
    let next := v.withStateName name
    pure (.object (valueAnswer next), [], { s with current := next })
  else if what = "set" then
    let (next, s) ← s.build (← stepValue st what)
    pure (.object (valueAnswer next), [], { s with current := next })
  else if what = "change" ∨ what = "add_error" ∨ what = "apply" then
    match v with
    | .changeset c => do
      let next ← if what = "change" then do
          let f ← requireText st "field"
          pure (Subject.changeset (c.change f ((st.get? "value").getD .null)))
        else if what = "add_error" then do
          let f ← requireText st "field"
          let m ← requireText st "message"
          pure (Subject.changeset (c.addError f m))
        else pure (Subject.record c.apply)
      let more := match next with
        | .changeset c' => [("valid", Json.bool c'.isValid)]
        | _ => []
      pure (valueAnswerWith next more, [], { s with current := next })
    | other => quiet (misfit "NotAChangeset" other)
  else if what = "stage" then
    match v with
    | .record r =>
      let next := Subject.changeset (Changeset.ofRecord r)
      pure (.object (valueAnswer next), [], { s with current := next })
    | other => quiet (misfit "NotARecord" other)
  else if what = "evaluate" then
    match v with
    | .plan steps =>
      match (Plan.mk steps).evaluate with
      | .ok outs =>
        quiet (answerOf [("ok", answerOf [("outputs", outputsJson outs),
          ("final", match Plan.finalState outs with
            | some f => answerOf [("value", valueJson f), ("state", stateJson f.stateName)]
            | none => .null)])])
      | .error e => quiet (answerOf [("error", .string "PlanError"), ("message", .string e.message)])
    | other => quiet (misfit "NotAPlan" other)
  else if what = "merged" then
    quiet (answerOf [("ok", mergedJson (v.merged cat) v.stateName)])
  else if what = "reachable" then
    let start ← requireText st "from"
    quiet (answerOf [("ok", Json.strings ((v.merged cat).reachableFrom start))])
  else if what = "records" then
    quiet (answerOf [("ok", .array (s.log.records.map fun r =>
      answerOf [("from", .string r.source), ("to", .string r.target), ("event", .string r.event)]))])
  else if what = "path" then
    quiet (answerOf [("ok", Json.strings s.log.path)])
  else if what = "equals" then
    let (other, s) ← s.build (← stepValue st what)
    pure (answerOf [("ok", .bool (v.beq other))], [], s)
  else if what = "same_as_initial" then
    quiet (answerOf [("ok", .bool (v.beq s.initial))])
  else if what = "kind" then
    let kind? : Option RecordKind := match v with
      | .record r => some r.kind
      | .changeset c => some c.data.kind
      | .plan _ => none
    match kind? with
    | some k =>
      quiet (answerOf [("ok", answerOf [("name", .string k.name), ("state_field", .string k.stateField),
        ("rule_sets", Json.strings (k.ruleSets.map (·.id))), ("debug", .string (Inspect.kind k)),
        ("same_as_session_kind", .bool (k == s.workshop.kind))])])
    | none => quiet (answerOf [("ok", .null)])
  else if what = "plan_info" then
    let name := textOr st "name" ""
    match v with
    | .plan steps =>
      let p := Plan.mk steps
      quiet (answerOf [("ok", answerOf [("len", Json.nat p.length), ("is_empty", .bool p.steps.isEmpty),
        ("contains", .bool (p.contains name)),
        ("step", match p.step? name with
          | some st => .string (Inspect.step st)
          | none => .null),
        ("has_input", .bool p.input?.isSome), ("debug", .string (Inspect.plan p))])])
    | other => quiet (misfit "NotAPlan" other)
  else if what = "debug" then
    quiet (answerOf [("ok", .string (Inspect.subject v))])
  else throw ("unknown step '" ++ what ++ "'")

/-- The answer to a step, its notes, and the session after it: a step that cannot be read is
answered as bad input and leaves the session as it was. -/
def answerStep (s : Session) (j : Json) : Json × List Note × Session :=
  match s.step j with
  | .ok r => r
  | .error m => (answerOf [("error", .string "BadInput"), ("message", .string m)], [], s)

/-- Runs the steps in order; each answer carries its notes when `logs` is set. -/
def runSteps (logs : Bool) : Session → List Json → List Json
  | _, [] => []
  | s, j :: js =>
    let (answer, notes, s') := s.answerStep j
    let answer := if logs then
        match answer with
        | .object ms => .object (Json.Members.insert "logs" (Json.strings (notes.map Note.line)) ms)
        | other => other
      else answer
    answer :: runSteps logs s' js

end Session

end Script

end RuleMachine
