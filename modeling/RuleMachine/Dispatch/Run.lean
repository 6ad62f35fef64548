import RuleMachine.Dispatch.Handler
import RuleMachine.Plan.Adapt
import RuleMachine.Json.Print
import RuleMachine.Note
/-!
# Dispatching an event

`dispatch` answers an event on a value. The rule-sets of the value are merged, the handler is
resolved for the value's state, its body is evaluated on the call, and the reply decides the
outcome:

- a changeset with errors is handed back unchanged, before anything else is looked at;
- a state that cannot be read, an event without a handler, and a refusing reply are refused
  (`DispatchError`);
- `keep` gives its value, which must still be in the state it was dispatched in: a value it
  can be read from in another state breaks the reply contract;
- `next` with a plan gives the plan composed with the value (`Plan.adapt`), and with any other
  value gives that value moved to the named state;
- no reply at all breaks the reply contract.

A broken contract is a fault of the handler, not of the call: it is its own outcome
(`Outcome.broken`), never a refusal. Transition handlers see the event in the call; bypass
handlers do not.
-/

namespace RuleMachine

/-- Why a dispatch was refused. -/
inductive DispatchError where
  | illegalAction (state : StateName) (event : EventName)
  | refused (reason : Json)
  | unreadable (error : AccessError)
  | planConflict (error : PlanError)

namespace DispatchError

/-- The text of a refusal. -/
def message : DispatchError → String
  | .illegalAction s e => "illegal action '" ++ e ++ "' in state '" ++ s ++ "'"
  | .refused reason => "handler refused: " ++ reason.render
  | .unreadable e => "cannot read state: " ++ e.message
  | .planConflict e => "cannot compose plan: " ++ e.message

/-- The short code of a refusal. -/
def code : DispatchError → String
  | .illegalAction _ _ => "illegal_action"
  | .refused _ => "handler_error"
  | .unreadable _ => "state_unreadable"
  | .planConflict _ => "plan_conflict"

end DispatchError

/-- A handler that broke the reply contract: which, where, on what, and how. -/
structure Violation where
  handler : String
  state : StateName
  action : EventName
  detail : String
  deriving DecidableEq, Repr

/-- The text of a broken contract. -/
def Violation.message (v : Violation) : String :=
  "handler " ++ v.handler ++ " broke the reply contract in state '" ++ v.state ++ "' on action '"
    ++ v.action ++ "': " ++ v.detail

/-- How a dispatch ends. -/
inductive Outcome where
  | ok (value : Subject)
  | refused (error : DispatchError)
  | broken (violation : Violation)

namespace Subject

/-- The merged table of the rule-sets that govern a value. -/
def merged (cat : Catalog) (v : Subject) : Merged := Merged.ofRuleSets (cat.resolve v.ruleSets)

/-- The handler of an event in the value's current state. -/
def resolve (cat : Catalog) (v : Subject) (event : EventName) : Except AccessError (Option Handler) :=
  v.stateName.map fun s => (v.merged cat).resolve s event

end Subject

/-- The outcome of a reply of `handler`, dispatched as `event` on `value` in `state`, with
the notes it leaves. -/
def Reply.settle (value : Subject) (state : StateName) (event : EventName) (handler : Handler) :
    Option Reply → Outcome × List Note
  | some (.keep kept) =>
    match kept.stateName with
    | .ok now =>
      if now ≠ state then
        let v : Violation := ⟨handler.display, state, event, "keep_state moved the value to '" ++ now ++ "'"⟩
        (.broken v, [⟨.error, v.message⟩])
      else (.ok kept, [])
    | .error _ => (.ok kept, [])
  | some (.next name (.plan steps)) =>
    match Plan.adapt value ⟨steps⟩ name with
    | .ok q => (.ok (Subject.ofPlan q), [])
    | .error e => (.refused (.planConflict e), [])
  | some (.next name moved) => (.ok (moved.withStateName name), [])
  | some (.refuse reason) =>
    (.refused (.refused reason),
      [⟨.debug, handler.display ++ " refused '" ++ event ++ "': " ++ reason.render⟩])
  | none =>
    let v : Violation := ⟨handler.display, state, event, "no reply produced"⟩
    (.broken v, [⟨.error, v.message⟩])

/-- Dispatches an event with parameters on a value: the outcome and the notes it leaves. -/
def dispatchNoted (cat : Catalog) (value : Subject) (event : EventName) (params : Json) :
    Outcome × List Note :=
  if value.isInvalidChangeset then
    (.ok value, [⟨.debug, "skipping '" ++ event ++ "' on invalid changeset"⟩])
  else
    match value.stateName with
    | .error e => (.refused (.unreadable e), [])
    | .ok state =>
      match (value.merged cat).resolve state event with
      | none =>
        (.refused (.illegalAction state event),
          [⟨.warn, "illegal action '" ++ event ++ "' in state '" ++ state ++ "'"⟩])
      | some handler =>
        let call : Call :=
          { event := if handler.isTransition then some event else none, params, subject := value }
        let reply := handler.body?.bind fun b => b.eval call
        let (outcome, notes) := Reply.settle value state event handler reply
        (outcome, ⟨.debug, "'" ++ event ++ "' in state '" ++ state ++ "' handled by " ++ handler.display⟩ :: notes)

/-- Dispatches an event with parameters on a value. -/
def dispatch (cat : Catalog) (value : Subject) (event : EventName) (params : Json) : Outcome :=
  (dispatchNoted cat value event params).1

/-- Dispatches on a changeset and keeps a refusal as an error on its state field. -/
def dispatchStagedNoted (cat : Catalog) (c : Changeset) (event : EventName) (params : Json) :
    Outcome × List Note :=
  let (outcome, notes) := dispatchNoted cat (.changeset c) event params
  match outcome with
  | .refused e => (.ok (.changeset (c.addError c.data.kind.stateField e.message)), notes)
  | other => (other, notes)

namespace Subject

/-- The events the value can take in its state: the events of its state's transitions in
order (named ones by name, then the wildcard), then the bypass events not already listed. -/
def availableActions (cat : Catalog) (v : Subject) : Except AccessError (List Event) :=
  v.stateName.map fun s =>
    let m := v.merged cat
    (m.eventsAt s ++ (m.bypassEvents.map Event.named)).foldl
      (fun acc e => if acc.contains e then acc else acc ++ [e]) []

/-- Whether the value can take the event: its state has a wildcard transition, or the event
is among its actions. -/
def actionAvailable (cat : Catalog) (v : Subject) (event : EventName) : Except AccessError Bool :=
  (v.availableActions cat).map fun acts => acts.contains .any || acts.contains (.named event)

/-- The doc of the handler of the event, if it has one. -/
def describe (cat : Catalog) (v : Subject) (event : EventName) : Except AccessError (Option String) :=
  (v.resolve cat event).map fun h => h.bind Handler.doc?

end Subject

end RuleMachine
