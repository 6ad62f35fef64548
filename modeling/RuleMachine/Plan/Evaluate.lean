import RuleMachine.Value.Subject
import RuleMachine.Sorted
/-!
# Evaluating a plan

`Plan.evaluate` runs the steps of a plan in order, each over the outputs of the steps before
it, and gives every step's output by name. A step whose name already has an output stops
the run with `duplicateStep`; so does the first step that fails, and no later step runs. A
held value is its own output; a rename gives the value of its source in the new state, and
fails when the source has no output (`missingOutput`) or holds data (`notAState`); a run
step gives what its job gives (`Job.run`).

The final state of an evaluated plan is the value output by its `newState` step.
-/

namespace RuleMachine

/-- The outputs of the steps evaluated so far, by step name. -/
abbrev Outputs := List (String × Output)

namespace Job

/-- What a job gives, run as the step `self` over the outputs so far. -/
def run (job : Job) (self : String) (outs : Outputs) : Except PlanError Output :=
  match job with
  | .const v => .ok (.data v)
  | .copy d =>
    match SortedMap.get? d outs with
    | some o => .ok o
    | none => .error (.missingOutput self d)
  | .fail reason => .error (.stepFailed self reason)
  | .member d k =>
    match SortedMap.get? d outs with
    | some (.data v) => .ok (.data ((v.get? k).getD .null))
    | some (.state _) => .error (.stepFailed self ("'" ++ d ++ "' holds a state"))
    | none => .error (.missingOutput self d)
  | .stateOf d =>
    match SortedMap.get? d outs with
    | some (.state s) =>
      .ok (.data (match s.stateName with
        | .ok n => .string n
        | .error _ => .null))
    | some (.data _) => .error (.notAState self d)
    | none => .error (.missingOutput self d)
  | .names => .ok (.data (.array (outs.map fun p => .string p.1)))

end Job

namespace Step

/-- The output of a step named `name`, over the outputs so far. -/
def output (step : Step) (name : String) (outs : Outputs) : Except PlanError Output :=
  match step with
  | .value v => .ok v
  | .run job _ => job.run name outs
  | .rename source target =>
    match SortedMap.get? source outs with
    | none => .error (.missingOutput name source)
    | some (.data _) => .error (.notAState name source)
    | some (.state s) => .ok (.state (s.withStateName target))

end Step

namespace Plan

/-- Runs the steps in order over the outputs so far. -/
def evaluateFrom : List (String × Step) → Outputs → Except PlanError Outputs
  | [], outs => .ok outs
  | (name, step) :: rest, outs =>
    if SortedMap.contains name outs then .error (.duplicateStep name)
    else
      match step.output name outs with
      | .error e => .error e
      | .ok o => evaluateFrom rest (SortedMap.insert name o outs)

/-- The outputs of all steps, by name, or the error of the first step that fails. -/
def evaluate (p : Plan) : Except PlanError Outputs := evaluateFrom p.steps []

/-- The value output by the `newState` step. -/
def finalState (outs : Outputs) : Option Subject :=
  match SortedMap.get? newStateStep outs with
  | some (.state s) => some s
  | _ => none

end Plan

end RuleMachine
