import RuleMachine.Value.Subject
/-!
# Composing a handler's plan with the value it ran on

A handler that moves a value to a new state may answer with a plan instead of a value.
`Plan.adapt` turns that plan into one that ends in the new state. A plan that has its own
input only gets the final rename (`Plan.withStateName`). Otherwise the plan is put between a
head and a tail: the head is the value itself as the `input` step, or, when the value is a
plan, that plan without its `newState` steps; the tail is the `newState` step renaming the
input to the target. Joining them fails with `duplicateStep` when a name would repeat.
-/

namespace RuleMachine

namespace Plan

/-- The plan a value answers with when a handler moving it to `target` returned `returned`. -/
def adapt (value : Subject) (returned : Plan) (target : StateName) : Except PlanError Plan :=
  if returned.input?.isSome then .ok (returned.withStateName target)
  else
    let head := match value with
      | .plan steps => (Plan.mk steps).without newStateStep
      | other => Plan.empty.push inputStep (.value (.state other))
    let tail := Plan.empty.push newStateStep (.rename inputStep target)
    match head.append returned with
    | .error e => .error e
    | .ok joined => joined.append tail

end Plan

end RuleMachine
