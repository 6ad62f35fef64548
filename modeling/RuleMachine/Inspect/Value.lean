import RuleMachine.Inspect.Basic
import RuleMachine.Value.Subject
/-!
# Inspection text of values

Records, changesets and plans as inspection text. A kind shows its name, its state field and
the identifiers of its rule-sets; a record its kind and fields; a changeset its record, staged
values and errors; a plan its steps as (name, step) pairs. A held value shows as
`Value(State(..))` or `Value(Data(..))`, a run step as `Run(<fn>)`, a rename as
`SetStateName { source: .., name: .. }`.
-/

namespace RuleMachine

namespace Inspect

/-- A record kind. -/
def kind (k : RecordKind) : String :=
  struct "RecordKind" [("name", text k.name), ("state_field", text k.stateField),
    ("rule_sets", list (k.ruleSets.map fun r => ruleSetId r.id))]

/-- A record. -/
def record (r : Record) : String :=
  struct "Record" [("kind", kind r.kind), ("fields", fields r.fields)]

/-- A field error. -/
def fieldError (e : FieldError) : String :=
  struct "FieldError" [("field", text e.field), ("message", text e.message)]

/-- A changeset. -/
def changeset (c : Changeset) : String :=
  struct "Changeset" [("data", record c.data), ("changes", fields c.changes),
    ("errors", list (c.errors.map fieldError))]

mutual

/-- A value that carries a state. -/
def subject : Subject → String
  | .record r => tagged "Record" [record r]
  | .changeset c => tagged "Changeset" [changeset c]
  | .plan steps => tagged "Plan" [struct "Plan" [("steps", list (planSteps steps))]]

/-- The steps of a plan, as pairs. -/
def planSteps : List (String × Step) → List String
  | [] => []
  | (n, s) :: rest => pair (text n) (step s) :: planSteps rest

/-- A plan step. -/
def step : Step → String
  | .value o => tagged "Value" [output o]
  | .run _ _ => "Run(<fn>)"
  | .rename source target => struct "SetStateName" [("source", text source), ("name", stateName target)]

/-- A step output. -/
def output : Output → String
  | .state s => tagged "State" [subject s]
  | .data j => tagged "Data" [json j]

end

/-- A plan. -/
def plan (p : Plan) : String := struct "Plan" [("steps", list (planSteps p.steps))]

end Inspect

end RuleMachine
