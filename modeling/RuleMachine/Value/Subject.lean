import RuleMachine.Value.Changeset
/-!
# Values that carry a state

A `Subject` is what the machine dispatches on: a record, a changeset, or a plan. All three
answer the same three questions: which rule-sets govern them, which state they are in, and
what they look like in another state.

A plan is a list of named steps (`Plan`). A step holds a value (`Output`: a state-bearing
value or plain JSON data), runs a job over the outputs of the steps before it (`Job`), or
renames the state of an earlier step's value. The state of a plan is the state of its input:
the value held by its first step named `input`, when that step holds a state-bearing value.
Moving a plan to another state does not touch the input; it replaces the plan's `newState`
steps by one final step that renames the input.

A run step carries the job and, for steps made from a written description, a stamp that
tells one made step from another: two run steps are the same step only when they carry the
same stamp. Steps made while a handler runs carry none and equal no other step.
-/

namespace RuleMachine

/-- The work of a run step, over the outputs of the steps before it. -/
inductive Job where
  /-- Gives the JSON value as data. -/
  | const (value : Json)
  /-- Gives the output of the named step. -/
  | copy (source : String)
  /-- Fails with the reason. -/
  | fail (reason : String)
  /-- Gives the member `key` of the data of the named step, `null` when it has none. -/
  | member (source key : String)
  /-- Gives the state name of the value of the named step, `null` when it cannot be read. -/
  | stateOf (source : String)
  /-- Gives the names of the outputs so far, sorted. -/
  | names
  deriving Inhabited

mutual

/-- A value that carries a state. -/
inductive Subject where
  | record (r : Record)
  | changeset (c : Changeset)
  | plan (steps : List (String × Step))

/-- One step of a plan. -/
inductive Step where
  /-- Holds a value. -/
  | value (v : Output)
  /-- Runs a job; `stamp` tells this step from every other run step. -/
  | run (job : Job) (stamp : Option Nat)
  /-- The value of the step named `source`, moved to the state `target`. -/
  | rename (source : String) (target : StateName)

/-- What a step gives: a state-bearing value or JSON data. -/
inductive Output where
  | state (s : Subject)
  | data (j : Json)

end

instance : Inhabited Subject := ⟨.plan []⟩

/-- The names that plans give their first and last steps. -/
def inputStep : String := "input"

/-- The name of the step that moves a plan to its new state. -/
def newStateStep : String := "newState"

/-- Why a plan cannot be built or evaluated. -/
inductive PlanError where
  | duplicateStep (name : String)
  | missingOutput (step dependency : String)
  | notAState (step dependency : String)
  | stepFailed (step reason : String)
  deriving DecidableEq, Repr

/-- The text of a plan error. -/
def PlanError.message : PlanError → String
  | .duplicateStep n => "plan already has a step named '" ++ n ++ "'"
  | .missingOutput s d => "step '" ++ s ++ "' depends on '" ++ d ++ "', which has no output"
  | .notAState s d => "step '" ++ s ++ "' expected a state-bearing value from '" ++ d ++ "'"
  | .stepFailed s r => "step '" ++ s ++ "' failed: " ++ r

/-- A plan: named steps in order. -/
structure Plan where
  steps : List (String × Step)
  deriving Inhabited

namespace Plan

/-- The plan with no step. -/
def empty : Plan := ⟨[]⟩

/-- The number of steps. -/
def length (p : Plan) : Nat := p.steps.length

/-- Whether some step has the name. -/
def contains (p : Plan) (name : String) : Bool := p.steps.any (·.1 == name)

/-- The first step with the name. -/
def step? (p : Plan) (name : String) : Option Step := (p.steps.find? (·.1 == name)).map (·.2)

/-- The plan with a step added at the end. -/
def push (p : Plan) (name : String) (step : Step) : Plan := ⟨p.steps ++ [(name, step)]⟩

/-- The plan without any step of the name. -/
def without (p : Plan) (name : String) : Plan := ⟨p.steps.filter (·.1 != name)⟩

/-- The steps of `q` added after those of `p`, one by one; a step whose name is already
there stops it with `duplicateStep`. -/
def append (p q : Plan) : Except PlanError Plan :=
  q.steps.foldlM (fun acc (name, step) =>
    if acc.contains name then .error (.duplicateStep name) else .ok (acc.push name step)) p

/-- The input of the plan: the value of its first `input` step, when that step holds a
state-bearing value. -/
def input? (p : Plan) : Option Subject :=
  match p.step? inputStep with
  | some (.value (.state s)) => some s
  | _ => none

/-- The plan moved to a state: its `newState` steps replaced by one last step that renames
the input. -/
def withStateName (p : Plan) (name : StateName) : Plan :=
  (p.without newStateStep).push newStateStep (.rename inputStep name)

end Plan

mutual

/-- The rule-sets that govern a value: the record's kind's, and for a plan its input's
(none without an input). -/
def Subject.ruleSets : Subject → List RuleSetRef
  | .record r => r.ruleSets
  | .changeset c => c.ruleSets
  | .plan steps => Subject.inputRuleSets steps

/-- The rule-sets of the first `input` step's value. -/
def Subject.inputRuleSets : List (String × Step) → List RuleSetRef
  | [] => []
  | (name, step) :: rest =>
    if name = inputStep then Step.heldRuleSets step else Subject.inputRuleSets rest

/-- The rule-sets of a step's held value. -/
def Step.heldRuleSets : Step → List RuleSetRef
  | .value o => Output.heldRuleSets o
  | _ => []

/-- The rule-sets of an output's value. -/
def Output.heldRuleSets : Output → List RuleSetRef
  | .state s => s.ruleSets
  | .data _ => []

end

mutual

/-- The state of a value: a record's state field, a changeset's staged or recorded state,
a plan's input's state. -/
def Subject.stateName : Subject → Except AccessError StateName
  | .record r => r.stateName
  | .changeset c => c.stateName
  | .plan steps => Subject.inputStateName steps

/-- The state of the first `input` step's value. -/
def Subject.inputStateName : List (String × Step) → Except AccessError StateName
  | [] => .error (.noInputStep inputStep)
  | (name, step) :: rest =>
    if name = inputStep then Step.heldStateName step else Subject.inputStateName rest

/-- The state of a step's held value. -/
def Step.heldStateName : Step → Except AccessError StateName
  | .value o => Output.heldStateName o
  | _ => .error (.noInputStep inputStep)

/-- The state of an output's value. -/
def Output.heldStateName : Output → Except AccessError StateName
  | .state s => s.stateName
  | .data _ => .error (.noInputStep inputStep)

end

namespace Subject

/-- A plan as a value. -/
def ofPlan (p : Plan) : Subject := .plan p.steps

/-- The value in another state: a record's state field set, a changeset's state field
staged, a plan ended by a rename of its input. -/
def withStateName (s : Subject) (name : StateName) : Subject :=
  match s with
  | .record r => .record (r.withStateName name)
  | .changeset c => .changeset (c.withStateName name)
  | .plan steps => ofPlan ((Plan.mk steps).withStateName name)

/-- The word for the kind of value. -/
def variant : Subject → String
  | .record _ => "record"
  | .changeset _ => "changeset"
  | .plan _ => "plan"

/-- Whether the value is a changeset with errors. -/
def isInvalidChangeset : Subject → Bool
  | .changeset c => !c.isValid
  | _ => false

end Subject

mutual

/-- Equality of values: same kind of value and equal parts. -/
def Subject.beq : Subject → Subject → Bool
  | .record a, .record b => a.beq b
  | .changeset a, .changeset b => a.beq b
  | .plan a, .plan b => Subject.beqSteps a b
  | _, _ => false

/-- Equality of step lists: the same names in order and equal steps. -/
def Subject.beqSteps : List (String × Step) → List (String × Step) → Bool
  | [], [] => true
  | (n, a) :: as, (m, b) :: bs => n == m && Step.beq a b && Subject.beqSteps as bs
  | _, _ => false

/-- Equality of steps: held values by value, renames by source and target, run steps only
when they carry one stamp. -/
def Step.beq : Step → Step → Bool
  | .value a, .value b => Output.beq a b
  | .run _ (some i), .run _ (some j) => i == j
  | .rename s t, .rename s' t' => s == s' && t == t'
  | _, _ => false

/-- Equality of outputs. -/
def Output.beq : Output → Output → Bool
  | .state a, .state b => Subject.beq a b
  | .data a, .data b => Json.beq a b
  | _, _ => false

end

end RuleMachine
