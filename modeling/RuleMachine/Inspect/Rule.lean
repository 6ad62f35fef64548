import RuleMachine.Inspect.Basic
import RuleMachine.Dispatch.Handler
/-!
# Inspection text of rules

Bodies, compiled rule-sets and handlers as inspection text. A body shows its shape only, since
its conditions and updates are functions: `KeepState`, `NextState(StateName(..))`, `Error`,
`If { then: .., otherwise: Some(..) | None }`, a `cond` as the list of its arm bodies, a
`select` as the map from patterns (`Exact("..")` or `Wildcard`) to bodies, `And(..)`, and
`Native(<fn>)`. A rule-set shows its identifier, table, bypasses and states and leaves the rest
out.
-/

namespace RuleMachine

namespace Inspect

/-- A pattern of a `select` arm. -/
def pattern : Pattern → String
  | .exact k => tagged "Exact" [text k]
  | .wildcard => "Wildcard"

mutual

/-- A body. -/
def body : Body → String
  | .keep _ => "KeepState"
  | .next n _ => tagged "NextState" [stateName n]
  | .error _ => "Error"
  | .branch _ yes no =>
    struct "If" [("then", body yes), ("otherwise", match no with
      | some b => tagged "Some" [body b]
      | none => "None")]
  | .cond arms => list (condArms arms)
  | .select _ arms => map (selectArms arms)
  | .guard _ b => tagged "And" [body b]
  | .native _ => "Native(<fn>)"

/-- The bodies of `cond` arms. -/
def condArms : List ((Call → Bool) × Body) → List String
  | [] => []
  | (_, b) :: rest => body b :: condArms rest

/-- The arms of a `select`. -/
def selectArms : List (Pattern × Body) → List (String × String)
  | [] => []
  | (p, b) :: rest => (pattern p, body b) :: selectArms rest

end

/-- A table row. -/
def row (r : Row) : String :=
  struct "TransitionInfo" [("owner", ruleSetId r.owner), ("destinations", states r.destinations)]

/-- A compiled rule-set: identifier, table, bypasses and states. -/
def ruleSet (rs : RuleSet) : String :=
  structPart "RuleSet" [("id", ruleSetId rs.id),
    ("table", map (rs.table.map fun (k, r) => (pair (stateName k.state) (event k.event), row r))),
    ("bypasses", map (rs.bypasses.map fun (e, o) => (eventName e, ruleSetId o))),
    ("states", states rs.states)]

/-- A handler. -/
def handler : Handler → String
  | .transition o s e ds =>
    struct "Transition" [("owner", ruleSet o), ("state", stateName s), ("event", event e),
      ("destinations", states ds)]
  | .bypass o e => struct "Bypass" [("owner", ruleSet o), ("event", eventName e)]

end Inspect

end RuleMachine
