import RuleMachine.Rule.Declaration
import RuleMachine.Sorted
/-!
# Where a body can lead

`Body.destinations` finds, without running a body, every state a reply of it can name: the
current state for `keep`, the named state for `next`, none for `error`, and for a branching
node the union over all of its arms. An opaque `native` handler cannot be looked into: at the
top of a body it is always reported (`unrecognizedBody`), and inside a branch it is reported
under the `reject` policy and skipped, leading nowhere, under `ignore`. All arms are walked
even after one fails, so every opaque arm is reported once, in the order of the tree.

`Body.skippedArms` counts the opaque arms skipped under `ignore`, one warning note each.
-/

namespace RuleMachine

/-- A fault of one declaration. -/
inductive DeclarationError where
  | missingState (site : String)
  | missingEvent (site : String)
  | missingBody (site : String)
  | emptyName (site : String)
  | unrecognizedBody (site : String)
  deriving DecidableEq, Repr

namespace DeclarationError

/-- Where in the rule-set the fault is. -/
def site : DeclarationError → String
  | .missingState s | .missingEvent s | .missingBody s | .emptyName s | .unrecognizedBody s => s

/-- The text of the fault. -/
def message : DeclarationError → String
  | .missingState s => s ++ ": transition has no source state. Call .from(state)"
  | .missingEvent s => s ++ ": declaration has no event. Call .on(event) or .on_any()"
  | .missingBody s => s ++ ": declaration has no body. Call .body(body)"
  | .emptyName s => s ++ ": state and event names must not be empty"
  | .unrecognizedBody s => s ++ ": body is not analyzable; annotate it with .to_states(...)"

end DeclarationError

/-- The result of a check that reports every fault it finds. -/
abbrev Checked (α : Type) := Except (List DeclarationError) α

namespace Checked

/-- Both results when both checks pass, else the faults of both, the first check's first. -/
def both {α β : Type} : Checked α → Checked β → Checked (α × β)
  | .ok a, .ok b => .ok (a, b)
  | .ok _, .error f => .error f
  | .error e, .ok _ => .error e
  | .error e, .error f => .error (e ++ f)

/-- The union of two sets of states, or the faults of both. -/
def union (a b : Checked (List StateName)) : Checked (List StateName) :=
  (both a b).map fun (x, y) => SortedSet.union x y

end Checked

namespace Body

mutual

/-- The states a body can lead to from `current`; `nested` says whether it is an arm of a
branching node. -/
def walk (policy : ArmPolicy) (site : String) (current : StateName) (nested : Bool) :
    Body → Checked (List StateName)
  | .keep _ => .ok [current]
  | .next n _ => .ok [n]
  | .error _ => .ok []
  | .branch _ yes no =>
    let first := walk policy site current true yes
    match no with
    | some b => Checked.union first (walk policy site current true b)
    | none => Checked.union first (.ok [])
  | .cond arms => walkCond policy site current arms
  | .select _ arms => walkSelect policy site current arms
  | .guard _ b => Checked.union (walk policy site current true b) (.ok [])
  | .native _ =>
    if nested && policy == .ignore then .ok [] else .error [.unrecognizedBody site]

/-- The union over the arms of a `cond`. -/
def walkCond (policy : ArmPolicy) (site : String) (current : StateName) :
    List ((Call → Bool) × Body) → Checked (List StateName)
  | [] => .ok []
  | (_, b) :: rest => Checked.union (walk policy site current true b) (walkCond policy site current rest)

/-- The union over the arms of a `select`. -/
def walkSelect (policy : ArmPolicy) (site : String) (current : StateName) :
    List (Pattern × Body) → Checked (List StateName)
  | [] => .ok []
  | (_, b) :: rest => Checked.union (walk policy site current true b) (walkSelect policy site current rest)

end

/-- The states a body can lead to from `current`, or every opaque arm that stops the
analysis, each reported at `site`. -/
def destinations (policy : ArmPolicy) (site : String) (current : StateName) (b : Body) :
    Checked (List StateName) :=
  walk policy site current false b

mutual

/-- The number of opaque handlers inside branches of the body. -/
def nestedNatives : Body → Nat
  | .keep _ | .next _ _ | .error _ | .native _ => 0
  | .branch _ yes no =>
    armNatives yes + (match no with
      | some b => armNatives b
      | none => 0)
  | .cond arms => condNatives arms
  | .select _ arms => selectNatives arms
  | .guard _ b => armNatives b

/-- The opaque handlers of an arm: the arm itself if it is one, and those inside it. -/
def armNatives : Body → Nat
  | .native _ => 1
  | b => nestedNatives b

/-- The opaque handlers of `cond` arms. -/
def condNatives : List ((Call → Bool) × Body) → Nat
  | [] => 0
  | (_, b) :: rest => armNatives b + condNatives rest

/-- The opaque handlers of `select` arms. -/
def selectNatives : List (Pattern × Body) → Nat
  | [] => 0
  | (_, b) :: rest => armNatives b + selectNatives rest

end

/-- The opaque arms the analysis skips: those inside branches under `ignore`, none under
`reject`. -/
def skippedArms (policy : ArmPolicy) (b : Body) : Nat :=
  if policy == .ignore then b.nestedNatives else 0

end Body

end RuleMachine
