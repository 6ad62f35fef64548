import RuleMachine.Rule.Body
/-!
# Declarations

A rule-set is declared as a list of declarations. A transition declaration says which state
it leaves, which event it listens for, its body, optionally the states it can lead to (which
then replace the analysis of the body), and optionally a doc. A bypass declaration listens
for an event in every state. Every part may be missing: the compiler reports what is.

A `Builder` collects declarations in order. A doc given to the builder waits for the next
declaration: that declaration takes it unless it has a doc of its own, and either way the
waiting doc is used up.
-/

namespace RuleMachine

/-- A transition declaration; every part is optional until compiled. -/
structure TransitionDecl where
  state : Option StateName := none
  event : Option Event := none
  body : Option Body := none
  destinations : Option (List StateName) := none
  doc : Option String := none
  deriving Inhabited

/-- A bypass declaration. -/
structure BypassDecl where
  event : Option EventName := none
  body : Option Body := none
  doc : Option String := none
  deriving Inhabited

/-- A declaration of a rule-set. -/
inductive Declaration where
  | transition (d : TransitionDecl)
  | bypass (d : BypassDecl)
  deriving Inhabited

namespace Declaration

/-- The doc of a declaration. -/
def doc? : Declaration → Option String
  | .transition d => d.doc
  | .bypass d => d.doc

/-- The declaration with a doc. -/
def withDoc (doc : String) : Declaration → Declaration
  | .transition d => .transition { d with doc := some doc }
  | .bypass d => .bypass { d with doc := some doc }

/-- A transition from `source` on `event` straight to `target`. -/
def simple (source : StateName) (event : EventName) (target : StateName) : Declaration :=
  .transition { state := some source, event := some (.named event), body := some (.next target none) }

/-- The reason a guarded transition gives when its guard fails. -/
def guardRejected : Json := .string "guard rejected transition"

/-- A transition from `source` on `event` to `target` when the guard holds, and a refusal
with `guardRejected` otherwise. -/
def guarded (source : StateName) (event : EventName) (target : StateName) (guard : Call → Bool) :
    Declaration :=
  .transition { state := some source, event := some (.named event),
                body := some (.branch guard (.next target none) (some (Body.refuse guardRejected))) }

end Declaration

/-- How a compiler treats an opaque handler inside a branch of a body. -/
inductive ArmPolicy where
  /-- Report it as a body that cannot be analysed. -/
  | reject
  /-- Skip it: it leads nowhere the table records. -/
  | ignore
  deriving DecidableEq, Repr, Inhabited

/-- Options of the compiler. -/
structure CompileOptions where
  unrecognizedArms : ArmPolicy := .reject
  deriving DecidableEq, Repr, Inhabited

/-- Declarations being collected, with the doc waiting for the next one. -/
structure Builder where
  id : RuleSetId
  options : CompileOptions := {}
  declarations : List Declaration := []
  pendingDoc : Option String := none
  deriving Inhabited

namespace Builder

/-- A builder for the rule-set with no declarations. -/
def new (id : RuleSetId) : Builder := { id }

/-- Sets the options. -/
def withOptions (b : Builder) (options : CompileOptions) : Builder := { b with options }

/-- Leaves a doc for the next declaration, in place of any doc still waiting. -/
def doc (b : Builder) (text : String) : Builder := { b with pendingDoc := some text }

/-- Adds a declaration; it takes the waiting doc unless it has its own, and the waiting doc
is used up. -/
def declare (b : Builder) (d : Declaration) : Builder :=
  let d := match b.pendingDoc, d.doc? with
    | some text, none => d.withDoc text
    | _, _ => d
  { b with declarations := b.declarations ++ [d], pendingDoc := none }

/-- Adds declarations one by one. -/
def declareAll (b : Builder) (ds : List Declaration) : Builder := ds.foldl declare b

/-- Adds a transition declaration. -/
def transition (b : Builder) (d : TransitionDecl) : Builder := b.declare (.transition d)

/-- Adds a bypass declaration. -/
def bypass (b : Builder) (d : BypassDecl) : Builder := b.declare (.bypass d)

end Builder

end RuleMachine
