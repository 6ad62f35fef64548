import RuleMachine.Dispatch.Merge
/-!
# Handlers and their resolution

A `Handler` is what answers an event in a state: a transition of the merged table, or a
bypass. `Merged.resolve` chooses it in a fixed order: the transition for the named event,
then the wildcard transition of the state, then the bypass for the event. A transition
handler records the key it was found under, so its event is the wildcard when the wildcard
answered.
-/

namespace RuleMachine

/-- What answers an event in a state. -/
inductive Handler where
  | transition (owner : RuleSet) (state : StateName) (event : Event) (destinations : List StateName)
  | bypass (owner : RuleSet) (event : EventName)
  deriving Inhabited

namespace Handler

/-- The rule-set the handler belongs to. -/
def owner : Handler → RuleSet
  | .transition o _ _ _ => o
  | .bypass o _ => o

/-- The key of the handler's doc. -/
def docKey : Handler → DocKey
  | .transition _ s e _ => .transition ⟨s, e⟩
  | .bypass _ e => .event e

/-- The handler's doc, if it has one. -/
def doc? (h : Handler) : Option String := h.owner.doc? h.docKey

/-- The handler's body. -/
def body? : Handler → Option Body
  | .transition o s e _ => o.transitionBody? ⟨s, e⟩
  | .bypass o e => o.bypassBody? e

/-- The text of a handler: `id::transition(state, event)` or `id::bypass(event)`. -/
def display : Handler → String
  | .transition o s e _ => o.id ++ "::transition(" ++ s ++ ", " ++ e.display ++ ")"
  | .bypass o e => o.id ++ "::bypass(" ++ e ++ ")"

/-- Whether the handler is a transition. -/
def isTransition : Handler → Bool
  | .transition _ _ _ _ => true
  | .bypass _ _ => false

end Handler

namespace Merged

/-- The handler of an event in a state: the named transition, else the wildcard one, else
the bypass, else none. -/
def resolve (m : Merged) (state : StateName) (event : EventName) : Option Handler :=
  match m.transition? ⟨state, .named event⟩ with
  | some (owner, row) => some (.transition owner state (.named event) row.destinations)
  | none =>
    match m.transition? ⟨state, .any⟩ with
    | some (owner, row) => some (.transition owner state .any row.destinations)
    | none => (m.bypass? event).map fun owner => .bypass owner event

end Merged

end RuleMachine
