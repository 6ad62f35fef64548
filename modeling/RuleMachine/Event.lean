import RuleMachine.Json.Basic
/-!
# Names and events

States, events and rule-sets are named by plain strings (`StateName`, `EventName`,
`RuleSetId`). An `Event` is what a transition listens for: one named event, or the wildcard
`any` that stands for every event without a transition of its own.

Events are ordered with every named event before the wildcard and named events by their
names; names compare by code point, which is the byte order of their UTF-8 text.
-/

namespace RuleMachine

/-- The name of a state. -/
abbrev StateName := String

/-- The name of an event. -/
abbrev EventName := String

/-- The identifier of a rule-set. -/
abbrev RuleSetId := String

/-- What a transition listens for: a named event or the wildcard. -/
inductive Event where
  | named (name : EventName)
  | any
  deriving DecidableEq, Repr, Inhabited

namespace Event

/-- Named events by name, all of them before the wildcard. -/
def compare : Event → Event → Ordering
  | .named a, .named b => Ord.compare a b
  | .named _, .any => .lt
  | .any, .named _ => .gt
  | .any, .any => .eq

instance : Ord Event := ⟨Event.compare⟩

/-- The text of an event: its name, or `*` for the wildcard. -/
def display : Event → String
  | .named n => n
  | .any => "*"

/-- Whether the event is the wildcard. -/
def isAny : Event → Bool
  | .any => true
  | .named _ => false

/-- The name of a named event. -/
def name? : Event → Option EventName
  | .named n => some n
  | .any => none

/-- The JSON form of an event: `{"Named": name}`, or the string `"Any"`. -/
def toJson : Event → Json
  | .named n => .object [("Named", .string n)]
  | .any => .string "Any"

end Event

/-- The key of a transition: the state it leaves and the event it listens for. Keys are
ordered by state, then by event. -/
structure Key where
  state : StateName
  event : Event
  deriving DecidableEq, Repr, Inhabited

namespace Key

/-- By state, then by event. -/
def compare (a b : Key) : Ordering :=
  (Ord.compare a.state b.state).then (Ord.compare a.event b.event)

instance : Ord Key := ⟨Key.compare⟩

end Key

end RuleMachine
