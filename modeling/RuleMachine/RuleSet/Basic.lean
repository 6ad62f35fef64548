import RuleMachine.Rule.Analysis
import RuleMachine.Graph
/-!
# Compiled rule-sets

A compiled `RuleSet` has a table from transition keys (state, event) to rows, a map from
bypass events to the owning rule-set, the docs of its declarations, every state its
transitions name, and the bodies behind the table and the bypasses. A row records the
rule-set that owns it and the states its body can lead to.

The graph of a table maps each state with a row to the union of the destinations of its
rows, whatever their events, the wildcard included; bypasses are not part of it.
-/

namespace RuleMachine

/-- A row of a transition table: who owns it and where it can lead. -/
structure Row where
  owner : RuleSetId
  destinations : List StateName
  deriving DecidableEq, Repr, Inhabited

/-- What a doc is attached to: a transition, or a bypass event. Transition keys come before
event keys. -/
inductive DocKey where
  | transition (key : Key)
  | event (name : EventName)
  deriving DecidableEq, Repr, Inhabited

namespace DocKey

/-- Transitions by key, then events by name. -/
def compare : DocKey → DocKey → Ordering
  | .transition a, .transition b => Ord.compare a b
  | .transition _, .event _ => .lt
  | .event _, .transition _ => .gt
  | .event a, .event b => Ord.compare a b

instance : Ord DocKey := ⟨DocKey.compare⟩

/-- The JSON form of a doc key: `{"Transition": [state, event]}` or `{"Event": name}`. -/
def toJson : DocKey → Json
  | .transition k => .object [("Transition", .array [.string k.state, k.event.toJson])]
  | .event e => .object [("Event", .string e)]

end DocKey

/-- A transition table, sorted by key. -/
abbrev Table := List (Key × Row)

/-- The graph of a table: each state with a row, to the union of its rows' destinations. -/
def Table.graph (t : Table) : Graph :=
  t.foldl (fun g (k, row) =>
    SortedMap.insert k.state (SortedSet.union ((SortedMap.get? k.state g).getD []) row.destinations) g) []

/-- A compiled rule-set. -/
structure RuleSet where
  id : RuleSetId
  table : Table
  bypasses : List (EventName × RuleSetId)
  docs : List (DocKey × Option String)
  states : List StateName
  bodies : List (Key × Body)
  bypassBodies : List (EventName × Body)
  deriving Inhabited

namespace RuleSet

/-- The doc attached to a key, if there is one. -/
def doc? (rs : RuleSet) (key : DocKey) : Option String :=
  (SortedMap.get? key rs.docs).bind fun d => d

/-- The body of a transition. -/
def transitionBody? (rs : RuleSet) (key : Key) : Option Body := SortedMap.get? key rs.bodies

/-- The body of a bypass. -/
def bypassBody? (rs : RuleSet) (event : EventName) : Option Body :=
  SortedMap.get? event rs.bypassBodies

/-- The graph of the rule-set's table. -/
def graph (rs : RuleSet) : Graph := rs.table.graph

/-- The states reachable from `start` through the rule-set's transitions. -/
def reachableFrom (rs : RuleSet) (start : StateName) : List StateName := rs.graph.reach start

end RuleSet

end RuleMachine
