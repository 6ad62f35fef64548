import RuleMachine.RuleSet.Basic
/-!
# Merged tables

The rule-sets that govern a value act as one table. `Merged.ofRuleSets` goes through them in
order and lets each claim the transition keys and bypass events it has, so a key held by
several rule-sets belongs to the last of them. The merged table answers with the row of the
owning rule-set, and its graph is the graph of those rows.

A value refers to its rule-sets by handle (`RuleSetRef`); a `Catalog` of compiled rule-sets
turns the handles into the rule-sets themselves.
-/

namespace RuleMachine

/-- The compiled rule-sets values refer to, by slot. -/
abbrev Catalog := List RuleSet

/-- The rule-sets behind handles, in order. -/
def Catalog.resolve (cat : Catalog) (refs : List RuleSetRef) : List RuleSet :=
  refs.filterMap fun r => cat[r.slot]?

/-- The union of several rule-sets' tables: each transition key and bypass event with the
rule-set that owns it. -/
structure Merged where
  transitions : List (Key × RuleSet)
  bypasses : List (EventName × RuleSet)
  deriving Inhabited

namespace Merged

/-- The merged table of rule-sets, a later rule-set taking a key from an earlier one. -/
def ofRuleSets (rss : List RuleSet) : Merged :=
  rss.foldl (fun m rs =>
    { transitions := rs.table.foldl (fun t (k, _) => SortedMap.insert k rs t) m.transitions
      bypasses := rs.bypasses.foldl (fun b (e, _) => SortedMap.insert e rs b) m.bypasses })
    ⟨[], []⟩

/-- The number of transition keys. -/
def length (m : Merged) : Nat := m.transitions.length

/-- The owner of a key and its row there. -/
def transition? (m : Merged) (key : Key) : Option (RuleSet × Row) :=
  match SortedMap.get? key m.transitions with
  | some owner => (SortedMap.get? key owner.table).map fun row => (owner, row)
  | none => none

/-- The owner of a bypass event. -/
def bypass? (m : Merged) (event : EventName) : Option RuleSet := SortedMap.get? event m.bypasses

/-- The events with a transition from a state, in order. -/
def eventsAt (m : Merged) (state : StateName) : List Event :=
  (m.transitions.filter fun p => p.1.state == state).map fun p => p.1.event

/-- The bypass events, in order. -/
def bypassEvents (m : Merged) : List EventName := m.bypasses.map (·.1)

/-- Every key with its owner's row. -/
def table (m : Merged) : Table :=
  m.transitions.filterMap fun (k, owner) => (SortedMap.get? k owner.table).map fun row => (k, row)

/-- Every bypass event with its owner's identifier. -/
def bypassMap (m : Merged) : List (EventName × RuleSetId) :=
  m.bypasses.map fun (e, owner) => (e, owner.id)

/-- The graph of the merged rows. -/
def graph (m : Merged) : Graph := m.table.graph

/-- The states reachable from `start` through the merged transitions. -/
def reachableFrom (m : Merged) (start : StateName) : List StateName := m.graph.reach start

end Merged

end RuleMachine
