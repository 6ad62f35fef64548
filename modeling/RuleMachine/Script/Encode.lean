import RuleMachine.RuleSet.Compile
import RuleMachine.Dispatch.Merge
/-!
# Rule-sets as JSON answers

The JSON forms in which compiled rule-sets and their faults are reported. Events are written
`{"Named": name}` or `"Any"`, doc keys `{"Transition": [state, event]}` or `{"Event": name}`,
sets of states as sorted arrays, and maps keyed by names as objects.

A compiled rule-set is reported with its identifier, table rows in key order, bypasses, docs
in key order, states, graph, and the states reachable from each of its states. A compile error
is reported with its message, the rule-set and each fault's kind, site and message.
-/

namespace RuleMachine

namespace Script

/-- A table row with its key. -/
def rowJson (k : Key) (r : Row) : Json :=
  Json.obj [("state", .string k.state), ("event", k.event.toJson), ("owner", .string r.owner),
    ("destinations", Json.strings r.destinations)]

/-- A table as a list of rows. -/
def tableJson (t : Table) : Json := .array (t.map fun (k, r) => rowJson k r)

/-- A map from names to names. -/
def nameMapJson (m : List (String × String)) : Json := Json.obj (m.map fun (k, v) => (k, .string v))

/-- A graph: each state with its successors. -/
def graphJson (g : Graph) : Json := Json.obj (g.map fun (s, ds) => (s, Json.strings ds))

/-- The report of a compiled rule-set. -/
def ruleSetJson (rs : RuleSet) : Json :=
  Json.obj [("id", .string rs.id), ("table", tableJson rs.table),
    ("bypasses", nameMapJson rs.bypasses),
    ("docs", .array (rs.docs.map fun (k, d) =>
      Json.obj [("key", DocKey.toJson k), ("doc", match d with
        | some t => .string t
        | none => .null)])),
    ("states", Json.strings rs.states), ("graph", graphJson rs.graph),
    ("reachable", Json.obj (rs.states.map fun s => (s, Json.strings (rs.reachableFrom s))))]

/-- The name of a fault's kind. -/
def kindName : DeclarationError → String
  | .missingState _ => "MissingState"
  | .missingEvent _ => "MissingEvent"
  | .missingBody _ => "MissingBody"
  | .emptyName _ => "EmptyName"
  | .unrecognizedBody _ => "UnrecognizedBody"

/-- The report of a compile error. -/
def compileErrorJson (e : CompileError) : Json :=
  Json.obj [("error", .string "CompileError"), ("message", .string e.message),
    ("rule_set", .string e.ruleSet),
    ("errors", .array (e.errors.map fun d =>
      Json.obj [("kind", .string (kindName d)), ("site", .string d.site), ("message", .string d.message)]))]

end Script

end RuleMachine
