import RuleMachine.Script.Spec
import RuleMachine.Script.Encode
import RuleMachine.Inspect.Rule
import RuleMachine.Json.Parse
/-!
# Commands

A command is one JSON object naming an operation in `op`; its answer is one JSON object.
`Script.answerLine` reads a line of text as a command and writes the answer as compact text.

- `compile` compiles the rule-set written in the command and reports it (`ruleSetJson`) or
  its faults; `debug` reports instead the inspection text of the rule-set and of the body
  behind each row and bypass;
- `options` reads compile options and reports the policy;
- `event` compares two events and reports how each is shown and written.

With `"logs": true` the answer also lists the notes the command left.
-/

namespace RuleMachine

namespace Script

/-- An answer and the notes left while making it. -/
abbrev Answered := Json × List Note

/-- The answer to a command that cannot be read. -/
def badInput (message : String) : Json :=
  Json.obj [("error", .string "BadInput"), ("message", .string message)]

/-- The answer to options that cannot be read. -/
def optionsError (message : String) : Json :=
  Json.obj [("error", .string "OptionsError"), ("message", .string message)]

/-- The answer to a written rule-set that cannot be built. -/
def specErrorJson : SpecError → Json
  | .badInput m => badInput m
  | .options m => optionsError m

/-- Compiles the rule-set written in a command, then answers with `report`. -/
def withCompiled (spec : Json) (report : RuleSet → Json) : Answered :=
  match readRuleSet spec with
  | .error e => (specErrorJson e, [])
  | .ok b =>
    let (result, notes) := compileNoted b
    match result with
    | .ok rs => (report rs, notes)
    | .error e => (compileErrorJson e, notes)

/-- The `debug` report of a rule-set: its inspection text and that of every body. -/
def debugJson (rs : RuleSet) : Json :=
  Json.obj [("rule_set", .string (Inspect.ruleSet rs)),
    ("transitions", .array (rs.bodies.map fun (k, b) =>
      .array [.string k.state, k.event.toJson, .string (Inspect.body b)])),
    ("bypasses", .array (rs.bypassBodies.map fun (e, b) => .array [.string e, .string (Inspect.body b)]))]

/-- The answer to `options`. -/
def optionsAnswer (value : Json) : Json :=
  match readOptions value with
  | .ok o => Json.obj [("unrecognized_arms", .string (ArmPolicy.name o.unrecognizedArms))]
  | .error _ => Json.obj [("error", .string "OptionsError")]

/-- How an event is shown and written. -/
def eventReport (e : Event) : Json :=
  Json.obj [("display", .string e.display), ("is_any", .bool e.isAny),
    ("as_named", match e.name? with
      | some n => .string n
      | none => .null),
    ("serde", e.toJson)]

/-- The word of an ordering. -/
def orderingWord : Ordering → String
  | .lt => "Less"
  | .eq => "Equal"
  | .gt => "Greater"

/-- The answer to `event`: a missing or `null` side is the wildcard, and its text is empty; a
side of any other kind than a string is refused. -/
def eventAnswer (cmd : Json) : Except String Json := do
  let aText? ← optionalText cmd "a"
  let bText? ← optionalText cmd "b"
  let side : Option String → Event
    | some s => .named s
    | none => .any
  let a := side aText?
  let b := side bText?
  let aText := aText?.getD ""
  let bText := bText?.getD ""
  pure (Json.obj [("a", eventReport a), ("b", eventReport b),
    ("cmp", .string (orderingWord (Ord.compare a b))), ("eq", .bool (a == b)),
    ("from_str_eq", .bool (Event.named aText == a)),
    ("state_eq_str", .bool (aText == bText)), ("event_eq_str", .bool (aText == bText)),
    ("id_eq_str", .bool (aText == bText))])

end Script

end RuleMachine
