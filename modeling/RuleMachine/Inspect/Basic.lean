import RuleMachine.Text.Quoted
import RuleMachine.Json.Print
import RuleMachine.Event
/-!
# Inspection text

Inspection text shows a value's structure for a reader: a record-like value as
`Name { field: value, … }`, a tagged value as `Name(value)`, a list as `[a, b]`, a set as
`{a, b}`, a map as `{key: value, …}`, a pair as `(a, b)`, an optional value as `Some(x)` or
`None`, and a text quoted by `Text.inspect`. Names are shown tagged by what they name
(`StateName("idle")`), events as `Named(EventName("go"))` or `Any`, and JSON values by kind:
`Null`, `Bool(true)`, `Number(1.5)` (the number's JSON text), `String("x")`, `Array [..]`,
`Object {"k": ..}`.
-/

namespace RuleMachine

namespace Inspect

/-- Items separated by a comma and a blank. -/
def joined (items : List String) : String := ", ".intercalate items

/-- `[a, b]`. -/
def list (items : List String) : String := "[" ++ joined items ++ "]"

/-- `{a, b}`. -/
def set (items : List String) : String := "\x7b" ++ joined items ++ "\x7d"

/-- `{k: v, …}`. -/
def map (entries : List (String × String)) : String :=
  set (entries.map fun (k, v) => k ++ ": " ++ v)

/-- `Name { f: v, … }`. -/
def struct (name : String) (fields : List (String × String)) : String :=
  name ++ " \x7b " ++ joined (fields.map fun (k, v) => k ++ ": " ++ v) ++ " \x7d"

/-- `Name { f: v, …, .. }`: some fields are left out. -/
def structPart (name : String) (fields : List (String × String)) : String :=
  name ++ " \x7b " ++ joined (fields.map (fun (k, v) => k ++ ": " ++ v) ++ [".."]) ++ " \x7d"

/-- `Name(a, …)`. -/
def tagged (name : String) (items : List String) : String := name ++ "(" ++ joined items ++ ")"

/-- `(a, b)`. -/
def pair (a b : String) : String := "(" ++ a ++ ", " ++ b ++ ")"

/-- `Some(x)` or `None`. -/
def option {α : Type} (render : α → String) : Option α → String
  | some x => tagged "Some" [render x]
  | none => "None"

/-- A quoted text. -/
def text (s : String) : String := Text.inspect s

/-- A state name. -/
def stateName (s : StateName) : String := tagged "StateName" [text s]

/-- An event name. -/
def eventName (e : EventName) : String := tagged "EventName" [text e]

/-- A rule-set identifier. -/
def ruleSetId (id : RuleSetId) : String := tagged "RuleSetId" [text id]

/-- An event. -/
def event : Event → String
  | .named n => tagged "Named" [eventName n]
  | .any => "Any"

/-- A set of state names. -/
def states (ss : List StateName) : String := set (ss.map stateName)

mutual

/-- A JSON value. -/
def json : Json → String
  | .null => "Null"
  | .bool b => tagged "Bool" [if b then "true" else "false"]
  | .number n => tagged "Number" [n.render]
  | .string s => tagged "String" [text s]
  | .array xs => "Array " ++ list (jsonItems xs)
  | .object ms => "Object " ++ map (jsonMembers ms)

/-- The items of a JSON array. -/
def jsonItems : List Json → List String
  | [] => []
  | x :: xs => json x :: jsonItems xs

/-- The members of a JSON object. -/
def jsonMembers : Json.Members → List (String × String)
  | [] => []
  | (k, v) :: ms => (text k, json v) :: jsonMembers ms

end

/-- JSON fields as a map. -/
def fields (ms : Json.Members) : String := map (jsonMembers ms)

end Inspect

end RuleMachine
