import RuleMachine.Rule.Declaration
import RuleMachine.Json.Print
import RuleMachine.Text.Quoted
/-!
# Compile options written as JSON

`Script.readOptions` reads `CompileOptions` from JSON by the rules of a derived structure
reader with defaults. An object gives the members it names and ignores the rest; a missing
`unrecognized_arms` keeps the default `reject`. An array gives the members by position: `[]`
is the default and `[policy]` sets the policy; a longer array is refused. The policy is the
string `"reject"` or `"ignore"`, or an object with that one key and a `null` value. Anything
else is refused with a message that says what was found and what was expected; in a longer
array the policy is read before the length is refused.
-/

namespace RuleMachine

namespace Script

/-- How a refused number is described: an integer as itself, a double by its JSON text. -/
def unexpectedNumber : Number → String
  | .integer i => "integer `" ++ toString i ++ "`"
  | .double x => "floating point `" ++ Decimal.text x ++ "`"

/-- How a refused value is described: its kind, and for scalars the value itself. -/
def unexpected : Json → String
  | .null => "null"
  | .bool b => "boolean `" ++ (if b then "true" else "false") ++ "`"
  | .number n => unexpectedNumber n
  | .string s => "string " ++ Text.inspect s
  | .array _ => "sequence"
  | .object _ => "map"

/-- The message for a value of the wrong kind. -/
def invalidType (found : Json) (expected : String) : String :=
  "invalid type: " ++ unexpected found ++ ", expected " ++ expected

/-- The policy of its name. -/
def policyOfName (name : String) : Except String ArmPolicy :=
  if name = "reject" then .ok .reject
  else if name = "ignore" then .ok .ignore
  else .error ("unknown variant `" ++ name ++ "`, expected `reject` or `ignore`")

/-- Reads an arm policy. -/
def readPolicy : Json → Except String ArmPolicy
  | .string s => policyOfName s
  | .object [(k, v)] => do
    let p ← policyOfName k
    match v with
    | .null => pure p
    | other => .error (invalidType other "unit")
  | .object _ => .error "invalid value: map, expected map with a single key"
  | other => .error (invalidType other "string or map")

/-- Reads compile options. -/
def readOptions : Json → Except String CompileOptions
  | .object ms =>
    match Json.Members.get? "unrecognized_arms" ms with
    | some p => (readPolicy p).map fun p => { unrecognizedArms := p }
    | none => .ok {}
  | .array [] => .ok {}
  | .array [p] => (readPolicy p).map fun p => { unrecognizedArms := p }
  | .array (p :: more) => do
    let _ ← readPolicy p
    .error ("invalid length " ++ toString (more.length + 1) ++ ", expected fewer elements in array")
  | other => .error (invalidType other "struct CompileOptions")

/-- The JSON name of a policy. -/
def ArmPolicy.name : ArmPolicy → String
  | .reject => "reject"
  | .ignore => "ignore"

end Script

end RuleMachine
