import RuleMachine.Json.Print
/-!
# Members of written descriptions

How the scripting language reads the members of the objects it is written in. Three kinds of
member occur:

- a **required text** (`requireText`): missing or `null` is "missing string field 'k'", any
  other value but a string is "field 'k' must be a string";
- an **optional text** (`optionalText`): missing or `null` is none, a string is itself, any
  other value is refused as above;
- a **lenient member** (`textOr`, `listOr`): a value of the wrong kind counts as missing, and a
  missing one takes its default.

A member is looked up in objects only: every other value has no members, so a step written as
`5` has no `do`.

A description that names its form by a key (an expression, a condition, an update operation,
a run job, a reply, a written value) is a **tagged object**, read by its leading key, the least
of its keys in byte order (`tagged`); the other members are not looked at, except as arguments
of that form. Anything else, the empty object included, is refused as "expected a tagged
object, got …" with its compact text, and a key that names no form as "unknown <family> 'k'"
(`unknownTag`).
-/

namespace RuleMachine

namespace Script

/-- A required text member. -/
def requireText (j : Json) (key : String) : Except String String :=
  match j.get? key with
  | none | some .null => .error ("missing string field '" ++ key ++ "'")
  | some (.string s) => .ok s
  | some _ => .error ("field '" ++ key ++ "' must be a string")

/-- An optional text member: missing or `null` is none. -/
def optionalText (j : Json) (key : String) : Except String (Option String) :=
  match j.get? key with
  | none | some .null => .ok none
  | some (.string s) => .ok (some s)
  | some _ => .error ("field '" ++ key ++ "' must be a string")

/-- A text member, `default` unless it is a string. -/
def textOr (j : Json) (key : String) (default : String) : String :=
  match j.get? key with
  | some (.string s) => s
  | _ => default

/-- A list member, empty unless it is an array. -/
def listOr (j : Json) (key : String) : List Json :=
  match j.get? key with
  | some (.array xs) => xs
  | _ => []

/-- The leading key of an object, the least in byte order, with its value. -/
def leadingKey? : Json → Option (String × Json)
  | .object ((k, v) :: _) => some (k, v)
  | _ => none

/-- The leading key of a tagged object with its value; anything else is refused. -/
def tagged (j : Json) : Except String (String × Json) :=
  match leadingKey? j with
  | some kv => .ok kv
  | none => .error ("expected a tagged object, got " ++ j.render)

/-- The refusal of a leading key that names no form of a family of descriptions. -/
def unknownTag {α : Type} (family key : String) : Except String α :=
  .error ("unknown " ++ family ++ " '" ++ key ++ "'")

/-- The fuel a reader needs for a document: one step per node and one per list cell. -/
def fuelFor (j : Json) : Nat := 2 * j.size + 2

end Script

end RuleMachine
