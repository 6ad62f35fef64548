import RuleMachine.Json.Basic
import RuleMachine.Decimal.Text
/-!
# Writing JSON text

`Json.render` writes a document compactly, with no blank between tokens; `Json.pretty`
writes it with one member or item per line, indented by two blanks per level, and with an
empty array or object as `[]` or `{}`. Members are written in the order the object lists
them, which for objects built by `Json.obj` is key order.

Inside a string only the quote, the backslash and the control characters are escaped:
`\b \f \n \r \t` by their letters and every other control character as `\u00XX` with
lower-case hex digits; all other characters, non-ASCII ones included, are written as they
are.

An integer is written in decimal, a double by `Decimal.text`.
-/

namespace RuleMachine

/-- The JSON text of a number. -/
def Number.render : Number → String
  | .integer i => toString i
  | .double x => Decimal.text x

namespace Json

/-- The hex digit of a number below sixteen, lower case. -/
def hexDigit (n : Nat) : Char :=
  if n < 10 then Char.ofNat (48 + n) else Char.ofNat (87 + n)

/-- A character as it stands inside a JSON string. -/
def escapeChar (c : Char) : String :=
  if c = '"' then "\\\""
  else if c = '\\' then "\\\\"
  else if c = '\n' then "\\n"
  else if c = '\r' then "\\r"
  else if c = '\t' then "\\t"
  else if c.toNat = 8 then "\\b"
  else if c.toNat = 12 then "\\f"
  else if c.toNat < 32 then
    "\\u00" ++ (hexDigit (c.toNat / 16)).toString ++ (hexDigit (c.toNat % 16)).toString
  else c.toString

/-- A string as a JSON string literal. -/
def quote (s : String) : String :=
  "\"" ++ s.toList.foldl (fun acc c => acc ++ escapeChar c) "" ++ "\""

mutual

/-- The compact text of a document. -/
def render : Json → String
  | .null => "null"
  | .bool b => if b then "true" else "false"
  | .number n => n.render
  | .string s => quote s
  | .array xs => "[" ++ renderItems xs ++ "]"
  | .object ms => "\x7b" ++ renderMembers ms ++ "\x7d"

/-- The items of an array, separated by commas. -/
def renderItems : List Json → String
  | [] => ""
  | [x] => render x
  | x :: xs => render x ++ "," ++ renderItems xs

/-- The members of an object, separated by commas. -/
def renderMembers : Members → String
  | [] => ""
  | [(k, v)] => quote k ++ ":" ++ render v
  | (k, v) :: ms => quote k ++ ":" ++ render v ++ "," ++ renderMembers ms

end

/-- Two blanks per level. -/
def indent (level : Nat) : String := String.ofList (List.replicate (2 * level) ' ')

mutual

/-- The indented text of a document whose first line stands at `level`. -/
def prettyAt (level : Nat) : Json → String
  | .array [] => "[]"
  | .object [] => "\x7b\x7d"
  | .array xs => "[\n" ++ prettyItems (level + 1) xs ++ "\n" ++ indent level ++ "]"
  | .object ms => "\x7b\n" ++ prettyMembers (level + 1) ms ++ "\n" ++ indent level ++ "\x7d"
  | j => render j

/-- Items one per line. -/
def prettyItems (level : Nat) : List Json → String
  | [] => ""
  | [x] => indent level ++ prettyAt level x
  | x :: xs => indent level ++ prettyAt level x ++ ",\n" ++ prettyItems level xs

/-- Members one per line. -/
def prettyMembers (level : Nat) : Members → String
  | [] => ""
  | [(k, v)] => indent level ++ quote k ++ ": " ++ prettyAt level v
  | (k, v) :: ms => indent level ++ quote k ++ ": " ++ prettyAt level v ++ ",\n" ++ prettyMembers level ms

end

/-- The indented text of a document. -/
def pretty (j : Json) : String := prettyAt 0 j

end Json

end RuleMachine
