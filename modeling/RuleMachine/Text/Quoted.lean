import RuleMachine.Text.Escaped
/-!
# Quoting text for inspection

`Text.inspect` writes a text between double quotes the way inspection output shows it: the
NUL, tab, carriage return and line feed as `\0 \t \r \n`, the backslash and the double quote
with a backslash before them, every character of the escaped table (`Text.isEscaped`) as
`\u{hex}` with lower-case digits and no leading zeros, and every other character as itself.
The single quote is not escaped.
-/

namespace RuleMachine

namespace Text

/-- The lower-case hex digits of a number, without leading zeros. -/
def hexDigits (n : Nat) : String :=
  String.ofList (Nat.toDigits 16 n)

/-- A character as it stands inside an inspection quote. -/
def inspectChar (c : Char) : String :=
  if c.toNat = 0 then "\\0"
  else if c = '\t' then "\\t"
  else if c = '\r' then "\\r"
  else if c = '\n' then "\\n"
  else if c = '\\' then "\\\\"
  else if c = '"' then "\\\""
  else if isEscaped c then "\\u\x7b" ++ hexDigits c.toNat ++ "\x7d"
  else c.toString

/-- A text in double quotes, escaped for inspection. -/
def inspect (s : String) : String :=
  "\"" ++ s.toList.foldl (fun acc c => acc ++ inspectChar c) "" ++ "\""

end Text

end RuleMachine
