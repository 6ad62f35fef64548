import RuleMachine.Json.Parse
/-!
# Skimming JSON text

A reader that wants only some members of an object still has to pass over the others. Passing
over a value checks its grammar and nothing more (`Json.skim`): its numbers are not evaluated,
so none is too large; a `\uXXXX` escape needs four hex digits but no partner, so a lone
surrogate passes; and containers nest without limit. Apart from that the grammar is the one
`Json.parse` reads: the same blanks, literal words, number syntax, escapes and commas, and
nothing but blanks after the document.

What is skimmed is kept as a `Skimmed` tree whose strings and numbers are the characters of
their text. A part is read only when it is wanted, and then under the strict rules of
`Json.parse`: `Skimmed.text?` reads a string and `Skimmed.toJson?` a whole value, and either
gives nothing for a lone surrogate or a number too large for a double. A part that is never
wanted is never read, so it cannot be refused.
-/

namespace RuleMachine

/-- A JSON value passed over for its grammar: a string is kept as the characters between its
quotes and a number as the characters of its text, and object members stay in the order of the
text, repeated keys included. -/
inductive Skimmed where
  | null
  | bool (value : Bool)
  | number (text : List Char)
  | string (text : List Char)
  | array (items : List Skimmed)
  | object (members : List (List Char × Skimmed))

namespace Json

/-- Passes over the rest of a string literal after its opening quote, giving the characters
before the closing quote; `acc` holds them so far, last first. An escape is one that
`Json.parse` knows, and `\u` takes four hex digits of any value. -/
def skimString (acc : List Char) : List Char → Except ReadError (List Char × List Char)
  | [] => failAt .endInString []
  | '"' :: rest => .ok (acc.reverse, rest)
  | '\\' :: 'u' :: a :: b :: c :: d :: rest =>
    if (hex4 a b c d).isSome then skimString (d :: c :: b :: a :: 'u' :: '\\' :: acc) rest
    else failAt .invalidEscape rest
  | '\\' :: 'u' :: _ => failAt .endInString []
  | '\\' :: e :: rest =>
    if e ∈ ['"', '\\', '/', 'b', 'f', 'n', 'r', 't'] then skimString (e :: '\\' :: acc) rest
    else failAt .invalidEscape rest
  | ['\\'] => failAt .endInString []
  | c :: rest =>
    if c.toNat < 32 then failAt .controlInString rest else skimString (c :: acc) rest

/-- The digits at the front of a text, and what follows them. -/
def spanDigits (cs : List Char) : List Char × List Char :=
  (cs.takeWhile Char.isDigit, cs.dropWhile Char.isDigit)

/-- Passes over the exponent that may end a number: a mark, an optional sign and at least one
digit. -/
def skimExponent : List Char → Except ReadError (List Char × List Char)
  | [] => .ok ([], [])
  | e :: rest =>
    if e = 'e' ∨ e = 'E' then
      let (sign, rest) := match rest with
        | '+' :: more => (['+'], more)
        | '-' :: more => (['-'], more)
        | _ => ([], rest)
      match spanDigits rest with
      | ([], []) => failAt .endInValue []
      | ([], more) => failAhead .invalidNumber more
      | (ds, more) => .ok (e :: sign ++ ds, more)
    else .ok ([], e :: rest)

/-- Passes over the fraction and exponent that may follow an integer part; a point needs a
digit after it. -/
def skimFraction (cs : List Char) : Except ReadError (List Char × List Char) := do
  let (fraction, cs) ← match cs with
    | '.' :: rest =>
      match spanDigits rest with
      | ([], []) => failAhead .endInValue []
      | ([], more) => failAhead .invalidNumber more
      | (ds, more) => pure ('.' :: ds, more)
    | _ => pure ([], cs)
  let (exponent, cs) ← skimExponent cs
  pure (fraction ++ exponent, cs)

/-- Passes over a number after its optional minus sign: an integer part without a leading zero,
then perhaps a fraction and an exponent. -/
def skimNumber : List Char → Except ReadError (List Char × List Char)
  | [] => failAt .endInValue []
  | '0' :: rest =>
    match rest with
    | c :: _ =>
      if c.isDigit then failAhead .invalidNumber rest
      else (skimFraction rest).map fun (tail, more) => ('0' :: tail, more)
    | [] => .ok (['0'], [])
  | c :: rest =>
    if c.isDigit then
      let (ds, more) := spanDigits rest
      (skimFraction more).map fun (tail, more) => (c :: ds ++ tail, more)
    else failAt .invalidNumber rest

mutual

/-- Passes over one value after leading blanks. `fuel` bounds the nesting of calls: twice the
length of the text suffices, since every second call passes over a character. -/
def skimValue : Nat → List Char → Except ReadError (Skimmed × List Char)
  | 0, cs => failAhead .tooDeep cs
  | fuel + 1, cs =>
    match skipBlanks cs with
    | [] => failAhead .endInValue []
    | 'n' :: rest => (readWord .null "ull".toList rest).map fun (_, r) => (.null, r)
    | 't' :: rest => (readWord .null "rue".toList rest).map fun (_, r) => (.bool true, r)
    | 'f' :: rest => (readWord .null "alse".toList rest).map fun (_, r) => (.bool false, r)
    | '"' :: rest => (skimString [] rest).map fun (s, r) => (.string s, r)
    | '-' :: rest => (skimNumber rest).map fun (n, r) => (.number ('-' :: n), r)
    | '[' :: rest => (skimItems fuel true [] rest).map fun (xs, r) => (.array xs, r)
    | '\x7b' :: rest => (skimMembers fuel true [] rest).map fun (ms, r) => (.object ms, r)
    | c :: rest =>
      if c.isDigit then (skimNumber (c :: rest)).map fun (n, r) => (.number n, r)
      else failAhead .expectedValue (c :: rest)

/-- Passes over array items up to the closing bracket; `first` says no item has been passed,
and `acc` holds the items, last first. -/
def skimItems : Nat → Bool → List Skimmed → List Char →
    Except ReadError (List Skimmed × List Char)
  | 0, _, _, cs => failAhead .tooDeep cs
  | fuel + 1, first, acc, cs =>
    let next : Except ReadError (List Char) :=
      match skipBlanks cs with
      | [] => failAhead .endInList []
      | ']' :: more => .ok (']' :: more)
      | ',' :: more => if first then .ok (',' :: more) else .ok (skipBlanks more)
      | more => if first then .ok more else failAhead .expectedCommaOrBracket more
    match skipBlanks cs, next with
    | ']' :: more, _ => .ok (acc.reverse, more)
    | _, .error e => .error e
    | _, .ok [] => failAhead .endInValue []
    | _, .ok (']' :: more) => failAhead .trailingComma (']' :: more)
    | _, .ok more =>
      match skimValue fuel more with
      | .error e => .error e
      | .ok (x, rest) => skimItems fuel false (x :: acc) rest

/-- Passes over object members up to the closing brace, in the order of the text; `first` says
no member has been passed, and `acc` holds the members, last first. -/
def skimMembers : Nat → Bool → List (List Char × Skimmed) → List Char →
    Except ReadError (List (List Char × Skimmed) × List Char)
  | 0, _, _, cs => failAhead .tooDeep cs
  | fuel + 1, first, acc, cs =>
    let next : Except ReadError (List Char) :=
      match skipBlanks cs with
      | [] => failAhead .endInObject []
      | '\x7d' :: more => .ok ('\x7d' :: more)
      | ',' :: more => if first then .ok (',' :: more) else .ok (skipBlanks more)
      | more => if first then .ok more else failAhead .expectedCommaOrBrace more
    match skipBlanks cs, next with
    | '\x7d' :: more, _ => .ok (acc.reverse, more)
    | _, .error e => .error e
    | _, .ok [] => failAhead .endInValue []
    | _, .ok ('\x7d' :: more) => failAhead .trailingComma ('\x7d' :: more)
    | _, .ok ('"' :: more) =>
      match skimString [] more with
      | .error e => .error e
      | .ok (key, rest) =>
        match skipBlanks rest with
        | ':' :: rest =>
          match skimValue fuel rest with
          | .error e => .error e
          | .ok (v, rest) => skimMembers fuel false ((key, v) :: acc) rest
        | [] => failAhead .endInObject []
        | more => failAhead .expectedColon more
    | _, .ok more => failAhead .keyNotString more

end

/-- Passes over one JSON document for its grammar alone; nothing but blanks may follow it. -/
def skim (text : String) : Except ReadError Skimmed :=
  let cs := text.toList
  match skimValue (2 * cs.length + 4) cs with
  | .error e => .error e
  | .ok (j, rest) =>
    match skipBlanks rest with
    | [] => .ok j
    | more => failAhead .trailingCharacters more

end Json

namespace Skimmed

/-- The text that the characters of a skimmed string spell, its escapes read as `Json.parse`
reads them; nothing when an escape is a lone surrogate. -/
def textOf (raw : List Char) : Option String :=
  match Json.readString [] (raw ++ ['"']) with
  | .ok (s, []) => some s
  | _ => none

/-- The number that the characters of a skimmed number spell, read as `Json.parse` reads it;
nothing when it is too large for a double. -/
def numberOf (raw : List Char) : Option Number :=
  let read := match raw with
    | '-' :: rest => Json.readNumber true rest
    | _ => Json.readNumber false raw
  match read with
  | .ok (n, []) => some n
  | _ => none

/-- The text of a skimmed string; nothing for any other value. -/
def text? : Skimmed → Option String
  | .string raw => textOf raw
  | _ => none

mutual

/-- A skimmed value read in full, as `Json.parseRaw` reads its text, members in the order of
the text; only the bound on nesting is not applied. -/
def toJson? : Skimmed → Option Json
  | .null => some .null
  | .bool b => some (.bool b)
  | .number raw => (numberOf raw).map .number
  | .string raw => (textOf raw).map .string
  | .array xs => (itemsToJson? xs).map .array
  | .object ms => (membersToJson? ms).map .object

/-- `toJson?` on every item. -/
def itemsToJson? : List Skimmed → Option (List Json)
  | [] => some []
  | x :: xs => do
    let y ← toJson? x
    let ys ← itemsToJson? xs
    pure (y :: ys)

/-- `toJson?` on every member, its key read as text. -/
def membersToJson? : List (List Char × Skimmed) → Option (List (String × Json))
  | [] => some []
  | (k, v) :: ms => do
    let key ← textOf k
    let value ← toJson? v
    let rest ← membersToJson? ms
    pure ((key, value) :: rest)

end

end Skimmed

end RuleMachine
