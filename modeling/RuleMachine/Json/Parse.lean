import RuleMachine.Json.Basic
import RuleMachine.Decimal.Scale
/-!
# Reading JSON text

`Json.parse` reads one JSON document from text under the strict grammar: blanks are space,
tab, line feed and carriage return; a number has no leading zero, at least one digit after a
point and in an exponent; a string holds no raw control character, and its escapes are
`\" \\ \/ \b \f \n \r \t` and `\uXXXX`, where a high surrogate must be followed by an
escaped low one; nothing but blanks may follow the document. Arrays and objects nest at most
127 deep.

**Numbers.** An integer text (no point, no exponent) is an integer when it fits: from `0` to
`2 ^ 64 - 1` without a sign, from `-1` to `-2 ^ 63` with one. Every other number is a double:
`-0` is `-0.0`, and an integer beyond a word is the double nearest it. A number with a point or
an exponent is read by scaling (`Decimal.scaled`): its digits, as far as they fit in a 64-bit
word, form the significand, and the exponent counts the digits dropped from the integer part
and those kept after the point. Digits after the point that no longer fit are dropped. A value
too large for a double is refused, one too small is zero, and so is any number with an exponent
of ten or more digits past `2 ^ 31 - 1` when it is negative or the significand is zero.

**Faults** (`ReadError`) name what went wrong and where: `ReadError.message` gives the fault and
its line and column, counted in bytes, at the last character read, or at the next one for faults
found by looking ahead (a value that cannot start, a missing comma, colon or key, trailing text).

`Json.parseRaw` keeps each object's members in the order of the text, repeated keys
included, for readers that must see them; `Json.parse` sorts the members by key and keeps the
last of a repeated key.
-/

namespace RuleMachine

namespace Json

/-- What makes a text no JSON document. -/
inductive Fault where
  | endInValue
  | endInList
  | endInObject
  | endInString
  | expectedColon
  | expectedCommaOrBracket
  | expectedCommaOrBrace
  | expectedWord
  | expectedValue
  | invalidEscape
  | invalidNumber
  | numberOutOfRange
  | controlInString
  | keyNotString
  | loneSurrogate
  | brokenSurrogatePair
  | trailingComma
  | trailingCharacters
  | tooDeep
  deriving Repr, DecidableEq

/-- The words of a fault. -/
def Fault.message : Fault → String
  | .endInValue => "EOF while parsing a value"
  | .endInList => "EOF while parsing a list"
  | .endInObject => "EOF while parsing an object"
  | .endInString => "EOF while parsing a string"
  | .expectedColon => "expected `:`"
  | .expectedCommaOrBracket => "expected `,` or `]`"
  | .expectedCommaOrBrace => "expected `,` or `\x7d`"
  | .expectedWord => "expected ident"
  | .expectedValue => "expected value"
  | .invalidEscape => "invalid escape"
  | .invalidNumber => "invalid number"
  | .numberOutOfRange => "number out of range"
  | .controlInString => "control character (\\u0000-\\u001F) found while parsing a string"
  | .keyNotString => "key must be a string"
  | .loneSurrogate => "lone leading surrogate in hex escape"
  | .brokenSurrogatePair => "unexpected end of hex escape"
  | .trailingComma => "trailing comma"
  | .trailingCharacters => "trailing characters"
  | .tooDeep => "recursion limit exceeded"

/-- A fault and where it was found: the text still unread at that point, and whether the
fault lies at the next character (`ahead`) rather than at the last one read. -/
structure ReadError where
  fault : Fault
  rest : List Char
  ahead : Bool
  deriving Repr

/-- A fault at the last character read, with `rest` still unread. -/
def failAt {α : Type} (fault : Fault) (rest : List Char) : Except ReadError α :=
  .error ⟨fault, rest, false⟩

/-- A fault at the next character, the first of `rest`. -/
def failAhead {α : Type} (fault : Fault) (rest : List Char) : Except ReadError α :=
  .error ⟨fault, rest, true⟩

/-- The line and column of a byte position in a text: lines from one, columns as the bytes
before the position on its line. -/
def lineColumn (bytes : List UInt8) : Nat × Nat :=
  bytes.foldl (fun place b => if b = 10 then (place.1 + 1, 0) else (place.1, place.2 + 1)) (1, 0)

/-- The message of a fault found in `text`, with its line and column. -/
def ReadError.message (e : ReadError) (text : String) : String :=
  let cs := text.toList
  let read := String.ofList (cs.take (cs.length - e.rest.length))
  let bytes := read.toUTF8.toList
  let bytes := match e.ahead, e.rest with
    | true, c :: _ => bytes ++ (c.toString.toUTF8.toList.take 1)
    | _, _ => bytes
  let (line, column) := lineColumn bytes
  e.fault.message ++ " at line " ++ toString line ++ " column " ++ toString column

/-- Whether a character is a JSON blank. -/
def isBlank (c : Char) : Bool := c = ' ' || c = '\t' || c = '\n' || c = '\r'

/-- The text after its leading blanks. -/
def skipBlanks (cs : List Char) : List Char := cs.dropWhile isBlank

/-- The value of a hex digit. -/
def hexValue (c : Char) : Option Nat :=
  if '0' ≤ c ∧ c ≤ '9' then some (c.toNat - 48)
  else if 'a' ≤ c ∧ c ≤ 'f' then some (c.toNat - 87)
  else if 'A' ≤ c ∧ c ≤ 'F' then some (c.toNat - 55)
  else none

/-- The number of four hex digits. -/
def hex4 (a b c d : Char) : Option Nat := do
  let a ← hexValue a
  let b ← hexValue b
  let c ← hexValue c
  let d ← hexValue d
  pure (((a * 16 + b) * 16 + c) * 16 + d)

/-- Whether a code point is a low surrogate. -/
def isLowSurrogate (n : Nat) : Bool := 0xDC00 ≤ n && n < 0xE000

/-- Whether a code point is a high surrogate. -/
def isHighSurrogate (n : Nat) : Bool := 0xD800 ≤ n && n < 0xDC00

/-- Reads the rest of a string literal after its opening quote; `acc` holds the characters
read so far, last first. A `\u` escape with fewer than four characters left ends the text; a
high surrogate must be followed by `\u` and a low one. -/
def readString (acc : List Char) : List Char → Except ReadError (String × List Char)
  | [] => failAt .endInString []
  | '"' :: rest => .ok (String.ofList acc.reverse, rest)
  | ['\\'] => failAt .endInString []
  | '\\' :: '"' :: more => readString ('"' :: acc) more
  | '\\' :: '\\' :: more => readString ('\\' :: acc) more
  | '\\' :: '/' :: more => readString ('/' :: acc) more
  | '\\' :: 'b' :: more => readString (Char.ofNat 8 :: acc) more
  | '\\' :: 'f' :: more => readString (Char.ofNat 12 :: acc) more
  | '\\' :: 'n' :: more => readString ('\n' :: acc) more
  | '\\' :: 'r' :: more => readString ('\r' :: acc) more
  | '\\' :: 't' :: more => readString ('\t' :: acc) more
  | '\\' :: 'u' :: a :: b :: c :: d :: more =>
    match hex4 a b c d with
    | none => failAt .invalidEscape more
    | some n =>
      if isLowSurrogate n then failAt .loneSurrogate more
      else if isHighSurrogate n then
        match more with
        | [] => failAt .endInString []
        | '\\' :: 'u' :: e :: f :: g :: h :: rest =>
          match hex4 e f g h with
          | none => failAt .invalidEscape rest
          | some low =>
            if isLowSurrogate low then
              readString (Char.ofNat (0x10000 + (n - 0xD800) * 0x400 + (low - 0xDC00)) :: acc) rest
            else failAt .loneSurrogate rest
        | '\\' :: 'u' :: _ => failAt .endInString []
        | ['\\'] => failAt .endInString []
        | '\\' :: _ :: rest => failAt .brokenSurrogatePair rest
        | _ :: rest => failAt .brokenSurrogatePair rest
      else readString (Char.ofNat n :: acc) more
  | '\\' :: 'u' :: _ => failAt .endInString []
  | '\\' :: _ :: more => failAt .invalidEscape more
  | c :: rest => if c.toNat < 32 then failAt .controlInString rest else readString (c :: acc) rest

/-- The largest value of a 64-bit word. -/
def wordMax : Nat := Nat.pow 2 64 - 1

/-- The value of a decimal digit. -/
def digitValue (c : Char) : Nat := c.toNat - 48

/-- Clamps an integer to the range of a signed 32-bit word. -/
def clampExponent (e : Int) : Int :=
  max (-(Nat.pow 2 31 : Int)) (min e (Nat.pow 2 31 - 1 : Int))

/-- The double a reader makes of `± significand · 10 ^ exponent`, refused when it overflows;
`rest` is the text after the number. -/
def scaledNumber (negative : Bool) (significand : Nat) (exponent : Int) (rest : List Char) :
    Except ReadError (Number × List Char) :=
  match Decimal.scaled significand (clampExponent exponent) with
  | some x => .ok (.double (if negative then -x else x), rest)
  | none => failAt .numberOutOfRange rest

/-- The number of an integer text with the given sign and digits: an integer when it fits its
word, and otherwise the double nearest it (`-0` is `-0.0`). -/
def integerNumber (negative : Bool) (significand : Nat) : Number :=
  if !negative then .integer significand
  else if significand = 0 then .double (-0.0)
  else if significand ≤ Nat.pow 2 63 then .integer (-(significand : Int))
  else .double (-(Decimal.nearestDouble significand))

/-- Skips the digits at the front of a text. -/
def skipDigits (cs : List Char) : List Char := cs.dropWhile Char.isDigit

/-- Reads the digits of an exponent after its first; `exp` is the value so far. An exponent
past `2 ^ 31 - 1` makes the number zero, unless the significand is nonzero and the exponent
positive: then it is out of range. -/
def readExponentDigits (negative positive : Bool) (significand : Nat) (start : Int) (exp : Nat) :
    List Char → Except ReadError (Number × List Char)
  | c :: rest =>
    if c.isDigit then
      let exp' := exp * 10 + digitValue c
      if exp' > Nat.pow 2 31 - 1 then
        if significand ≠ 0 && positive then failAt .numberOutOfRange rest
        else .ok (.double (if negative then -0.0 else 0.0), skipDigits rest)
      else readExponentDigits negative positive significand start exp' rest
    else
      scaledNumber negative significand (if positive then start + exp else start - exp) (c :: rest)
  | [] => scaledNumber negative significand (if positive then start + exp else start - exp) []

/-- Reads an exponent after its mark: an optional sign and at least one digit. -/
def readExponent (negative : Bool) (significand : Nat) (start : Int) (cs : List Char) :
    Except ReadError (Number × List Char) :=
  let (positive, cs) := match cs with
    | '+' :: rest => (true, rest)
    | '-' :: rest => (false, rest)
    | _ => (true, cs)
  match cs with
  | [] => failAt .endInValue []
  | c :: rest =>
    if c.isDigit then readExponentDigits negative positive significand start (digitValue c) rest
    else failAt .invalidNumber rest

/-- What may follow the digits of a number that has a point or an exponent: an exponent, or
the end of the number. -/
def afterDigits (negative : Bool) (significand : Nat) (exponent : Int) :
    List Char → Except ReadError (Number × List Char)
  | 'e' :: rest => readExponent negative significand exponent rest
  | 'E' :: rest => readExponent negative significand exponent rest
  | cs => scaledNumber negative significand exponent cs

/-- Reads the digits after a point; `exponent` is the exponent so far and `taken` counts the
digits read. A digit that no longer fits the significand ends the digits taken: it and the
digits after it are skipped. -/
def readFraction (negative : Bool) (significand : Nat) (exponent : Int) (taken : Nat) :
    List Char → Except ReadError (Number × List Char)
  | c :: rest =>
    if c.isDigit then
      let next := significand * 10 + digitValue c
      if next > wordMax then afterDigits negative significand exponent (skipDigits (c :: rest))
      else readFraction negative next (exponent - 1) (taken + 1) rest
    else if taken = 0 then failAhead .invalidNumber (c :: rest)
    else afterDigits negative significand exponent (c :: rest)
  | [] => if taken = 0 then failAhead .endInValue [] else scaledNumber negative significand exponent []

/-- What may follow an integer part that fitted its word: a fraction, an exponent, or the end
of an integer. -/
def afterInteger (negative : Bool) (significand : Nat) :
    List Char → Except ReadError (Number × List Char)
  | '.' :: rest => readFraction negative significand 0 0 rest
  | 'e' :: rest => readExponent negative significand 0 rest
  | 'E' :: rest => readExponent negative significand 0 rest
  | cs => .ok (integerNumber negative significand, cs)

/-- Reads the digits of an integer part that no longer fit a word: each one raises the
exponent. -/
def readLongInteger (negative : Bool) (significand : Nat) (exponent : Int) :
    List Char → Except ReadError (Number × List Char)
  | c :: rest =>
    if c.isDigit then readLongInteger negative significand (exponent + 1) rest
    else if c = '.' then readFraction negative significand exponent 0 rest
    else if c = 'e' ∨ c = 'E' then readExponent negative significand exponent rest
    else scaledNumber negative significand exponent (c :: rest)
  | [] => scaledNumber negative significand exponent []

/-- Reads the digits of an integer part after its first. -/
def readIntegerDigits (negative : Bool) (significand : Nat) :
    List Char → Except ReadError (Number × List Char)
  | c :: rest =>
    if c.isDigit then
      let next := significand * 10 + digitValue c
      if next > wordMax then readLongInteger negative significand 0 (c :: rest)
      else readIntegerDigits negative next rest
    else afterInteger negative significand (c :: rest)
  | [] => afterInteger negative significand []

/-- Reads a number after its optional minus sign: an integer part with no leading zero, then
perhaps a fraction and an exponent. -/
def readNumber (negative : Bool) : List Char → Except ReadError (Number × List Char)
  | [] => failAt .endInValue []
  | '0' :: rest =>
    match rest with
    | c :: _ => if c.isDigit then failAhead .invalidNumber rest else afterInteger negative 0 rest
    | [] => afterInteger negative 0 []
  | c :: rest =>
    if c.isDigit then readIntegerDigits negative (digitValue c) rest
    else failAt .invalidNumber rest

/-- Reads the rest of a literal word such as `true` after its first letter. -/
def readWord (value : Json) : List Char → List Char → Except ReadError (Json × List Char)
  | [], cs => .ok (value, cs)
  | _ :: _, [] => failAt .endInValue []
  | w :: ws, c :: rest => if c = w then readWord value ws rest else failAt .expectedWord rest

mutual

/-- Reads one value after leading blanks. `fuel` bounds the nesting of calls (twice the
length of the text suffices, since every second call reads a character), and `depth` is the
number of containers that may still open. -/
def readValue : Nat → Nat → List Char → Except ReadError (Json × List Char)
  | 0, _, cs => failAhead .tooDeep cs
  | fuel + 1, depth, cs =>
    match skipBlanks cs with
    | [] => failAhead .endInValue []
    | 'n' :: rest => readWord .null "ull".toList rest
    | 't' :: rest => readWord (.bool true) "rue".toList rest
    | 'f' :: rest => readWord (.bool false) "alse".toList rest
    | '"' :: rest => (readString [] rest).map fun (s, r) => (.string s, r)
    | '-' :: rest => (readNumber true rest).map fun (n, r) => (.number n, r)
    | '[' :: rest =>
      if depth ≤ 1 then failAhead .tooDeep ('[' :: rest)
      else (readItems fuel (depth - 1) true [] rest).map fun (xs, r) => (.array xs, r)
    | '\x7b' :: rest =>
      if depth ≤ 1 then failAhead .tooDeep ('\x7b' :: rest)
      else (readMembers fuel (depth - 1) true [] rest).map fun (ms, r) => (.object ms, r)
    | c :: rest =>
      if c.isDigit then (readNumber false (c :: rest)).map fun (n, r) => (.number n, r)
      else failAhead .expectedValue (c :: rest)

/-- Reads array items up to the closing bracket; `first` says no item has been read, and `acc`
holds the items read, last first. -/
def readItems : Nat → Nat → Bool → List Json → List Char → Except ReadError (List Json × List Char)
  | 0, _, _, _, cs => failAhead .tooDeep cs
  | fuel + 1, depth, first, acc, cs =>
    let next : Except ReadError (List Char) :=
      match skipBlanks cs with
      | [] => failAhead .endInList []
      | ']' :: more => .ok (']' :: more)
      | ',' :: more => if first then .ok (',' :: more) else .ok (skipBlanks more)
      | more => if first then .ok more else failAhead .expectedCommaOrBracket more
    match skipBlanks cs, next with
    | ']' :: more, _ => .ok (acc.reverse, more)
    | _, .error e => .error e
    | _, .ok [] => failAhead .endInValue []
    | _, .ok (']' :: more) => failAhead .trailingComma (']' :: more)
    | _, .ok more =>
      match readValue fuel depth more with
      | .error e => .error e
      | .ok (x, rest) => readItems fuel depth false (x :: acc) rest

/-- Reads object members up to the closing brace, in the order of the text; `first` says no
member has been read, and `acc` holds the members read, last first. -/
def readMembers : Nat → Nat → Bool → List (String × Json) → List Char →
    Except ReadError (List (String × Json) × List Char)
  | 0, _, _, _, cs => failAhead .tooDeep cs
  | fuel + 1, depth, first, acc, cs =>
    let next : Except ReadError (List Char) :=
      match skipBlanks cs with
      | [] => failAhead .endInObject []
      | '\x7d' :: more => .ok ('\x7d' :: more)
      | ',' :: more => if first then .ok (',' :: more) else .ok (skipBlanks more)
      | more => if first then .ok more else failAhead .expectedCommaOrBrace more
    match skipBlanks cs, next with
    | '\x7d' :: more, _ => .ok (acc.reverse, more)
    | _, .error e => .error e
    | _, .ok [] => failAhead .endInValue []
    | _, .ok ('\x7d' :: more) => failAhead .trailingComma ('\x7d' :: more)
    | _, .ok ('"' :: more) =>
      match readString [] more with
      | .error e => .error e
      | .ok (key, rest) =>
        match skipBlanks rest with
        | ':' :: rest =>
          match readValue fuel depth rest with
          | .error e => .error e
          | .ok (v, rest) => readMembers fuel depth false ((key, v) :: acc) rest
        | [] => failAhead .endInObject []
        | more => failAhead .expectedColon more
    | _, .ok more => failAhead .keyNotString more

end

mutual

/-- Sorts the members of every object by key, the last of a repeated key winning. -/
def normalize : Json → Json
  | .array xs => .array (normalizeItems xs)
  | .object ms => .object (Members.ofList (normalizeMembers ms))
  | j => j

/-- `normalize` on every item. -/
def normalizeItems : List Json → List Json
  | [] => []
  | x :: xs => normalize x :: normalizeItems xs

/-- `normalize` on every member's value. -/
def normalizeMembers : List (String × Json) → List (String × Json)
  | [] => []
  | (k, v) :: ms => (k, normalize v) :: normalizeMembers ms

end

/-- Reads a JSON document, keeping object members in the order and number of the text. -/
def parseRaw (text : String) : Except ReadError Json :=
  let cs := text.toList
  match readValue (2 * cs.length + 4) 128 cs with
  | .error e => .error e
  | .ok (j, rest) =>
    match skipBlanks rest with
    | [] => .ok j
    | more => failAhead .trailingCharacters more

/-- Reads a JSON document, objects sorted by key and the last of a repeated key kept. -/
def parse (text : String) : Except ReadError Json :=
  (parseRaw text).map normalize

end Json

end RuleMachine
