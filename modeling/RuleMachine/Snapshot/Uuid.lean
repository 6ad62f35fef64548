/-!
# Snapshot identifiers

A snapshot is named by a 128-bit identifier, kept as its sixteen bytes, most significant
first.

`Uuid.text` writes the identifier as thirty-two lower-case hex digits in groups of 8, 4, 4, 4
and 12 joined by hyphens. `Uuid.parse?` reads the forms an identifier is written in, hex
digits in either case:

* thirty-two hex digits in a row;
* the hyphenated form above;
* the hyphenated form between braces;
* the hyphenated form after `urn:uuid:`, the prefix in any case.

Nothing else is an identifier: the length of the text in bytes decides which form is meant, and
the hyphens must stand exactly at their places.

`Uuid.read` also says why a text is refused (`UuidFault`). A text longer than 45 bytes, the
longest form, is refused for its length alone. When the length names a hyphenated form, the part
that form is read from is examined as it stands (the whole text, or what stands inside the braces
or after the prefix), as a hyphenated form. Any other text, thirty-two characters long included,
is examined whole, past braces or a prefix it carries, and counts as thirty-two digits when it
carries neither. The examination reports the first character that is neither a hex digit nor a hyphen,
at its byte position from zero in the examined text; else, for thirty-two digits without hyphens,
the length in bytes; else the number of groups when it is not five; else the first group of the
wrong length (the last group's length is counted from its start to the end of the text).
-/

namespace RuleMachine

/-- A 128-bit identifier as its sixteen bytes. -/
structure Uuid where
  bytes : List UInt8
  deriving DecidableEq, Repr, Inhabited

namespace Uuid

/-- The identifier whose bytes are all zero. -/
def nil : Uuid := ⟨List.replicate 16 0⟩

/-- The identifier of sixteen bytes; any other number of bytes is none. -/
def ofBytes? (bytes : List UInt8) : Option Uuid :=
  if bytes.length = 16 then some ⟨bytes⟩ else none

/-- A lower-case hex digit. -/
def hexDigit (n : Nat) : Char :=
  if n < 10 then Char.ofNat (48 + n) else Char.ofNat (87 + n)

/-- The two lower-case hex digits of a byte. -/
def byteHex (b : UInt8) : List Char := [hexDigit (b.toNat / 16), hexDigit (b.toNat % 16)]

/-- The hex digits of bytes, two a byte. -/
def hexOf (bytes : List UInt8) : String := String.ofList (bytes.flatMap byteHex)

/-- The hyphenated lower-case text of an identifier. -/
def text (u : Uuid) : String :=
  hexOf (u.bytes.take 4) ++ "-" ++ hexOf ((u.bytes.drop 4).take 2) ++ "-"
    ++ hexOf ((u.bytes.drop 6).take 2) ++ "-" ++ hexOf ((u.bytes.drop 8).take 2) ++ "-"
    ++ hexOf (u.bytes.drop 10)

/-- The value of a hex digit of either case. -/
def hexValue (c : Char) : Option Nat :=
  if '0' ≤ c ∧ c ≤ '9' then some (c.toNat - 48)
  else if 'a' ≤ c ∧ c ≤ 'f' then some (c.toNat - 87)
  else if 'A' ≤ c ∧ c ≤ 'F' then some (c.toNat - 55)
  else none

/-- The bytes of a run of hex digits, two digits a byte; none when a character is not a hex
digit or one is left over. -/
def bytesOfHex : List Char → Option (List UInt8)
  | [] => some []
  | hi :: lo :: rest => do
    let h ← hexValue hi
    let l ← hexValue lo
    let more ← bytesOfHex rest
    pure ((h * 16 + l).toUInt8 :: more)
  | [_] => none

/-- Reads the thirty-two digits of the hyphenated form, checking the four hyphens. -/
def ofHyphenated (cs : List Char) : Option Uuid :=
  if cs.length = 36 ∧ cs[8]? = some '-' ∧ cs[13]? = some '-' ∧ cs[18]? = some '-'
      ∧ cs[23]? = some '-' then
    (bytesOfHex (cs.take 8 ++ (cs.drop 9).take 4 ++ (cs.drop 14).take 4 ++ (cs.drop 19).take 4
      ++ cs.drop 24)).bind ofBytes?
  else none

/-- Whether a text starts with `urn:uuid:` in any case. -/
def hasUrnPrefix (cs : List Char) : Bool :=
  (cs.take 9).map Char.toLower == "urn:uuid:".toList

/-- The form a text's length in bytes names, with the characters the identifier is read from:
thirty-two digits in a row, or the hyphenated form alone, between braces, or after the prefix. -/
inductive Written where
  | simple (digits : List Char)
  | hyphenated (body : List Char)

namespace Written

/-- The form a text is written in, when its length names one and its braces or prefix are
there. -/
def of? (s : String) : Option Written :=
  let cs := s.toList
  match s.utf8ByteSize with
  | 32 => some (.simple cs)
  | 36 => some (.hyphenated cs)
  | 38 =>
    if cs.head? = some '\x7b' ∧ cs.getLast? = some '\x7d' then some (.hyphenated (cs.drop 1).dropLast)
    else none
  | 45 => if hasUrnPrefix cs then some (.hyphenated (cs.drop 9)) else none
  | _ => none

/-- The characters the identifier is read from. -/
def body : Written → List Char
  | .simple cs => cs
  | .hyphenated cs => cs

/-- The identifier a written form holds, if its characters make one. -/
def read : Written → Option Uuid
  | .simple cs => (bytesOfHex cs).bind ofBytes?
  | .hyphenated cs => ofHyphenated cs

end Written

/-- Reads an identifier from any of its written forms. -/
def parse? (s : String) : Option Uuid := (Written.of? s).bind Written.read

/-- Why a text is no identifier. -/
inductive UuidFault where
  /-- A character that is neither a hex digit nor a hyphen, at a byte position from zero. -/
  | character (c : Char) (position : Nat)
  /-- A text of the wrong length in bytes: hex digits alone, or longer than every form. -/
  | length (bytes : Nat)
  /-- Hyphens that make other than five groups. -/
  | groupCount (count : Nat)
  /-- A group of the wrong length. -/
  | groupLength (group expected length : Nat)
  deriving DecidableEq, Repr

/-- The words of an identifier fault. -/
def UuidFault.message : UuidFault → String
  | .character c i => "invalid character: found `" ++ c.toString ++ "` at " ++ toString i
  | .length n => "invalid length: found " ++ toString n
  | .groupCount n => "invalid group count: expected 5, found " ++ toString n
  | .groupLength g e n =>
    "invalid group length in group " ++ toString g ++ ": expected " ++ toString e ++ ", found "
      ++ toString n

/-- Where each group starts in the hyphenated form. -/
def groupStarts : List Nat := [0, 9, 14, 19, 24]

/-- The first character of a text that is neither a hex digit nor a hyphen, with its byte
position from zero counted past `offset` bytes, and the byte positions of the hyphens. -/
def scan (offset : Nat) : Nat → List Char → Option (Char × Nat) × List Nat
  | _, [] => (none, [])
  | index, c :: rest =>
    if c.toNat ≥ 128 ∨ (c ≠ '-' ∧ (hexValue c).isNone) then (some (c, index + offset), [])
    else
      let (bad, hyphens) := scan offset (index + c.utf8Size) rest
      (bad, if c = '-' then index :: hyphens else hyphens)

/-- The fault of the first group whose hyphen is misplaced, else of the last group. -/
def groupFault (whole : Nat) (hyphens : List Nat) : UuidFault :=
  let expected := [8, 4, 4, 4, 12]
  let misplaced := (List.range 4).find? fun i =>
    hyphens[i]? ≠ some (groupStarts.getD (i + 1) 0 - 1)
  match misplaced with
  | some i => .groupLength i (expected.getD i 0) (hyphens.getD i 0 - groupStarts.getD i 0)
  | none => .groupLength 4 12 (whole - 24)

/-- Why characters hold no identifier, examined as they stand: a bad character is reported at
`offset` plus its byte position, a run of hex digits read as `simple` digits by the length
`whole`, and a misplaced hyphen by its group, the last group running to `whole` bytes. -/
def examine (simple : Bool) (offset whole : Nat) (body : List Char) : UuidFault :=
  match scan offset 0 body with
  | (some (c, i), _) => .character c i
  | (none, hyphens) =>
    if hyphens.isEmpty ∧ simple then .length whole
    else if hyphens.length ≠ 4 then .groupCount (hyphens.length + 1)
    else groupFault whole hyphens

/-- Why a text holds no identifier, examined whole: braces or the prefix it carries are looked
past, and without either it counts as thirty-two digits. -/
def diagnose (cs : List Char) : UuidFault :=
  let size := (String.ofList cs).utf8ByteSize
  if 2 ≤ cs.length ∧ cs.head? = some '\x7b' ∧ cs.getLast? = some '\x7d' then
    examine false 1 size ((cs.drop 1).dropLast)
  else if hasUrnPrefix cs then examine false 9 size (cs.drop 9)
  else examine true 0 size cs

/-- Why a text of a form's length holds no identifier of that form: thirty-two characters are
examined whole, like a text of no form's length; a hyphenated form is examined in the part it is
read from, as it stands. -/
def Written.fault : Written → UuidFault
  | .simple cs => diagnose cs
  | .hyphenated cs => examine false 0 (String.ofList cs).utf8ByteSize cs

/-- The length in bytes of the longest written form, the prefixed one. -/
def longestForm : Nat := 45

/-- Reads an identifier, or says why the text is none: a text whose length names a form is
examined as that form, one longer than every form is refused for its length. -/
def read (s : String) : Except UuidFault Uuid :=
  match Written.of? s with
  | some w =>
    match w.read with
    | some u => .ok u
    | none => .error w.fault
  | none =>
    if longestForm < s.utf8ByteSize then .error (.length s.utf8ByteSize)
    else .error (diagnose s.toList)

end Uuid

end RuleMachine
