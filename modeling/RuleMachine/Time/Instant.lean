/-!
# Instants in UTC

An `Instant` is a day number counted from 1970-01-01, a second of that day, and a nanosecond
count. The nanosecond count stays below one second except in a leap second, which is written as
the 59th second with a count of one second or more.

`Instant.read` reads the timestamp text the machine accepts: a date `year-month-day`, a
`T`, `t` or blank, a time `hour:minute:second` with an optional fraction, and an offset `Z`,
`z`, `UTC` (any case) or a sign with hours and minutes; blanks may stand around the numbers.
A year has up to four digits, or any number after an explicit sign; month, day, hour, minute
and second have one or two; fraction digits past the ninth are dropped. The instant is moved by
the offset to UTC, and both the date written and the instant in UTC must lie from
-262143-01-01 to +262142-12-31. A refusal says why (`TimeFault`): a character that does not
fit, a text that ends too early, text left over, a value out of range, or an instant that the
offset moves out of range; the first fault met reading from the left wins, and range faults of
the whole date come after all reading.
`Instant.render` writes `YYYY-MM-DDTHH:MM:SS` with the shortest of 0, 3, 6 or 9 fraction digits
that is exact, then `Z`.

Days and dates convert by the proleptic Gregorian calendar.
-/

namespace RuleMachine

/-- A moment in UTC. -/
structure Instant where
  day : Int
  second : Nat
  nano : Nat
  deriving DecidableEq, Repr, Inhabited

/-- A nonnegative span of time: whole seconds and nanoseconds below one second. -/
structure Span where
  seconds : Nat
  nanos : Nat
  deriving DecidableEq, Repr

namespace Instant

/-- The first instant of 1970-01-01. -/
def epoch : Instant := ⟨0, 0, 0⟩

/-- The day number of a date of the proleptic Gregorian calendar. -/
def daysOfDate (y : Int) (m d : Nat) : Int :=
  let y := if m ≤ 2 then y - 1 else y
  let era := Int.fdiv y 400
  let yoe := y - era * 400
  let mp : Int := if m > 2 then m - 3 else m + 9
  let doy := (153 * mp + 2) / 5 + d - 1
  let doe := yoe * 365 + yoe / 4 - yoe / 100 + doy
  era * 146097 + doe - 719468

/-- The date of a day number: year, month, day. -/
def dateOfDays (z : Int) : Int × Nat × Nat :=
  let z := z + 719468
  let era := Int.fdiv z 146097
  let doe := z - era * 146097
  let yoe := (doe - doe / 1460 + doe / 36524 - doe / 146096) / 365
  let y := yoe + era * 400
  let doy := doe - (365 * yoe + yoe / 4 - yoe / 100)
  let mp := (5 * doy + 2) / 153
  let d := doy - (153 * mp + 2) / 5 + 1
  let m := if mp < 10 then mp + 3 else mp - 9
  ((if m ≤ 2 then y + 1 else y), m.toNat, d.toNat)

/-- Whether a year is a leap year. -/
def isLeapYear (y : Int) : Bool := (y % 4 == 0 && y % 100 != 0) || y % 400 == 0

/-- The number of days of a month. -/
def monthLength (y : Int) (m : Nat) : Nat :=
  if m = 2 then (if isLeapYear y then 29 else 28)
  else if m = 4 || m = 6 || m = 9 || m = 11 then 30 else 31

/-- Two digits, with a leading zero below ten. -/
def twoDigits (n : Nat) : String := if n < 10 then "0" ++ toString n else toString n

/-- A number padded with zeros to a width. -/
def padded (width n : Nat) : String :=
  let s := toString n
  String.ofList (List.replicate (width - s.length) '0') ++ s

/-- The year as written: four digits within 0 … 9999, else a sign and at least four. -/
def yearText (y : Int) : String :=
  if 0 ≤ y ∧ y ≤ 9999 then padded 4 y.toNat
  else (if y < 0 then "-" else "+") ++ padded 4 y.natAbs

/-- The text of an instant in UTC. -/
def render (t : Instant) : String :=
  let (y, m, d) := dateOfDays t.day
  let (sec, nano) := if t.nano ≥ 1000000000 then (t.second % 60 + 1, t.nano - 1000000000)
    else (t.second % 60, t.nano)
  let fraction :=
    if nano = 0 then ""
    else if nano % 1000000 = 0 then "." ++ padded 3 (nano / 1000000)
    else if nano % 1000 = 0 then "." ++ padded 6 (nano / 1000)
    else "." ++ padded 9 nano
  yearText y ++ "-" ++ twoDigits m ++ "-" ++ twoDigits d ++ "T" ++ twoDigits (t.second / 3600)
    ++ ":" ++ twoDigits (t.second / 60 % 60) ++ ":" ++ twoDigits sec ++ fraction ++ "Z"

/-- The span from `a` to `b`, when `b` is not earlier. A leap second of either side counts as
the second it extends. -/
def since (b a : Instant) : Option Span :=
  let secs : Int := (b.day - a.day) * 86400 + ((b.second : Int) - a.second)
  let secs :=
    if b.second > a.second ∧ a.nano ≥ 1000000000 then secs + 1
    else if b.second < a.second ∧ b.nano ≥ 1000000000 then secs - 1 else secs
  let frac : Int := (b.nano : Int) - a.nano
  let total := secs + Int.fdiv frac 1000000000
  let nanos := Int.fmod frac 1000000000
  if total < 0 then none else some ⟨total.toNat, nanos.toNat⟩

/-- Whether a character is a blank of text (the Unicode white space). -/
def isBlank (c : Char) : Bool :=
  c = ' ' || (9 ≤ c.toNat && c.toNat ≤ 13) || c.toNat = 0x85 || c.toNat = 0xA0 || c.toNat = 0x1680
    || (0x2000 ≤ c.toNat && c.toNat ≤ 0x200A) || c.toNat = 0x2028 || c.toNat = 0x2029
    || c.toNat = 0x202F || c.toNat = 0x205F || c.toNat = 0x3000

/-- The text after its leading blanks. -/
def skipBlanks (cs : List Char) : List Char := cs.dropWhile isBlank

/-- Why a timestamp text is refused. -/
inductive TimeFault where
  /-- A character that does not fit its place. -/
  | invalid
  /-- The text ends before the timestamp does. -/
  | tooShort
  /-- Text is left after the timestamp. -/
  | tooLong
  /-- A field, the date or the offset lies beyond its range. -/
  | outOfRange
  /-- The date and time are valid, but moved to UTC they leave the range of instants. -/
  | impossible
  deriving DecidableEq, Repr

/-- The words of a timestamp fault. -/
def TimeFault.message : TimeFault → String
  | .invalid => "input contains invalid characters"
  | .tooShort => "premature end of input"
  | .tooLong => "trailing input"
  | .outOfRange => "input is out of range"
  | .impossible => "no possible date and time matching input"

/-- Reads `min … max` decimal digits: their value and the rest. No text at all is too short, a
non-digit where a digit must stand is invalid. -/
def digits (cs : List Char) (min max : Nat) : Except TimeFault (Nat × List Char) :=
  let ds := (cs.take max).takeWhile Char.isDigit
  if cs.isEmpty then .error .tooShort
  else if ds.length < min then .error .invalid
  else .ok (ds.foldl (fun n c => n * 10 + (c.toNat - 48)) 0, cs.drop ds.length)

/-- Reads blanks then a number of one or two digits no greater than `most` and no less than
`least`. -/
def field2 (cs : List Char) (least most : Nat) : Except TimeFault (Nat × List Char) := do
  let (n, rest) ← digits (skipBlanks cs) 1 2
  if least ≤ n ∧ n ≤ most then pure (n, rest) else .error .outOfRange

/-- Reads blanks then an exact character. -/
def literal (c : Char) (cs : List Char) : Except TimeFault (List Char) :=
  match skipBlanks cs with
  | d :: rest => if d = c then .ok rest else .error .invalid
  | [] => .error .tooShort

/-- The largest value of a signed 64-bit word. -/
def wordMax : Nat := Nat.pow 2 63 - 1

/-- Reads a year: up to four digits, or any number of digits after a sign, within the range of
a signed 32-bit word. -/
def year (cs : List Char) : Except TimeFault (Int × List Char) := do
  let (y, rest) ← match skipBlanks cs with
    | '-' :: rest => do
      let (n, r) ← digits rest 1 rest.length
      if n > wordMax then .error .outOfRange else pure (-(n : Int), r)
    | '+' :: rest => do
      let (n, r) ← digits rest 1 rest.length
      if n > wordMax then .error .outOfRange else pure ((n : Int), r)
    | cs => do
      let (n, r) ← digits cs 1 4
      pure ((n : Int), r)
  if -(Nat.pow 2 31 : Int) ≤ y ∧ y < (Nat.pow 2 31 : Int) then pure (y, rest) else .error .outOfRange

/-- Reads an optional fraction: the nanoseconds of its first nine digits. -/
def fraction (cs : List Char) : Except TimeFault (Nat × List Char) :=
  match cs with
  | '.' :: rest => do
    let (n, r) ← digits rest 1 9
    let used := rest.length - r.length
    pure (n * Nat.pow 10 (9 - used), r.dropWhile Char.isDigit)
  | _ => .ok (0, cs)

/-- Whether a character is a minus sign: the hyphen or U+2212. -/
def isMinus (c : Char) : Bool := c = '-' || c.toNat = 0x2212

/-- The fault for a place that needs two digits but holds fewer than two characters: a
character that takes two or more bytes fills the place, so it is invalid, and anything less is
too short. -/
def shortPair : List Char → TimeFault
  | [c] => if c.utf8Size ≥ 2 then .invalid else .tooShort
  | _ => .tooShort

/-- Reads an offset in seconds east of UTC: `Z`, `z`, `UTC` in any case, or a sign, two hour
digits, optional colons or blanks, and two minute digits below 60. -/
def offset (cs : List Char) : Except TimeFault (Int × List Char) :=
  match cs with
  | 'Z' :: rest | 'z' :: rest => .ok (0, rest)
  | a :: b :: c :: rest =>
    if (a.toUpper, b.toUpper, c.toUpper) = ('U', 'T', 'C') then .ok (0, rest)
    else signed (a :: b :: c :: rest)
  | _ => signed cs
where
  /-- A sign, two hour digits, optional colons or blanks, two minute digits. -/
  signed (cs : List Char) : Except TimeFault (Int × List Char) :=
    match cs with
    | [] => .error .tooShort
    | s :: rest =>
      if s = '+' ∨ isMinus s then
        match rest with
        | h1 :: h2 :: rest =>
          if h1.isDigit && h2.isDigit then
            let rest := rest.dropWhile fun c => c = ':' || isBlank c
            match rest with
            | m1 :: m2 :: more =>
              if m1.isDigit && m2.isDigit then
                if m1 ≤ '5' then
                  let secs : Int := ((h1.toNat - 48) * 10 + (h2.toNat - 48)) * 3600
                    + ((m1.toNat - 48) * 10 + (m2.toNat - 48)) * 60
                  .ok (if isMinus s then -secs else secs, more)
                else .error .outOfRange
              else .error .invalid
            | rest => .error (shortPair rest)
          else .error .invalid
        | rest => .error (shortPair rest)
      else .error .invalid

/-- The first day that can be written, -262143-01-01. -/
def firstDay : Int := daysOfDate (-262143) 1 1

/-- The last day that can be written, +262142-12-31. -/
def lastDay : Int := daysOfDate 262142 12 31

/-- Reads a timestamp and moves it to UTC. -/
def read (text : String) : Except TimeFault Instant := do
  let (y, cs) ← year text.toList
  let cs ← literal '-' cs
  let (mo, cs) ← field2 cs 1 12
  let cs ← literal '-' cs
  let (d, cs) ← field2 cs 1 31
  let cs ← match cs with
    | c :: rest => if c = 'T' || c = 't' || c = ' ' then pure rest else .error .invalid
    | [] => .error .tooShort
  let (h, cs) ← field2 cs 0 23
  let cs ← literal ':' cs
  let (mi, cs) ← field2 cs 0 59
  let cs ← literal ':' cs
  let (sec, cs) ← field2 cs 0 60
  let (nano, cs) ← fraction cs
  let (off, cs) ← offset (skipBlanks cs)
  if !(skipBlanks cs).isEmpty then .error .tooLong
  else if !(d ≤ monthLength y mo ∧ firstDay ≤ daysOfDate y mo d ∧ daysOfDate y mo d ≤ lastDay) then
    .error .outOfRange
  else if off.natAbs ≥ 86400 then .error .outOfRange
  else
    let (sec, nano) := if sec = 60 then (59, nano + 1000000000) else (sec, nano)
    let wall : Int := (h * 3600 + mi * 60 + sec : Nat)
    let utc := wall - off
    let day := daysOfDate y mo d + Int.fdiv utc 86400
    if day < firstDay ∨ lastDay < day then .error .impossible
    else pure ⟨day, (Int.fmod utc 86400).toNat, nano⟩

/-- Reads a timestamp, or nothing when it is refused. -/
def parse? (text : String) : Option Instant := (read text).toOption

end Instant

end RuleMachine
