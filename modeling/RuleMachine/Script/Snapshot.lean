import RuleMachine.Script.Command
import RuleMachine.Snapshot.Text
import RuleMachine.Snapshot.Binary
/-!
# Snapshot commands

- `snapshot` compiles the rule-set written in `rule_set`, which must be present, takes its
  snapshot with the given `uuid` (the nil identifier when absent), `generated_at`
  (2020-01-01T00:00:00Z when absent) and `version` (the current one when absent), writes it as
  JSON text and as bytes, and reads each form back. For each it reports whether what was read equals the snapshot and whether it
  has the same rules, or why it could not be loaded.
- `snapshot_load` reads a snapshot from the JSON text in `json` or the hex digits of its
  bytes in `hex`, and reports it or why it could not be loaded. Each byte is two characters of
  the text read as a hex number, so a pair may also be `+` and one digit; the text must be ASCII.

A snapshot of another version reads back but is refused (`Snapshot.checkVersion`), and the refusal
leaves a warning.
-/

namespace RuleMachine

namespace Script

/-- The answer for a snapshot that could not be loaded. -/
def snapshotErrorJson : SnapshotError → Json
  | .malformed => Json.obj [("error", .string "DeserializationFailed")]
  | e@(.unsupportedVersion _) =>
    Json.obj [("error", .string "UnsupportedVersion"), ("message", .string e.message)]

/-- The report of a snapshot read back, compared with the one it was written from. -/
def reloadJson (written : Snapshot) : Except SnapshotError Snapshot → Json
  | .ok s => Json.obj [("equal", .bool (decide (s = written))), ("same_rules", .bool (s.sameRules written))]
  | .error e => snapshotErrorJson e

/-- Reads an optional member of a command with `read`, or takes `default` when it is
absent. -/
def optionalMember (cmd : Json.Members) (key : String) (read : Json → Except String α)
    (default : α) : Except String α :=
  match Json.Members.get? key cmd with
  | none => .ok default
  | some j => read j

/-- The snapshot identifier written in a command. -/
def readUuid : Json → Except String Uuid
  | .string s => (Uuid.read s).mapError fun e => "UUID parsing failed: " ++ e.message
  | j => .error (invalidType j "a formatted UUID string")

/-- The instant written in a command. -/
def readInstant : Json → Except String Instant
  | .string s => (Instant.read s).mapError Instant.TimeFault.message
  | j => .error (invalidType j "an RFC 3339 formatted date and time string")

/-- The version written in a command: an integer from `0` to `2 ^ 32 - 1`. -/
def readVersion : Json → Except String Nat
  | .number (.integer i) =>
    if 0 ≤ i ∧ i < (Nat.pow 2 32 : Int) then .ok i.toNat
    else .error ("invalid value: integer `" ++ toString i ++ "`, expected u32")
  | j => .error (invalidType j "u32")

/-- The value of a byte that is an ASCII hex digit. -/
def hexByteValue (b : UInt8) : Option Nat := Uuid.hexValue (Char.ofNat b.toNat)

/-- The byte of a pair of bytes read as a hex number: two hex digits, or `+` and one. -/
def pairByte (a b : UInt8) : Option UInt8 :=
  if a = 43 then (hexByteValue b).map Nat.toUInt8
  else do
    let h ← hexByteValue a
    let l ← hexByteValue b
    pure (h * 16 + l).toUInt8

/-- The bytes of a list of bytes read two at a time; none for a pair that is no hex number. -/
def bytesOfPairs : List UInt8 → Option (List UInt8)
  | a :: b :: rest => do
    let x ← pairByte a b
    let more ← bytesOfPairs rest
    pure (x :: more)
  | _ => some []

/-- The bytes written as hex text: its bytes taken in pairs, each pair a hex number. A text of
odd length, or with a character beyond ASCII, is refused as of uneven length before any pair is
read. -/
def readHex (text : String) : Except String (List UInt8) :=
  let raw := text.toUTF8.toList
  if raw.length % 2 = 1 ∨ raw.any (fun b => b ≥ 128) then .error "hex string must have even length"
  else match bytesOfPairs raw with
    | some bytes => .ok bytes
    | none => .error "bad hex digit"

/-- The first instant of 2020-01-01, the instant of a snapshot when none is given. -/
def defaultInstant : Instant := ⟨Instant.daysOfDate 2020 1 1, 0, 0⟩

/-- The answer to a `snapshot` command. After the rule-set compiles, the instant, the
identifier and the version are read in that order; a refusal there is bad input and keeps the
notes of compiling. -/
def snapshotAnswer (cmd : Json.Members) : Answered :=
  match Json.Members.get? "rule_set" cmd with
  | none => (badInput "snapshot needs rule_set", [])
  | some written =>
  match readRuleSet written with
  | .error e => (specErrorJson e, [])
  | .ok b =>
    let (result, notes) := compileNoted b
    match result with
    | .error e => (compileErrorJson e, notes)
    | .ok rs =>
      let args : Except String (Instant × Uuid × Nat) := do
        let takenAt ← optionalMember cmd "generated_at" readInstant defaultInstant
        let id ← optionalMember cmd "uuid" readUuid Uuid.nil
        let version ← optionalMember cmd "version" readVersion Snapshot.currentVersion
        pure (takenAt, id, version)
      match args with
      | .error m => (badInput m, notes)
      | .ok (takenAt, id, version) =>
        let s := { Snapshot.capture rs id takenAt with version := version }
        let text := s.toText
        let bytes := s.toBytes
        let (fromText, textNotes) := match Snapshot.ofText text with
          | .ok t => t.checkVersion
          | .error e => (.error e, [])
        let (fromBytes, byteNotes) := match Snapshot.ofBytes bytes with
          | .ok t => t.checkVersion
          | .error e => (.error e, [])
        (Json.obj [("json", .string text), ("bytes", .string (Uuid.hexOf bytes)),
            ("from_json", reloadJson s fromText), ("from_bytes", reloadJson s fromBytes)],
          notes ++ textNotes ++ byteNotes)

/-- The answer to a `snapshot_load` command: `json`, when present, must be a string; else `hex`
must be. -/
def snapshotLoadAnswer (cmd : Json.Members) : Except String Answered := do
  let read ← match Json.Members.get? "json" cmd with
    | some (.string text) => pure (Snapshot.ofText text)
    | some _ => throw "json must be a string"
    | none => do
      let digits ← requireText (.object cmd) "hex"
      let bytes ← readHex digits
      pure (Snapshot.ofBytes bytes)
  match read with
  | .error e => pure (snapshotErrorJson e, [])
  | .ok s =>
    match s.checkVersion with
    | (.ok s, notes) => pure (Json.obj [("snapshot", Json.normalize s.toJson)], notes)
    | (.error e, notes) => pure (snapshotErrorJson e, notes)

end Script

end RuleMachine
