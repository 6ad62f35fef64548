import RuleMachine.Snapshot.Basic
/-!
# Snapshots as bytes

`Snapshot.toBytes` lays a snapshot out field after field, with nothing between fields:

* a count or a length is eight bytes and the version four, least significant first;
* a text is the length of its UTF-8 bytes, then the bytes;
* the identifier is the length `16`, then its sixteen bytes;
* the instant is its text (`Instant.render`);
* a list or a set is its length, then its items;
* an event is the four-byte choice `0` then the name, or `1` for the wildcard; a doc key is
  `0` then state and event, or `1` then the event name;
* a doc is the byte `0` when absent, or `1` then the text.

`Snapshot.ofBytes` reads that layout from the front of the bytes and ignores whatever
follows a whole snapshot. Reading fails when the bytes run out, a choice or presence byte
is none of those above, a text is not UTF-8, the identifier is not sixteen bytes, or the
instant's text does not read (`Instant.parse?`). A set is sorted and loses its repeats once
read. The version is not checked here; `Snapshot.checkVersion` does that on what was read.
-/

namespace RuleMachine

namespace Bytes

/-- The `width` bytes of `n`, least significant first. -/
def littleEndian : Nat → Nat → List UInt8
  | 0, _ => []
  | width + 1, n => (n % 256).toUInt8 :: littleEndian width (n / 256)

/-- A count or length: eight bytes. -/
def count (n : Nat) : List UInt8 := littleEndian 8 n

/-- A text: its UTF-8 length, then its UTF-8 bytes. -/
def text (s : String) : List UInt8 :=
  let bytes := s.toUTF8.data.toList
  count bytes.length ++ bytes

/-- A list: its length, then its items. -/
def list (item : α → List UInt8) (xs : List α) : List UInt8 :=
  count xs.length ++ xs.flatMap item

/-- A reader of a value from the front of some bytes: the value and the bytes after it. -/
abbrev Reader (α : Type) := List UInt8 → Option (α × List UInt8)

/-- The number of `width` bytes, least significant first. -/
def readLittleEndian : Nat → Reader Nat
  | 0, bs => some (0, bs)
  | width + 1, b :: bs => (readLittleEndian width bs).map fun (n, rest) => (b.toNat + 256 * n, rest)
  | _ + 1, [] => none

/-- A count or length. -/
def readCount : Reader Nat := readLittleEndian 8

/-- The next `n` bytes. -/
def readExactly (n : Nat) : Reader (List UInt8) := fun bs =>
  if bs.length < n then none else some (bs.take n, bs.drop n)

/-- A text: a length, then that many bytes of UTF-8. -/
def readText : Reader String := fun bs => do
  let (n, bs) ← readCount bs
  let (raw, bs) ← readExactly n bs
  let s ← String.fromUTF8? ⟨raw.toArray⟩
  pure (s, bs)

/-- `n` items, one after another. -/
def readItems (item : Reader α) : Nat → Reader (List α)
  | 0, bs => some ([], bs)
  | n + 1, bs => do
    let (x, bs) ← item bs
    let (xs, bs) ← readItems item n bs
    pure (x :: xs, bs)

/-- A list: a length, then that many items. -/
def readList (item : Reader α) : Reader (List α) := fun bs => do
  let (n, bs) ← readCount bs
  readItems item n bs

end Bytes

open Bytes

namespace Event

/-- The bytes of an event. -/
def toBytes : Event → List UInt8
  | .named n => littleEndian 4 0 ++ text n
  | .any => littleEndian 4 1

/-- Reads an event. -/
def readBytes : Reader Event := fun bs => do
  let (choice, bs) ← readLittleEndian 4 bs
  match choice with
  | 0 => (readText bs).map fun (n, rest) => (.named n, rest)
  | 1 => some (.any, bs)
  | _ => none

end Event

namespace DocKey

/-- The bytes of a doc key. -/
def toBytes : DocKey → List UInt8
  | .transition k => littleEndian 4 0 ++ text k.state ++ k.event.toBytes
  | .event e => littleEndian 4 1 ++ text e

/-- Reads a doc key. -/
def readBytes : Reader DocKey := fun bs => do
  let (choice, bs) ← readLittleEndian 4 bs
  match choice with
  | 0 => do
    let (s, bs) ← readText bs
    let (e, bs) ← Event.readBytes bs
    pure (.transition ⟨s, e⟩, bs)
  | 1 => (readText bs).map fun (n, rest) => (.event n, rest)
  | _ => none

end DocKey

/-- The bytes of a transition row. -/
def TransitionRow.toBytes (r : TransitionRow) : List UInt8 :=
  text r.state ++ r.event.toBytes ++ text r.owner ++ list text r.destinations

/-- Reads a transition row. -/
def TransitionRow.readBytes : Reader TransitionRow := fun bs => do
  let (s, bs) ← readText bs
  let (e, bs) ← Event.readBytes bs
  let (o, bs) ← readText bs
  let (d, bs) ← readList readText bs
  pure (⟨s, e, o, SortedSet.ofList d⟩, bs)

/-- The bytes of a bypass row. -/
def BypassRow.toBytes (r : BypassRow) : List UInt8 := text r.event ++ text r.owner

/-- Reads a bypass row. -/
def BypassRow.readBytes : Reader BypassRow := fun bs => do
  let (e, bs) ← readText bs
  let (o, bs) ← readText bs
  pure (⟨e, o⟩, bs)

/-- The bytes of a doc row. -/
def DocRow.toBytes (r : DocRow) : List UInt8 :=
  r.key.toBytes ++ match r.doc with
    | none => [0]
    | some d => 1 :: text d

/-- Reads a doc row. -/
def DocRow.readBytes : Reader DocRow := fun bs => do
  let (k, bs) ← DocKey.readBytes bs
  match bs with
  | 0 :: bs => pure (⟨k, none⟩, bs)
  | 1 :: bs => (readText bs).map fun (d, rest) => (⟨k, some d⟩, rest)
  | _ => none

namespace Snapshot

/-- The bytes of a snapshot. -/
def toBytes (s : Snapshot) : List UInt8 :=
  littleEndian 4 s.version ++ (count 16 ++ s.id.bytes) ++ text s.generatedAt.render
    ++ text s.ruleSet ++ list TransitionRow.toBytes s.transitions
    ++ list BypassRow.toBytes s.bypasses ++ list DocRow.toBytes s.docs ++ list text s.states

/-- Reads a snapshot from the front of some bytes. -/
def readBytes : Reader Snapshot := fun bs => do
  let (version, bs) ← readLittleEndian 4 bs
  let (n, bs) ← readCount bs
  let (raw, bs) ← readExactly n bs
  let id ← Uuid.ofBytes? raw
  let (stamp, bs) ← readText bs
  let generatedAt ← Instant.parse? stamp
  let (ruleSet, bs) ← readText bs
  let (transitions, bs) ← readList TransitionRow.readBytes bs
  let (bypasses, bs) ← readList BypassRow.readBytes bs
  let (docs, bs) ← readList DocRow.readBytes bs
  let (states, bs) ← readList readText bs
  pure (⟨version, id, generatedAt, ruleSet, transitions, bypasses, docs, SortedSet.ofList states⟩, bs)

/-- Reads a snapshot from bytes, ignoring any that follow it; the version is not checked. -/
def ofBytes (bytes : List UInt8) : Except SnapshotError Snapshot :=
  match readBytes bytes with
  | some (s, _) => .ok s
  | none => .error .malformed

end Snapshot

end RuleMachine
