import RuleMachine.Snapshot.Basic
import RuleMachine.Json.Skim
import RuleMachine.Json.Print
import RuleMachine.Sorted
/-!
# Snapshots as JSON text

`Snapshot.toJson` writes a snapshot as an object whose members come in a fixed order:
`version`, `id`, `generated_at`, `rule_set`, `transitions`, `bypasses`, `docs`, `states`; a
row is an object in the order of its fields. `Snapshot.toText` is that object indented by
two spaces a level.

`Snapshot.ofText` reads a snapshot back, record by record, from the text skimmed for its
grammar (`Json.skim`), under these rules:

* a record is an object or an array. An object gives the fields it names and may hold
  other members, which are passed over unread, so their numbers may be of any size and their
  escapes lone surrogates; its keys must all be text, a field named twice is refused, and a
  missing field is refused unless it is a doc, which is then absent. An array gives every
  field in order, no more and no fewer;
* a field is read in full (`Skimmed.toJson?`), as `Json.parse` reads it;
* an event is `"Any"`, `{"Any": null}` or `{"Named": name}`; a doc key is
  `{"Transition": [state, event]}` or `{"Event": name}`. A one-member object holds nothing
  else;
* the version is an integer written in digits alone (no sign, point or exponent) below
  `2 ^ 32`;
* the identifier and the instant are read from their texts (`Uuid.parse?`,
  `Instant.parse?`); sets of states are arrays of names, sorted and without repeats once
  read.

The version is not checked here; `Snapshot.checkVersion` does that on what was read.
-/

namespace RuleMachine

namespace TransitionRow

/-- The JSON form of a transition row. -/
def toJson (r : TransitionRow) : Json :=
  .object [("state", .string r.state), ("event", r.event.toJson), ("owner", .string r.owner),
    ("destinations", Json.strings r.destinations)]

end TransitionRow

/-- The JSON form of a bypass row. -/
def BypassRow.toJson (r : BypassRow) : Json :=
  .object [("event", .string r.event), ("owner", .string r.owner)]

/-- The JSON form of a doc row. -/
def DocRow.toJson (r : DocRow) : Json :=
  .object [("key", r.key.toJson), ("doc", match r.doc with | some d => .string d | none => .null)]

namespace Snapshot

/-- The JSON form of a snapshot, members in the order of its fields. -/
def toJson (s : Snapshot) : Json :=
  .object [("version", Json.nat s.version), ("id", .string s.id.text),
    ("generated_at", .string s.generatedAt.render), ("rule_set", .string s.ruleSet),
    ("transitions", .array (s.transitions.map TransitionRow.toJson)),
    ("bypasses", .array (s.bypasses.map BypassRow.toJson)),
    ("docs", .array (s.docs.map DocRow.toJson)), ("states", Json.strings s.states)]

/-- The indented JSON text of a snapshot. -/
def toText (s : Snapshot) : String := s.toJson.pretty

end Snapshot

namespace Snapshot.Reading

/-- The values of a record's fields, by name, from an object or an array. Each field is
present or absent; an array must give them all. An object's keys must all be text and no field
may be named twice; its other members are left unread. -/
def fields (names : List String) : Skimmed → Option (List (Option Skimmed))
  | .object ms => do
    let keys ← ms.mapM fun m => Skimmed.textOf m.1
    let named := keys.zip (ms.map (·.2))
    if names.any (fun n => (keys.filter (· == n)).length > 1) then none
    else some (names.map fun n => (named.find? (·.1 == n)).map (·.2))
  | .array xs => if xs.length = names.length then some (xs.map some) else none
  | _ => none

/-- A field read in full, then by `item`. -/
def whole (item : Json → Option α) (j : Skimmed) : Option α := j.toJson?.bind item

/-- A text. -/
def text : Json → Option String
  | .string s => some s
  | _ => none

/-- A list read item by item. -/
def list (item : Json → Option α) : Json → Option (List α)
  | .array xs => xs.mapM item
  | _ => none

/-- A list of records, each read by `row`. -/
def rows (row : Skimmed → Option α) : Skimmed → Option (List α)
  | .array xs => xs.mapM row
  | _ => none

/-- A set of names: sorted and without repeats. -/
def nameSet (j : Json) : Option (List String) := (list text j).map SortedSet.ofList

/-- An event. -/
def event : Json → Option Event
  | .string "Any" => some .any
  | .object [("Any", .null)] => some .any
  | .object [("Named", .string n)] => some (.named n)
  | _ => none

/-- A doc key. -/
def docKey : Json → Option DocKey
  | .object [("Transition", .array [.string s, e])] => (event e).map fun e => .transition ⟨s, e⟩
  | .object [("Event", .string n)] => some (.event n)
  | _ => none

/-- A version: an integer from `0` to `2 ^ 32 - 1`. -/
def version : Json → Option Nat
  | .number (.integer i) => if 0 ≤ i ∧ i < (Nat.pow 2 32 : Int) then some i.toNat else none
  | _ => none

/-- An optional text: absent or `null` is none. -/
def optText : Option Skimmed → Option (Option String)
  | none => some none
  | some j =>
    match j.toJson? with
    | some .null => some none
    | some (.string s) => some (some s)
    | _ => none

/-- A transition row. -/
def transitionRow (j : Skimmed) : Option TransitionRow := do
  match ← fields ["state", "event", "owner", "destinations"] j with
  | [s, e, o, d] =>
    pure ⟨← (← s) |> whole text, ← (← e) |> whole event, ← (← o) |> whole text,
      ← (← d) |> whole nameSet⟩
  | _ => none

/-- A bypass row. -/
def bypassRow (j : Skimmed) : Option BypassRow := do
  match ← fields ["event", "owner"] j with
  | [e, o] => pure ⟨← (← e) |> whole text, ← (← o) |> whole text⟩
  | _ => none

/-- A doc row; a missing doc is absent. -/
def docRow (j : Skimmed) : Option DocRow := do
  match ← fields ["key", "doc"] j with
  | [k, d] => pure ⟨← (← k) |> whole docKey, ← optText d⟩
  | _ => none

/-- A snapshot record. -/
def snapshot (j : Skimmed) : Option Snapshot := do
  match ← fields ["version", "id", "generated_at", "rule_set", "transitions", "bypasses", "docs",
      "states"] j with
  | [v, i, g, r, t, b, d, s] =>
    pure {
      version := ← (← v) |> whole version
      id := ← (← (← i) |> whole text) |> Uuid.parse?
      generatedAt := ← (← (← g) |> whole text) |> Instant.parse?
      ruleSet := ← (← r) |> whole text
      transitions := ← (← t) |> rows transitionRow
      bypasses := ← (← b) |> rows bypassRow
      docs := ← (← d) |> rows docRow
      states := ← (← s) |> whole nameSet }
  | _ => none

end Snapshot.Reading

/-- Reads a snapshot from its JSON text; the version is not checked. -/
def Snapshot.ofText (text : String) : Except SnapshotError Snapshot :=
  match Json.skim text with
  | .error _ => .error .malformed
  | .ok j => match Snapshot.Reading.snapshot j with
    | some s => .ok s
    | none => .error .malformed

end RuleMachine
