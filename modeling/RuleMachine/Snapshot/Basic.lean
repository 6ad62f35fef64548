import RuleMachine.RuleSet.Basic
import RuleMachine.Time.Instant
import RuleMachine.Note
import RuleMachine.Snapshot.Uuid
/-!
# Snapshots of compiled rule-sets

A `Snapshot` is what can be told about a compiled rule-set without its bodies: the rows of
its table, its bypasses, the docs of its declarations and its states, with a format version,
an identifier and the instant it was taken. It is for inspection and comparison; bodies are
functions and have no written form, so a snapshot is never turned back into a rule-set.

`Snapshot.capture` copies the rows in the rule-set's own orders: the table by key, bypasses by
event, docs by key. Two snapshots have the same rules (`Snapshot.sameRules`) when everything
but version, identifier and instant agrees.

A snapshot that is read back is accepted only in the current format version
(`Snapshot.checkVersion`); any other version is refused, with a warning that names the snapshot.
-/

namespace RuleMachine

/-- A row of a snapshot's transition table. -/
structure TransitionRow where
  state : StateName
  event : Event
  owner : RuleSetId
  destinations : List StateName
  deriving DecidableEq, Repr

/-- A row of a snapshot's bypass map. -/
structure BypassRow where
  event : EventName
  owner : RuleSetId
  deriving DecidableEq, Repr

/-- The doc of a transition or a bypass, or its absence. -/
structure DocRow where
  key : DocKey
  doc : Option String
  deriving DecidableEq, Repr

/-- A snapshot of a compiled rule-set. -/
structure Snapshot where
  version : Nat
  id : Uuid
  generatedAt : Instant
  ruleSet : RuleSetId
  transitions : List TransitionRow
  bypasses : List BypassRow
  docs : List DocRow
  states : List StateName
  deriving DecidableEq, Repr

/-- Why a snapshot cannot be loaded. -/
inductive SnapshotError where
  /-- The text or bytes do not spell a snapshot. -/
  | malformed
  /-- The snapshot is in a format version other than the current one. -/
  | unsupportedVersion (found : Nat)
  deriving DecidableEq, Repr

namespace Snapshot

/-- The current format version. -/
def currentVersion : Nat := 1

/-- The snapshot of a rule-set, with the identifier and instant it is given. -/
def capture (rs : RuleSet) (id : Uuid) (takenAt : Instant) : Snapshot where
  version := currentVersion
  id := id
  generatedAt := takenAt
  ruleSet := rs.id
  transitions := rs.table.map fun (k, row) => ⟨k.state, k.event, row.owner, row.destinations⟩
  bypasses := rs.bypasses.map fun (e, owner) => ⟨e, owner⟩
  docs := rs.docs.map fun (key, doc) => ⟨key, doc⟩
  states := rs.states

/-- Whether two snapshots tell the same rules, whatever their versions, identifiers and
instants. -/
def sameRules (a b : Snapshot) : Bool :=
  a.ruleSet == b.ruleSet && decide (a.transitions = b.transitions) && decide (a.bypasses = b.bypasses)
    && decide (a.docs = b.docs) && a.states == b.states

/-- The warning left when a snapshot of another version is refused. -/
def rejectionNote (s : Snapshot) : Note :=
  ⟨.warn, "rejecting snapshot " ++ s.id.text ++ " with version " ++ toString s.version⟩

/-- Accepts a snapshot that was read back when it is in the current version. -/
def checkVersion (s : Snapshot) : Except SnapshotError Snapshot × List Note :=
  if s.version = currentVersion then (.ok s, [])
  else (.error (.unsupportedVersion s.version), [s.rejectionNote])

end Snapshot

/-- The text of a snapshot error. -/
def SnapshotError.message : SnapshotError → String
  | .malformed => "Deserialization failed"
  | .unsupportedVersion found =>
    "Unsupported snapshot version " ++ toString found ++ ", supported: "
      ++ toString Snapshot.currentVersion

end RuleMachine
