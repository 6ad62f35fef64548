import RuleMachine.Value.Record
/-!
# Changesets

A changeset stages changes to a record without making them: it holds the record as it was,
the staged field values, and the errors found so far. It is valid while it has no error.
Reading a field sees the staged value first; the state is the staged state field when there
is one, read under the record's kind, and the record's state otherwise. Applying the
changeset writes every staged value into the record, in field order. Staged values are kept
as a map is, sorted by field with each field once (`Changeset.sorted`), so each field of the
applied record ends with its staged value, the one `Changeset.get?` reads.
-/

namespace RuleMachine

/-- An error attached to a field of a changeset. -/
structure FieldError where
  field : String
  message : String
  deriving DecidableEq, Repr, Inhabited

/-- A record with staged changes and the errors found so far. -/
structure Changeset where
  data : Record
  changes : Json.Members
  sorted : Json.Members.Sorted changes
  errors : List FieldError

instance : Inhabited Changeset := ⟨⟨default, [], Json.Members.sorted_nil, []⟩⟩

namespace Changeset

/-- Changesets of one record with the same staged values and errors are the same changeset. -/
theorem ext {a b : Changeset} (hdata : a.data = b.data) (hchanges : a.changes = b.changes)
    (herrors : a.errors = b.errors) : a = b := by
  cases a
  cases b
  cases hdata
  cases hchanges
  cases herrors
  rfl

/-- A changeset of the record with nothing staged. -/
def ofRecord (r : Record) : Changeset := ⟨r, [], Json.Members.sorted_nil, []⟩

/-- Stages a field value. -/
def change (c : Changeset) (field : String) (value : Json) : Changeset :=
  { c with changes := Json.Members.insert field value c.changes,
           sorted := c.sorted.insert field value }

/-- Adds an error after those already there. -/
def addError (c : Changeset) (field message : String) : Changeset :=
  { c with errors := c.errors ++ [⟨field, message⟩] }

/-- The value of a field: the staged one if any, else the record's. -/
def get? (c : Changeset) (field : String) : Option Json :=
  match Json.Members.get? field c.changes with
  | some v => some v
  | none => c.data.get? field

/-- Whether the changeset has no error. -/
def isValid (c : Changeset) : Bool := c.errors.isEmpty

/-- The record with every staged value written, in field order. -/
def apply (c : Changeset) : Record :=
  c.changes.foldl (fun r p => r.withField p.1 p.2) c.data

/-- The state: the staged state field if there is one, else the record's state. -/
def stateName (c : Changeset) : Except AccessError StateName :=
  match Json.Members.get? c.data.kind.stateField c.changes with
  | some staged => c.data.kind.readState (some staged)
  | none => c.data.stateName

/-- Stages the state field. -/
def withStateName (c : Changeset) (name : StateName) : Changeset :=
  c.change c.data.kind.stateField (.string name)

/-- The rule-sets that govern the record. -/
def ruleSets (c : Changeset) : List RuleSetRef := c.data.ruleSets

/-- Changesets are equal when their records, staged values and errors are. -/
def beq (a b : Changeset) : Bool :=
  a.data.beq b.data && Json.beqMembers a.changes b.changes && decide (a.errors = b.errors)

end Changeset

end RuleMachine
