import RuleMachine.Event
/-!
# Records

A record is a set of named JSON fields together with its kind. The kind names the record,
names the field that holds its state, and lists the rule-sets that govern its records, in
order. Rule-sets are referred to by `RuleSetRef`, a handle into the catalogue of compiled
rule-sets the records live with: two kinds that list the same handles in the same order are
governed by the very same compiled rule-sets.

The state of a record is the text of its state field. A missing field and a field that holds
anything but a string are the two ways reading it fails (`AccessError`).
-/

namespace RuleMachine

/-- A handle to a compiled rule-set: its place in the catalogue and its identifier. -/
structure RuleSetRef where
  slot : Nat
  id : RuleSetId
  deriving DecidableEq, Repr, Inhabited

/-- What a record is: its name, the field holding its state, and the rule-sets that govern
it, in order. -/
structure RecordKind where
  name : String
  stateField : String
  ruleSets : List RuleSetRef
  deriving DecidableEq, Repr, Inhabited

/-- Why the state of a value cannot be read. -/
inductive AccessError where
  /-- The record has no state field. -/
  | missingStateField (kind field : String)
  /-- The state field holds something other than a string. -/
  | stateFieldNotString (kind field : String)
  /-- A plan has no step of the given name holding a state-bearing value. -/
  | noInputStep (step : String)
  deriving DecidableEq, Repr

/-- The text of an access error. -/
def AccessError.message : AccessError → String
  | .missingStateField kind field => "record '" ++ kind ++ "' has no state field '" ++ field ++ "'"
  | .stateFieldNotString kind field =>
    "state field '" ++ field ++ "' of record '" ++ kind ++ "' is not a string"
  | .noInputStep step => "plan has no '" ++ step ++ "' step holding a state-bearing value"

/-- A record: its kind and its fields, sorted by name with each name once, as in a map. -/
structure Record where
  kind : RecordKind
  fields : Json.Members
  sorted : Json.Members.Sorted fields

instance : Inhabited Record := ⟨⟨default, [], Json.Members.sorted_nil⟩⟩

namespace RecordKind

/-- The state a field value names, for a record of this kind: the text of a string, an error
for any other value and for a missing one. -/
def readState (kind : RecordKind) : Option Json → Except AccessError StateName
  | some (.string s) => .ok s
  | some _ => .error (.stateFieldNotString kind.name kind.stateField)
  | none => .error (.missingStateField kind.name kind.stateField)

end RecordKind

namespace Record

/-- Records of one kind with the same fields are the same record. -/
theorem ext {a b : Record} (hkind : a.kind = b.kind) (hfields : a.fields = b.fields) : a = b := by
  cases a
  cases b
  cases hkind
  cases hfields
  rfl

/-- A record of the kind with no fields. -/
def empty (kind : RecordKind) : Record := ⟨kind, [], Json.Members.sorted_nil⟩

/-- The value of a field. -/
def get? (r : Record) (field : String) : Option Json := Json.Members.get? field r.fields

/-- The record with a field set to a value. -/
def withField (r : Record) (field : String) (value : Json) : Record :=
  { r with fields := Json.Members.insert field value r.fields,
           sorted := r.sorted.insert field value }

/-- The record of the kind with the fields written one by one, in order. -/
def ofFields (kind : RecordKind) (fields : Json.Members) : Record :=
  fields.foldl (fun r p => r.withField p.1 p.2) (empty kind)

/-- The state of the record: the text of its state field. -/
def stateName (r : Record) : Except AccessError StateName :=
  r.kind.readState (r.get? r.kind.stateField)

/-- The record with its state field set to the name. -/
def withStateName (r : Record) (name : StateName) : Record :=
  r.withField r.kind.stateField (.string name)

/-- The rule-sets that govern the record. -/
def ruleSets (r : Record) : List RuleSetRef := r.kind.ruleSets

/-- Records are equal when their kinds are and their fields are equal as JSON. -/
def beq (a b : Record) : Bool :=
  decide (a.kind = b.kind) && Json.beqMembers a.fields b.fields

end Record

end RuleMachine
