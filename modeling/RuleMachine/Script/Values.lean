import RuleMachine.Script.Body
import RuleMachine.Dispatch.Run
/-!
# Values written as JSON

How a scripted session writes the values it acts on, and how it reports them.

A value is written as a tagged object (`tagged`): `{"record": fields}`,
`{"changeset": {"data"?: fields, "changes"?: fields, "errors"?: [[field, message], …]}}` (changes
staged in key order, then the errors added), `{"plan": [step, …]}` with steps
`{"name", "state": value}`, `{"name", "data": v}`, `{"name", "rename": {"source", "to"}}` or
`{"name", "run": job}`, or `{"foreign": {"kind"?: kind, "fields"?: fields}}` for a record of a
kind of its own. Fields must be an object, the errors and the steps a list, and each error a
field and a message, where they are given; missing ones are empty.

A kind is written `{"name"?, "state_field"?, "use"?: [index, …]}`, by default `thing`, `state`
and every rule-set of the session in order, read in that order; a name or state field that is
present and not `null` must be a string, and `use`, when present, a list of indices of the
session's rule-sets. A kind that is no object at all has no members and takes every default.

Every run step written gets a fresh stamp, so a written run step is never the same step as
one already there.

A value is reported as `{"record": fields}`, `{"changeset": {"data", "changes", "errors"}}` or
`{"plan": [entry, …]}`, where an entry shows the step name and the first step of that name:
`"value": {"state": value}` or `{"data": v}`, `"run": true`, or `"rename": {"source", "to"}`.
-/

namespace RuleMachine

namespace Script

/-- What building written values needs: the session's rule-set handles and kind, and the next
free stamp for run steps. -/
structure Workshop where
  refs : List RuleSetRef
  kind : RecordKind
  stamp : Nat

/-- The rule-set handle a `use` entry names: a natural number below the number of rule-sets. -/
def readUse (refs : List RuleSetRef) : Json → Except String RuleSetRef
  | .number (.integer i) =>
    if i < 0 then .error "use entries are indices"
    else match refs[i.toNat]? with
      | some r => .ok r
      | none => .error "use index out of range"
  | _ => .error "use entries are indices"

/-- Reads a kind: its name, then its state field, then the listed rule-sets for `use`, each
taking its default when missing or `null`. -/
def readKind (refs : List RuleSetRef) (j : Json) : Except String RecordKind := do
  let name ← optionalText j "name"
  let stateField ← optionalText j "state_field"
  let uses ← match j.get? "use" with
    | some (.array xs) => xs.mapM (readUse refs)
    | some _ => .error "use must be a list"
    | none => pure refs
  pure ⟨name.getD "thing", stateField.getD "state", uses⟩

/-- The fields of a record, which must be an object. -/
def fieldsOf : Json → Except String Json.Members
  | .object ms => .ok ms
  | _ => .error "record fields must be an object"

/-- The fields given under `key`, empty when missing. -/
def fieldsAt (j : Json) (key : String) : Except String Json.Members :=
  match j.get? key with
  | some f => fieldsOf f
  | none => .ok []

/-- A written error of a changeset: a field and a message. -/
def readFieldError : Json → Except String (String × String)
  | .array [.string f, .string m] => .ok (f, m)
  | _ => .error "error must be [field, message]"

/-- The written errors of a changeset, empty when missing. -/
def readFieldErrors (c : Json) : Except String (List (String × String)) :=
  match c.get? "errors" with
  | some (.array es) => es.mapM readFieldError
  | some _ => .error "errors must be a list"
  | none => .ok []

mutual

/-- Reads a written value, within `fuel` steps. -/
def readValueIn : Nat → Workshop → Json → Except String (Subject × Workshop)
  | 0, _, _ => .error "value too deep"
  | fuel + 1, w, j => do
    let (k, arg) ← tagged j
    match k with
    | "changeset" => do
      let data ← fieldsAt arg "data"
      let changes ← match arg.get? "changes" with
        | some (.object ms) => pure ms
        | some _ => .error "changes must be an object"
        | none => pure []
      let errors ← readFieldErrors arg
      let cs := changes.foldl (fun c (f, v) => c.change f v) (Changeset.ofRecord (Record.ofFields w.kind data))
      let cs := errors.foldl (fun c (f, m) => c.addError f m) cs
      pure (.changeset cs, w)
    | "foreign" => do
      let kind ← readKind w.refs ((arg.get? "kind").getD .null)
      let fs ← fieldsAt arg "fields"
      pure (.record (Record.ofFields kind fs), w)
    | "plan" => do
      let steps ← match arg with
        | .array xs => pure xs
        | _ => .error "plan must be a list"
      let (p, w) ← readPlanSteps fuel w Plan.empty steps
      pure (Subject.ofPlan p, w)
    | "record" => (fieldsOf arg).map fun fs => (.record (Record.ofFields w.kind fs), w)
    | k => unknownTag "value" k

/-- Reads the steps of a written plan, within `fuel` steps: each a name and the first of
`state`, `data`, `rename` and `run` that it has. -/
def readPlanSteps : Nat → Workshop → Plan → List Json → Except String (Plan × Workshop)
  | _, w, p, [] => .ok (p, w)
  | 0, _, _, _ :: _ => .error "value too deep"
  | fuel + 1, w, p, j :: rest => do
    let n ← requireText j "name"
    match j.get? "state", j.get? "data", j.get? "rename", j.get? "run" with
    | some v, _, _, _ => do
      let (s, w) ← readValueIn fuel w v
      readPlanSteps fuel w (p.push n (.value (.state s))) rest
    | none, some v, _, _ => readPlanSteps fuel w (p.push n (.value (.data v))) rest
    | none, none, some r, _ => do
      let s ← requireText r "source"
      let t ← requireText r "to"
      readPlanSteps fuel w (p.push n (.rename s t)) rest
    | none, none, none, some r => do
      let job ← readJob r
      readPlanSteps fuel { w with stamp := w.stamp + 1 } (p.push n (.run job (some w.stamp))) rest
    | none, none, none, none => .error ("unknown plan step " ++ j.render)

end

/-- Reads a written value; the workshop comes back with the stamps it used. -/
def readValue (w : Workshop) (j : Json) : Except String (Subject × Workshop) :=
  readValueIn (fuelFor j) w j

/-- Each entry replaced by the first entry of its name. -/
def firstOfName (entries : List (String × Json)) : List Json :=
  entries.map fun (n, j) => ((entries.find? (·.1 == n)).map (·.2)).getD j

mutual

/-- The report of a value. -/
def valueJson : Subject → Json
  | .record r => .object [("record", .object r.fields)]
  | .changeset c =>
    .object [("changeset", Json.obj [("data", .object c.data.fields), ("changes", .object c.changes),
      ("errors", .array (c.errors.map fun e =>
        Json.obj [("field", .string e.field), ("message", .string e.message)]))])]
  | .plan steps => .object [("plan", .array (firstOfName (stepEntries steps)))]

/-- Each step's name with the report of the step. -/
def stepEntries : List (String × Step) → List (String × Json)
  | [] => []
  | (n, s) :: rest => (n, stepEntry n s) :: stepEntries rest

/-- The report of one plan step under a name. -/
def stepEntry (n : String) : Step → Json
  | .value o => Json.obj [("name", .string n), ("value", outputJson o)]
  | .run _ _ => Json.obj [("name", .string n), ("run", .bool true)]
  | .rename s t => Json.obj [("name", .string n),
    ("rename", Json.obj [("source", .string s), ("to", .string t)])]

/-- The report of a step output. -/
def outputJson : Output → Json
  | .state s => .object [("state", valueJson s)]
  | .data j => .object [("data", j)]

end

/-- The report of a state: its name, or why it cannot be read. -/
def stateJson : Except AccessError StateName → Json
  | .ok s => .string s
  | .error e => Json.obj [("error", .string "AccessError"), ("message", .string e.message)]

/-- The report of a value and its state. -/
def valueAnswer (v : Subject) : Json.Members :=
  Json.Members.ofList [("ok", valueJson v), ("state", stateJson v.stateName)]

end Script

end RuleMachine
