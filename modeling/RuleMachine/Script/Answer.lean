import RuleMachine.Script.Command
import RuleMachine.Script.Session
import RuleMachine.Script.Snapshot
/-!
# Answering commands

`Script.answer` answers one command object, and `Script.answerLine` one line of text. Besides the
operations of `Script.Command`:

- `session` compiles every rule-set of the command in order (the first that fails answers for
  the whole command), builds the kind and the first value, and runs the steps;
- `log` reads transition records and reports the path, the duration and the records as
  written back;
- `snapshot` and `snapshot_load` write and read snapshots (`Script.Snapshot`).

With `"logs": true` an answer lists the notes of its command; a session lists the notes of
compiling at the top and those of each step in that step's answer.
-/

namespace RuleMachine

namespace Script

/-- Compiles written rule-sets in order, stopping at the first that fails; the notes of all
compilations tried. -/
def compileAll : List Json → Except Json (List RuleSet) × List Note
  | [] => (.ok [], [])
  | j :: js =>
    match readRuleSet j with
    | .error e => (.error (specErrorJson e), [])
    | .ok b =>
      let (result, notes) := compileNoted b
      match result with
      | .error e => (.error (compileErrorJson e), notes)
      | .ok rs =>
        let (rest, more) := compileAll js
        (rest.map (rs :: ·), notes ++ more)

/-- The answer to a `session` command. Rule-sets and steps that are not lists count as none; a
kind that cannot be read takes the defaults. When compiling fails, the failure is the whole
answer, without notes. -/
def sessionAnswer (cmd : Json) : Except String Json := do
  let logs := cmd.get? "logs" == some (.bool true)
  let (compiled, notes) := compileAll (listOr cmd "rule_sets")
  match compiled with
  | .error answer => pure answer
  | .ok rss =>
    let refs := rss.zipIdx.map fun (rs, i) => (⟨i, rs.id⟩ : RuleSetRef)
    let kind ← readKind refs ((cmd.get? "kind").getD .null)
    let w : Workshop := ⟨refs, kind, 0⟩
    let (v, w) ← match cmd.get? "value" with
      | some j => readValue w j
      | none => throw "missing value"
    let s : Session := ⟨rss, w, v, v, {}⟩
    let answers := Session.runSteps logs s (listOr cmd "steps")
    pure (answerOf ([("steps", .array answers)] ++
      (if logs then [("logs", Json.strings (notes.map Note.line))] else [])))

/-- Reads a transition record from its four fields. -/
def recordOfFields (source target event stamp : Json) : Option TransitionRecord := do
  let time ← Instant.parse? (← stamp.asString?)
  pure ⟨← source.asString?, ← target.asString?, ← event.asString?, time⟩

/-- Reads a transition record: an object with the fields `from`, `to`, `event` and
`timestamp` (others are skipped), or an array of exactly those four in that order. -/
def readRecord : Json → Option TransitionRecord
  | .object ms => do
    recordOfFields (← Json.Members.get? "from" ms) (← Json.Members.get? "to" ms)
      (← Json.Members.get? "event" ms) (← Json.Members.get? "timestamp" ms)
  | .array [source, target, event, stamp] => recordOfFields source target event stamp
  | _ => none

/-- A transition record as written back. -/
def recordJson (r : TransitionRecord) : Json :=
  answerOf [("from", .string r.source), ("to", .string r.target), ("event", .string r.event),
    ("timestamp", .string r.time.render)]

/-- The answer to a `log` command. -/
def logAnswer (cmd : Json.Members) : Json :=
  let records := (listOr (.object cmd) "records").mapM readRecord
  match records with
  | none => answerOf [("error", .string "RecordError")]
  | some rs =>
    let log : TransitionLog := ⟨rs⟩
    answerOf [("path", Json.strings log.path),
      ("duration", match log.duration with
        | some d => answerOf [("secs", Json.nat d.seconds), ("nanos", Json.nat d.nanos)]
        | none => .null),
      ("serialized", answerOf [("records", .array (rs.map recordJson))])]

/-- An answer from a reading that may be refused: a refusal is bad input, without notes. -/
def orBadInput : Except String Answered → Answered
  | .ok a => a
  | .error m => (badInput m, [])

/-- The answer to a command naming the operation `op`, and the notes it left. -/
def answerCommand (cmd : Json.Members) (op : String) : Answered :=
  if op = "compile" then withCompiled (.object cmd) ruleSetJson
  else if op = "debug" then withCompiled (.object cmd) debugJson
  else if op = "options" then (optionsAnswer ((Json.Members.get? "value" cmd).getD .null), [])
  else if op = "event" then orBadInput ((eventAnswer (.object cmd)).map fun j => (j, []))
  else if op = "log" then (logAnswer cmd, [])
  else if op = "snapshot" then snapshotAnswer cmd
  else if op = "snapshot_load" then orBadInput (snapshotLoadAnswer cmd)
  else (badInput ("unknown op '" ++ op ++ "'"), [])

/-- The answer to a command. A command without a text `op` names no operation and is answered
as such, without notes. A session lists its notes itself; any other command lists the notes it
left when it asks for them, also when it is answered as bad input. -/
def answer (command : Json) : Json :=
  match command.get? "op" with
  | some (.string "session") =>
    match sessionAnswer command with
    | .ok j => j
    | .error m => badInput m
  | some (.string op) =>
    let (j, notes) := answerCommand (membersOf command) op
    if command.get? "logs" == some (.bool true) then
      match j with
      | .object ms => .object (Json.Members.insert "logs" (Json.strings (notes.map Note.line)) ms)
      | other => other
    else j
  | _ => badInput "missing op"
where
  /-- The members of a command object. -/
  membersOf : Json → Json.Members
    | .object ms => ms
    | _ => []

/-- The answer to a line of text, as compact JSON text. -/
def answerLine (line : String) : String :=
  match Json.parse line with
  | .ok j => (answer j).render
  | .error e => (badInput ("invalid JSON: " ++ e.message line)).render

end Script

end RuleMachine
