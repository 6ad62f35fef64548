import RuleMachine.Script.Expr
import RuleMachine.Plan.Evaluate
/-!
# Scripted bodies

The JSON form of rule bodies. A body is an object recognised by the first of its keys in this
order: `keep`, `next`, `error`, `error_with`, `if`, `cond`, `match`, `and`, `reply`, `native`.

- `{"keep": null}` and `{"keep": [ops]}` stay, the second with an update;
  `{"next": name}` and `{"next": name, "update": [ops]}` move;
  `{"error": v}` refuses with `v`, `{"error_with": expr}` with the expression's value.
- `{"if": cond, "then": b}` with an optional `"else": b`, `{"cond": [[cond, b], …]}`,
  `{"match": expr, "arms": [[key, b], …]}` (a `null` key is the wildcard),
  `{"and": cond, "body": b}` build the branching nodes.
- `{"native": b}` is an opaque handler that evaluates `b`; `{"reply": r}` is an opaque handler
  that answers directly: `{"keep": [ops] | null}`, `{"next": {"name": n, "update"?: [ops]}}`,
  `{"error": expr}`, or `{"none": _}` for no reply at all.

An update is a list of operations applied in order to a working value that starts as the
call's value; every expression in it is evaluated on the call, not on the working value.
`set` writes a field of a record or stages it on a changeset; `state` moves any value to a
state; `stage` makes a changeset of a record; `add_error` adds an error to a changeset;
`apply` makes a record of a changeset; `wrap_input` makes a plan whose `input` step holds the
working value; `without` drops steps of a plan; `plan` builds a new plan. An operation that
does not fit the working value leaves it as it is.

Operations, replies and run jobs are tagged objects (`tagged`). A body that is not an object is
refused with its text ("body must be an object, got …"), and so is one that names no form
("unknown body …"); a form missing a part names it ("if needs then"), and a part of the wrong
shape says what it needs ("next needs a state name", "cond arm must be [pred, body]").
-/

namespace RuleMachine

namespace Script

/-- A step of a plan built by an update. -/
inductive StepSpec where
  /-- Holds the working value as it was before the `plan` operation. -/
  | current (name : String)
  | data (name : String) (value : Json)
  | dataExpr (name : String) (value : Expr)
  | rename (name source target : String)
  | run (name : String) (job : Job)
  deriving Inhabited

/-- One operation of an update. -/
inductive UpdateOp where
  | set (field : String) (value : Expr)
  | state (name : StateName)
  | stage
  | addError (field message : String)
  | apply
  | wrapInput
  | without (name : String)
  | plan (steps : List StepSpec)
  deriving Inhabited

/-- The plan a `plan` operation builds, given the working value before it. -/
def StepSpec.build (call : Call) (working : Subject) (p : Plan) : StepSpec → Plan
  | .current n => p.push n (.value (.state working))
  | .data n v => p.push n (.value (.data v))
  | .dataExpr n e => p.push n (.value (.data (e.eval call)))
  | .rename n s t => p.push n (.rename s t)
  | .run n job => p.push n (.run job none)

/-- The working value after one operation. -/
def UpdateOp.perform (call : Call) (working : Subject) : UpdateOp → Subject
  | .set f e =>
    match working with
    | .record r => .record (r.withField f (e.eval call))
    | .changeset c => .changeset (c.change f (e.eval call))
    | other => other
  | .state n => working.withStateName n
  | .stage =>
    match working with
    | .record r => .changeset (Changeset.ofRecord r)
    | other => other
  | .addError f m =>
    match working with
    | .changeset c => .changeset (c.addError f m)
    | other => other
  | .apply =>
    match working with
    | .changeset c => .record c.apply
    | other => other
  | .wrapInput => Subject.ofPlan (Plan.empty.push inputStep (.value (.state working)))
  | .without n =>
    match working with
    | .plan steps => Subject.ofPlan ((Plan.mk steps).without n)
    | other => other
  | .plan steps => Subject.ofPlan (steps.foldl (StepSpec.build call working) Plan.empty)

/-- The value an update makes of a call. -/
def runUpdate (ops : List UpdateOp) (call : Call) : Subject :=
  ops.foldl (UpdateOp.perform call) call.subject

/-- A step or key named by a run job: "run argument must be a string" unless it is text. -/
def jobArgument : Json → Except String String
  | .string s => .ok s
  | _ => .error "run argument must be a string"

/-- Reads a run job, a tagged object. -/
def readJob (j : Json) : Except String Job := do
  let (k, arg) ← tagged j
  match k, arg with
  | "const", v => .ok (.const v)
  | "copy", d => (jobArgument d).map .copy
  | "fail", r => (jobArgument r).map .fail
  | "get", .array [step, key] => do
    let step ← jobArgument step
    let key ← jobArgument key
    pure (.member step key)
  | "get", _ => .error "get needs [step, key]"
  | "names", _ => .ok .names
  | "state_of", d => (jobArgument d).map .stateOf
  | k, _ => unknownTag "run" k

/-- Reads a step of a plan built by an update: a name, and the first of `current`, `data`,
`data_expr`, `rename` and `run` that it has. -/
def readStepSpec (j : Json) : Except String StepSpec := do
  let n ← requireText j "name"
  match j.get? "current", j.get? "data", j.get? "data_expr", j.get? "rename", j.get? "run" with
  | some _, _, _, _, _ => pure (.current n)
  | none, some v, _, _, _ => pure (.data n v)
  | none, none, some e, _, _ => (readExpr e).map (.dataExpr n)
  | none, none, none, some r, _ => do
    let s ← requireText r "source"
    let t ← requireText r "to"
    pure (.rename n s t)
  | none, none, none, none, some r => (readJob r).map (.run n)
  | none, none, none, none, none => .error ("unknown update plan step " ++ j.render)

/-- Reads an update operation, a tagged object. -/
def readOp (j : Json) : Except String UpdateOp := do
  let (k, arg) ← tagged j
  match k, arg with
  | "add_error", .array [.string f, .string m] => .ok (.addError f m)
  | "add_error", _ => .error "add_error needs [field, message]"
  | "apply", _ => .ok .apply
  | "plan", .array steps => (steps.mapM readStepSpec).map .plan
  | "plan", _ => .error "plan needs a list"
  | "set", .array [.string f, e] => (readExpr e).map (.set f)
  | "set", _ => .error "set needs [field, expr]"
  | "stage", _ => .ok .stage
  | "state", n => (textArgument "state" n).map .state
  | "without", n => (textArgument "without" n).map .without
  | "wrap_input", _ => .ok .wrapInput
  | k, _ => unknownTag "update op" k

/-- Reads an update: `null` for none, or a list of operations. -/
def readUpdate : Json → Except String (Option (List UpdateOp))
  | .null => .ok none
  | .array ops => (ops.mapM readOp).map some
  | _ => .error "update must be a list of operations"

/-- Reads an optional update member: missing is none. -/
def readUpdateMember (j : Json) (key : String) : Except String (Option (List UpdateOp)) :=
  match j.get? key with
  | some u => readUpdate u
  | none => .ok none

/-- The update function of an optional list of operations. -/
def updateFn : Option (List UpdateOp) → Option (Call → Subject)
  | some ops => some (runUpdate ops)
  | none => none

/-- Reads the answer of a `reply` body as an opaque handler, a tagged object. -/
def readReply (r : Json) : Except String (Call → Option Reply) := do
  let (k, arg) ← tagged r
  match k with
  | "error" => do
    let e ← readExpr arg
    pure fun call => some (.refuse (e.eval call))
  | "keep" => do
    let u ← readUpdate arg
    pure fun call => some (.keep (Body.updated (updateFn u) call))
  | "next" => do
    let name ← requireText arg "name"
    let u ← readUpdateMember arg "update"
    pure fun call => some (.next name (Body.updated (updateFn u) call))
  | "none" => .ok fun _ => none
  | k => unknownTag "reply" k

mutual

/-- Reads a body, within `fuel` steps. -/
def readBodyIn : Nat → Json → Except String Body
  | 0, _ => .error "description too deep"
  | fuel + 1, .object ms =>
    match Json.Members.get? "keep" ms with
    | some u => (readUpdate u).map fun u => .keep (updateFn u)
    | none =>
    match Json.Members.get? "next" ms with
    | some (.string n) => do
      let u ← readUpdateMember (.object ms) "update"
      pure (.next n (updateFn u))
    | some _ => .error "next needs a state name"
    | none =>
    match Json.Members.get? "error" ms with
    | some v => .ok (Body.refuse v)
    | none =>
    match Json.Members.get? "error_with" ms with
    | some e => (readExpr e).map fun e => .error e.eval
    | none =>
    match Json.Members.get? "if" ms with
    | some c => do
      let c ← readCond c
      let yes ← match Json.Members.get? "then" ms with
        | some b => readBodyIn fuel b
        | none => .error "if needs then"
      let no ← match Json.Members.get? "else" ms with
        | some b => (readBodyIn fuel b).map some
        | none => pure none
      pure (.branch c.eval yes no)
    | none =>
    match Json.Members.get? "cond" ms with
    | some (.array arms) => (readCondArms fuel arms).map .cond
    | some _ => .error "cond needs a list"
    | none =>
    match Json.Members.get? "match" ms with
    | some sel => do
      let sel ← readExpr sel
      let arms ← match Json.Members.get? "arms" ms with
        | some (.array arms) => readSelectArms fuel arms
        | _ => .error "match needs arms"
      pure (.select sel.select arms)
    | none =>
    match Json.Members.get? "and" ms with
    | some c => do
      let c ← readCond c
      let b ← match Json.Members.get? "body" ms with
        | some b => readBodyIn fuel b
        | none => .error "and needs body"
      pure (.guard c.eval b)
    | none =>
    match Json.Members.get? "reply" ms with
    | some r => (readReply r).map .native
    | none =>
    match Json.Members.get? "native" ms with
    | some b => (readBodyIn fuel b).map fun b => .native b.eval
    | none => .error ("unknown body " ++ (Json.object ms).render)
  | _ + 1, j => .error ("body must be an object, got " ++ j.render)

/-- Reads the arms of a `cond`. -/
def readCondArms : Nat → List Json → Except String (List ((Call → Bool) × Body))
  | _, [] => .ok []
  | 0, _ :: _ => .error "description too deep"
  | fuel + 1, .array [c, b] :: rest => do
    let c ← readCond c
    let b ← readBodyIn fuel b
    let rest ← readCondArms fuel rest
    pure ((c.eval, b) :: rest)
  | _ + 1, _ :: _ => .error "cond arm must be [pred, body]"

/-- Reads the arms of a `match`. -/
def readSelectArms : Nat → List Json → Except String (List (Pattern × Body))
  | _, [] => .ok []
  | 0, _ :: _ => .error "description too deep"
  | fuel + 1, .array [.null, b] :: rest => do
    let b ← readBodyIn fuel b
    let rest ← readSelectArms fuel rest
    pure ((Pattern.wildcard, b) :: rest)
  | fuel + 1, .array [.string s, b] :: rest => do
    let b ← readBodyIn fuel b
    let rest ← readSelectArms fuel rest
    pure ((Pattern.exact s, b) :: rest)
  | _ + 1, _ :: _ => .error "match arm must be [key|null, body]"

end

/-- Reads a body. -/
def readBody (j : Json) : Except String Body := readBodyIn (fuelFor j) j

end Script

end RuleMachine
