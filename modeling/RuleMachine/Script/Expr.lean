import RuleMachine.Rule.Body
import RuleMachine.Script.Field
/-!
# Scripted expressions and conditions

Rule bodies can be written as JSON. This module holds the expression and condition parts of
that language, each as a syntax tree (`Expr`, `Cond`), a reader from JSON, and an evaluation
on a `Call`.

An expression is a tagged object (`tagged`): `lit` gives its value,
`param` a parameter (only an object of parameters has members), `params` all of them, `event`
the event name (`null` for a bypass handler), `state` the state of the value (`null` when it
cannot be read), `field` a field of a record or, for a changeset, its staged value else the
record's (`null` for a plan and for a missing field), `variant` the kind of value, and `concat`
joins the texts of its parts, a string as it is and any other value as its compact JSON text.

A condition is `true`, `false`, or a tagged object: `has` (the parameter is
present, even as `null`), `eq` (JSON equality, so `1` and `1.0` differ), `not`, `all`, `any`,
`has_event` (the handler is a transition). A selector is an expression whose value is the key:
none for `null`, the text of a string, the compact JSON text of anything else.

An argument that names something (a parameter, a field) must be a string ("param needs a
string"), the parts of `concat` and the conditions of `all` and `any` a list, and `eq` two
expressions.
-/

namespace RuleMachine

namespace Script

/-- A scripted expression. -/
inductive Expr where
  | lit (value : Json)
  | param (key : String)
  | params
  | event
  | state
  | field (name : String)
  | variant
  | concat (parts : List Expr)
  deriving Inhabited

/-- A scripted condition. -/
inductive Cond where
  | const (b : Bool)
  | has (key : String)
  | eq (a b : Expr)
  | not (c : Cond)
  | all (cs : List Cond)
  | any (cs : List Cond)
  | hasEvent
  deriving Inhabited

/-- The text a value stands for inside a `concat` or as a selected key: a string's own text,
else the compact JSON text. -/
def textOf : Json → String
  | .string s => s
  | j => j.render

/-- The value of a field of the dispatched value. -/
def fieldOf (s : Subject) (name : String) : Json :=
  match s with
  | .record r => (r.get? name).getD .null
  | .changeset c => (c.get? name).getD .null
  | .plan _ => .null

namespace Expr

mutual

/-- The value of an expression on a call. -/
def eval (call : Call) : Expr → Json
  | .lit v => v
  | .param k => (call.params.get? k).getD .null
  | .params => call.params
  | .event => match call.event with
    | some e => .string e
    | none => .null
  | .state => match call.subject.stateName with
    | .ok s => .string s
    | .error _ => .null
  | .field f => fieldOf call.subject f
  | .variant => .string call.subject.variant
  | .concat parts => .string (evalTexts call parts)

/-- The joined texts of the parts. -/
def evalTexts (call : Call) : List Expr → String
  | [] => ""
  | e :: es => textOf (eval call e) ++ evalTexts call es

end

/-- The key an expression selects: none for `null`. -/
def select (e : Expr) (call : Call) : Option String :=
  match e.eval call with
  | .null => none
  | j => some (textOf j)

end Expr

namespace Cond

mutual

/-- Whether a condition holds on a call. -/
def eval (call : Call) : Cond → Bool
  | .const b => b
  | .has k => (call.params.get? k).isSome
  | .eq a b => (a.eval call).beq (b.eval call)
  | .not c => !eval call c
  | .all cs => evalAll call cs
  | .any cs => evalAny call cs
  | .hasEvent => call.event.isSome

/-- Whether every condition holds. -/
def evalAll (call : Call) : List Cond → Bool
  | [] => true
  | c :: cs => eval call c && evalAll call cs

/-- Whether some condition holds. -/
def evalAny (call : Call) : List Cond → Bool
  | [] => false
  | c :: cs => eval call c || evalAny call cs

end

end Cond

/-- The text argument of the form `form`: "`form` needs a string" unless it is one. -/
def textArgument (form : String) : Json → Except String String
  | .string s => .ok s
  | _ => .error (form ++ " needs a string")

mutual

/-- Reads an expression, within `fuel` steps. -/
def readExprIn : Nat → Json → Except String Expr
  | 0, _ => .error "description too deep"
  | fuel + 1, j => do
    let (k, arg) ← tagged j
    match k, arg with
    | "lit", v => .ok (.lit v)
    | "param", key => (textArgument "param" key).map .param
    | "params", _ => .ok .params
    | "event", _ => .ok .event
    | "state", _ => .ok .state
    | "field", f => (textArgument "field" f).map .field
    | "variant", _ => .ok .variant
    | "concat", .array parts => (readExprsIn fuel parts).map .concat
    | "concat", _ => .error "concat needs a list"
    | k, _ => unknownTag "expression" k

/-- Reads a list of expressions, within `fuel` steps. -/
def readExprsIn : Nat → List Json → Except String (List Expr)
  | _, [] => .ok []
  | 0, _ :: _ => .error "description too deep"
  | fuel + 1, j :: js => do
    let e ← readExprIn fuel j
    let es ← readExprsIn fuel js
    pure (e :: es)

end

/-- Reads an expression. -/
def readExpr (j : Json) : Except String Expr := readExprIn (fuelFor j) j

mutual

/-- Reads a condition, within `fuel` steps. -/
def readCondIn : Nat → Json → Except String Cond
  | 0, _ => .error "description too deep"
  | _ + 1, .bool b => .ok (.const b)
  | fuel + 1, j => do
    let (k, arg) ← tagged j
    match k, arg with
    | "all", .array cs => (readCondsIn fuel cs).map .all
    | "all", _ => .error "all needs a list"
    | "any", .array cs => (readCondsIn fuel cs).map .any
    | "any", _ => .error "any needs a list"
    | "eq", .array [a, b] => do
      let a ← readExprIn fuel a
      let b ← readExprIn fuel b
      pure (.eq a b)
    | "eq", _ => .error "eq needs two expressions"
    | "has", key => (textArgument "has" key).map .has
    | "has_event", _ => .ok .hasEvent
    | "not", c => (readCondIn fuel c).map .not
    | k, _ => unknownTag "predicate" k

/-- Reads a list of conditions, within `fuel` steps. -/
def readCondsIn : Nat → List Json → Except String (List Cond)
  | _, [] => .ok []
  | 0, _ :: _ => .error "description too deep"
  | fuel + 1, j :: js => do
    let c ← readCondIn fuel j
    let cs ← readCondsIn fuel js
    pure (c :: cs)

end

/-- Reads a condition. -/
def readCond (j : Json) : Except String Cond := readCondIn (fuelFor j) j

end Script

end RuleMachine
