import RuleMachine.Value.Subject
/-!
# Rule bodies

A rule body is a tree: its leaves are the replies a handler can give, and its inner nodes
choose a subtree by looking at the `Call` (the event, the parameters and the value being
dispatched). `Body.eval` walks the tree to the one leaf the call selects and makes its reply;
it gives no reply when no branch applies.

- `keep` stays in the current state with the value, or with what its update makes of the
  call; `next` moves to a named state the same way; `error` refuses with a JSON reason.
- `branch` tests a condition and goes to its first or, if there is one, its second subtree;
  `cond` takes the first arm whose condition holds; `select` computes a key and takes the
  first arm whose pattern matches it (an exact key, or the wildcard that matches every key
  and no key); `guard` goes on only when its condition holds.
- `native` is a handler given as a function, which the compiler cannot look into.

Conditions, selectors, updates and reasons are functions of the call, so one body type
serves every way of writing them.
-/

namespace RuleMachine

/-- What a handler sees: the event (none for a bypass handler), the parameters, and the
value being dispatched. -/
structure Call where
  event : Option EventName
  params : Json
  subject : Subject

/-- What a handler may answer. -/
inductive Reply where
  /-- Stay in the current state with this value. -/
  | keep (value : Subject)
  /-- Move to the named state; the value is moved there too. -/
  | next (name : StateName) (value : Subject)
  /-- Refuse, for the reason given. -/
  | refuse (reason : Json)

/-- A pattern of a `select` arm. -/
inductive Pattern where
  | exact (key : String)
  | wildcard
  deriving DecidableEq, Repr

/-- Whether a pattern matches a selected key (none when the selector gave no key). -/
def Pattern.matches : Pattern → Option String → Bool
  | .exact k, some key => k == key
  | .exact _, none => false
  | .wildcard, _ => true

/-- A rule body. -/
inductive Body where
  | keep (update : Option (Call → Subject))
  | next (name : StateName) (update : Option (Call → Subject))
  | error (reason : Call → Json)
  | branch (condition : Call → Bool) (yes : Body) (no : Option Body)
  | cond (arms : List ((Call → Bool) × Body))
  | select (selector : Call → Option String) (arms : List (Pattern × Body))
  | guard (condition : Call → Bool) (body : Body)
  | native (handler : Call → Option Reply)

instance : Inhabited Body := ⟨.keep none⟩

namespace Body

/-- The value an optional update makes of the call: the call's own value without one. -/
def updated (update : Option (Call → Subject)) (call : Call) : Subject :=
  match update with
  | some f => f call
  | none => call.subject

/-- A body that refuses with a fixed reason. -/
def refuse (reason : Json) : Body := .error fun _ => reason

mutual

/-- The reply of the leaf the call selects, or none when no branch applies. -/
def eval : Body → Call → Option Reply
  | .keep update, call => some (.keep (updated update call))
  | .next name update, call => some (.next name (updated update call))
  | .error reason, call => some (.refuse (reason call))
  | .branch c yes no, call =>
    if c call then yes.eval call
    else match no with
      | some b => b.eval call
      | none => none
  | .cond arms, call => evalCond arms call
  | .select sel arms, call => evalSelect arms (sel call) call
  | .guard c body, call => if c call then body.eval call else none
  | .native handler, call => handler call

/-- The reply of the first arm whose condition holds. -/
def evalCond : List ((Call → Bool) × Body) → Call → Option Reply
  | [], _ => none
  | (c, b) :: rest, call => if c call then b.eval call else evalCond rest call

/-- The reply of the first arm whose pattern matches the key. -/
def evalSelect : List (Pattern × Body) → Option String → Call → Option Reply
  | [], _, _ => none
  | (p, b) :: rest, key, call => if p.matches key then b.eval call else evalSelect rest key call

end

end Body

end RuleMachine
