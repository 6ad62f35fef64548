import RuleMachine.Value.Subject
import RuleMachine.Time.Instant
/-!
# Transition logs

The machine keeps nothing between dispatches; a caller that wants a history keeps a
`TransitionLog` and records each dispatch that succeeded: the state before, the state after,
the event and the time. The path of a log is the first record's source followed by every
record's target; its duration runs from the first record's time to the last's, and there is
none for an empty log or when the last time is earlier.
-/

namespace RuleMachine

/-- One recorded transition. -/
structure TransitionRecord where
  source : StateName
  target : StateName
  event : EventName
  time : Instant
  deriving DecidableEq, Repr

/-- Recorded transitions, oldest first. -/
structure TransitionLog where
  records : List TransitionRecord := []
  deriving DecidableEq, Repr

namespace TransitionLog

/-- The log with one more record at the end. -/
def record (log : TransitionLog) (r : TransitionRecord) : TransitionLog :=
  ⟨log.records ++ [r]⟩

/-- Records a dispatch of `event` from `before` to `after` at a time; fails when either
state cannot be read, the one before first. -/
def recordDispatch (log : TransitionLog) (event : EventName) (before after : Subject)
    (time : Instant) : Except AccessError TransitionLog := do
  let source ← before.stateName
  let target ← after.stateName
  pure (log.record ⟨source, target, event, time⟩)

/-- The states the log went through. -/
def path (log : TransitionLog) : List StateName :=
  match log.records with
  | [] => []
  | first :: _ => first.source :: log.records.map (·.target)

/-- The time from the first record to the last. -/
def duration (log : TransitionLog) : Option Span :=
  match log.records.head?, log.records.getLast? with
  | some first, some last => last.time.since first.time
  | _, _ => none

end TransitionLog

end RuleMachine
