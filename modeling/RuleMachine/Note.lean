/-!
# Notes

The machine reports what it does as notes: a level and a line of text. Compiling a
rule-set, refusing an action, and breaking a reply contract each leave notes, which a caller
may show or drop; they never change a result.
-/

namespace RuleMachine

/-- How much a note matters. -/
inductive Level where
  | debug
  | warn
  | error
  deriving DecidableEq, Repr

/-- The upper-case word of a level. -/
def Level.word : Level → String
  | .debug => "DEBUG"
  | .warn => "WARN"
  | .error => "ERROR"

/-- One note. -/
structure Note where
  level : Level
  message : String
  deriving DecidableEq, Repr

/-- A note as one line: the level's word, a blank, the message. -/
def Note.line (n : Note) : String := n.level.word ++ " " ++ n.message

end RuleMachine
