import RuleMachine.RuleSet.Basic
import RuleMachine.Note
/-!
# Compiling declarations

`RuleSet.compile` checks every declaration and builds the rule-set only when none has a
fault; otherwise it reports all faults at once, in declaration order (`CompileError`).

Declaration `i` (counted from zero) is checked at the site `declaration #i`. A transition
needs a state, which must not be empty, then an event, which must not be an empty name (the
wildcard is fine), then a body; the three are checked independently, in that order. Only
when all three are there are its destinations known: the declared ones if it names them,
else the analysis of its body from its state (`Body.destinations`), reported at the site
`declaration #i transition (state, event)`. A bypass needs an event that is not empty, then
a body.

Assembly goes through the declarations in order: a transition writes its row, owned by the
rule-set, its body and its doc under its key, and adds its state and destinations to the
states; a bypass writes its owner, body and doc under its event. A later declaration with the
same key or event replaces the earlier one's row, body and doc, but the states of the earlier
one stay.
-/

namespace RuleMachine

/-- The faults of a rule-set's declarations. -/
structure CompileError where
  ruleSet : RuleSetId
  errors : List DeclarationError
  deriving DecidableEq, Repr

/-- The text of a compile error: the rule-set and every fault, separated by semicolons. -/
def CompileError.message (e : CompileError) : String :=
  "rule-set '" ++ e.ruleSet ++ "' is malformed: " ++ "; ".intercalate (e.errors.map (·.message))

/-- A declaration that passed its checks. -/
inductive Entry where
  | transition (key : Key) (body : Body) (destinations : List StateName) (doc : Option String)
  | bypass (event : EventName) (body : Body) (doc : Option String)

namespace Declaration

/-- The site of declaration `index`. -/
def site (index : Nat) : String := "declaration #" ++ toString index

/-- The site of a transition's body. -/
def bodySite (index : Nat) (state : StateName) (event : Event) : String :=
  site index ++ " transition (" ++ state ++ ", " ++ event.display ++ ")"

/-- The state of a transition: present and not empty. -/
def checkState (site : String) : Option StateName → Checked StateName
  | none => .error [.missingState site]
  | some s => if s.isEmpty then .error [.emptyName site] else .ok s

/-- The event of a transition: present, and not an empty name. -/
def checkEvent (site : String) : Option Event → Checked Event
  | none => .error [.missingEvent site]
  | some (.named n) => if n.isEmpty then .error [.emptyName site] else .ok (.named n)
  | some .any => .ok .any

/-- The event of a bypass: present and not empty. -/
def checkBypassEvent (site : String) : Option EventName → Checked EventName
  | none => .error [.missingEvent site]
  | some n => if n.isEmpty then .error [.emptyName site] else .ok n

/-- The body: present. -/
def checkBody (site : String) : Option Body → Checked Body
  | none => .error [.missingBody site]
  | some b => .ok b

/-- Checks declaration `index` and gives what assembly needs from it. -/
def check (options : CompileOptions) (index : Nat) : Declaration → Checked Entry
  | .transition d =>
    let site := Declaration.site index
    match Checked.both (Checked.both (checkState site d.state) (checkEvent site d.event))
        (checkBody site d.body) with
    | .error es => .error es
    | .ok ((s, e), b) =>
      let dests : Checked (List StateName) := match d.destinations with
        | some ds => .ok (SortedSet.ofList ds)
        | none => b.destinations options.unrecognizedArms (bodySite index s e) s
      dests.map fun ds => .transition ⟨s, e⟩ b ds d.doc
  | .bypass d =>
    let site := Declaration.site index
    (Checked.both (checkBypassEvent site d.event) (checkBody site d.body)).map
      fun (e, b) => .bypass e b d.doc

/-- The warning notes of checking declaration `index`: one per opaque arm its analysis
skips. The analysis runs only for a complete transition without declared destinations. -/
def warnings (options : CompileOptions) (index : Nat) : Declaration → List Note
  | .transition d =>
    match d.state, d.event, d.body, d.destinations with
    | some s, some e, some b, none =>
      if s.isEmpty || e == .named "" then []
      else List.replicate (b.skippedArms options.unrecognizedArms)
        ⟨.warn, bodySite index s e ++ ": ignoring unanalyzable arm"⟩
    | _, _, _, _ => []
  | .bypass _ => []

end Declaration

/-- Checks every declaration, numbering them from `index`: all entries, or all faults. -/
def checkAll (options : CompileOptions) : Nat → List Declaration → Checked (List Entry)
  | _, [] => .ok []
  | index, d :: ds =>
    (Checked.both (d.check options index) (checkAll options (index + 1) ds)).map
      fun (e, es) => e :: es

namespace RuleSet

/-- The rule-set with no declarations. -/
def empty (id : RuleSetId) : RuleSet := ⟨id, [], [], [], [], [], []⟩

/-- Writes one checked declaration into the rule-set. -/
def addEntry (rs : RuleSet) : Entry → RuleSet
  | .transition key body dests doc =>
    { rs with
      states := SortedSet.union (SortedSet.insert key.state rs.states) dests
      docs := SortedMap.insert (.transition key) doc rs.docs
      table := SortedMap.insert key ⟨rs.id, dests⟩ rs.table
      bodies := SortedMap.insert key body rs.bodies }
  | .bypass event body doc =>
    { rs with
      docs := SortedMap.insert (.event event) doc rs.docs
      bypasses := SortedMap.insert event rs.id rs.bypasses
      bypassBodies := SortedMap.insert event body rs.bypassBodies }

/-- The rule-set of checked declarations, written in order. -/
def assemble (id : RuleSetId) (entries : List Entry) : RuleSet :=
  entries.foldl addEntry (empty id)

/-- Compiles declarations into a rule-set, or reports every fault. -/
def compile (id : RuleSetId) (decls : List Declaration) (options : CompileOptions) :
    Except CompileError RuleSet :=
  match checkAll options 0 decls with
  | .ok entries => .ok (assemble id entries)
  | .error es => .error ⟨id, es⟩

/-- The note of a finished compilation: the sizes of the rule-set, or the compile error. -/
def compiledNote : Except CompileError RuleSet → Note
  | .ok rs =>
    ⟨.debug, "compiled rule-set " ++ rs.id ++ ": " ++ toString rs.table.length ++ " transitions, "
      ++ toString rs.bypasses.length ++ " bypasses, " ++ toString rs.states.length ++ " states"⟩
  | .error e => ⟨.debug, e.message⟩

/-- The notes of compiling: the skipped arms of each declaration in order, then the note of
the result. -/
def compileNotes (id : RuleSetId) (decls : List Declaration) (options : CompileOptions) :
    List Note :=
  (decls.zipIdx.flatMap fun (d, i) => d.warnings options i) ++ [compiledNote (compile id decls options)]

end RuleSet

/-- Compiles the collected declarations with the builder's options. -/
def Builder.build (b : Builder) : Except CompileError RuleSet :=
  RuleSet.compile b.id b.declarations b.options

end RuleMachine
