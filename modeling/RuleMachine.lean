import RuleMachine.Decimal.Scale
import RuleMachine.Decimal.Shortest
import RuleMachine.Decimal.Text
import RuleMachine.Dispatch.Handler
import RuleMachine.Dispatch.Merge
import RuleMachine.Dispatch.Run
import RuleMachine.Event
import RuleMachine.Graph
import RuleMachine.History
import RuleMachine.Inspect.Basic
import RuleMachine.Inspect.Rule
import RuleMachine.Inspect.Value
import RuleMachine.Json.Basic
import RuleMachine.Json.Parse
import RuleMachine.Json.Print
import RuleMachine.Json.Skim
import RuleMachine.Note
import RuleMachine.Plan.Adapt
import RuleMachine.Plan.Evaluate
import RuleMachine.Proofs.Changeset.Apply
import RuleMachine.Proofs.Dispatch.Actions
import RuleMachine.Proofs.Dispatch.Destinations
import RuleMachine.Proofs.Dispatch.Merge
import RuleMachine.Proofs.Dispatch.Resolve
import RuleMachine.Proofs.Graph.Reach
import RuleMachine.Proofs.Plan.Adapt
import RuleMachine.Proofs.Plan.Evaluate
import RuleMachine.Proofs.Plan.Names
import RuleMachine.Proofs.Rule.Analysis
import RuleMachine.Proofs.Rule.Eval
import RuleMachine.Proofs.Rule.Leaves
import RuleMachine.Proofs.RuleSet.Assemble
import RuleMachine.Proofs.RuleSet.Builder
import RuleMachine.Proofs.RuleSet.Compile
import RuleMachine.Proofs.Sorted
import RuleMachine.Proofs.Sorted.Canonical
import RuleMachine.Proofs.Split
import RuleMachine.Proofs.Value.Retarget
import RuleMachine.Rule.Analysis
import RuleMachine.Rule.Body
import RuleMachine.Rule.Declaration
import RuleMachine.RuleSet.Basic
import RuleMachine.RuleSet.Compile
import RuleMachine.Script.Answer
import RuleMachine.Script.Body
import RuleMachine.Script.Command
import RuleMachine.Script.Encode
import RuleMachine.Script.Expr
import RuleMachine.Script.Field
import RuleMachine.Script.Options
import RuleMachine.Script.Session
import RuleMachine.Script.Snapshot
import RuleMachine.Script.Spec
import RuleMachine.Script.Values
import RuleMachine.Snapshot.Basic
import RuleMachine.Snapshot.Binary
import RuleMachine.Snapshot.Text
import RuleMachine.Snapshot.Uuid
import RuleMachine.Sorted
import RuleMachine.Text.Escaped
import RuleMachine.Text.Quoted
import RuleMachine.Time.Instant
import RuleMachine.Value.Changeset
import RuleMachine.Value.Record
import RuleMachine.Value.Subject
