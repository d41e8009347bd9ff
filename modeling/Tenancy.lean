import Tenancy.Catalog.Live
import Tenancy.Contract.Kind
import Tenancy.Execution.Scripted
import Tenancy.Json.Parser
import Tenancy.Proofs.Service.DryRun
import Tenancy.Proofs.Statement.Grammar
import Tenancy.Proofs.Statement.Isolation
import Tenancy.Service.Respond
import Tenancy.Translation.Scripted
import Tenancy.Proofs.Statement.Mutations
import Tenancy.Proofs.Statement.Meaning
import Tenancy.Proofs.Execution.Conversation
import Tenancy.Proofs.Execution.Protocol
import Tenancy.Proofs.Lifecycle.Conversation
import Tenancy.Proofs.Lifecycle.Outcome
import Tenancy.Proofs.Scenario.Events
import Tenancy.Proofs.Service.Persistence
import Tenancy.Proofs.Scenario.DryRun
import Tenancy.Proofs.Translation.Scope
import Tenancy.Proofs.Statement.Leaves
import Tenancy.Proofs.Statement.Placeholders
import Tenancy.Proofs.Statement.Redaction
import Tenancy.Proofs.Execution.Store
import Tenancy.Proofs.Lifecycle.Visits
import Tenancy.Proofs.Lifecycle.Containment
import Tenancy.Proofs.Execution.Trace
import Tenancy.Proofs.Lifecycle.Records
import Tenancy.Proofs.Lifecycle.Schedule
import Tenancy.Proofs.Lifecycle.Accounting
import Tenancy.Proofs.Lifecycle.Variables
import Tenancy.Proofs.Execution.Modes
import Tenancy.Proofs.Statement.Respelling
import Tenancy.Proofs.Statement.Settling
import Tenancy.Proofs.Template.Stability
import Tenancy.Proofs.Template.Plain
import Tenancy.Proofs.Validation.Rereading
import Tenancy.Proofs.Command.Rereading
import Tenancy.Proofs.Lifecycle.Literal
import Tenancy.Proofs.Execution.Faults
import Tenancy.Proofs.Expectation.Checks
import Tenancy.Proofs.Lifecycle.Fatal
import Tenancy.Proofs.Lifecycle.Deadline
import Tenancy.Proofs.Lifecycle.Verdicts
import Tenancy.Proofs.Lifecycle.Gate
import Tenancy.Proofs.Service.Causes
import Tenancy.Proofs.Number.Amount
import Tenancy.Proofs.Named
import Tenancy.Proofs.Json.Lines
import Tenancy.Proofs.Expectation.Report
import Tenancy.Proofs.Expectation.Captures
import Tenancy.Proofs.Lifecycle.Issues
import Tenancy.Proofs.Lifecycle.Constraints
import Tenancy.Proofs.Template.Layout
import Tenancy.Proofs.Statement.Stating
import Tenancy.Proofs.Execution.History
import Tenancy.Proofs.Scenario.Isolation
import Tenancy.Proofs.Lifecycle.Scope
import Tenancy.Proofs.Catalog.TableNames
import Tenancy.Proofs.Catalog.ColumnNames
import Tenancy.Proofs.Catalog.Refresh
import Tenancy.Proofs.Json.Paths
import Tenancy.Proofs.Statement.Names
import Tenancy.Proofs.Statement.Targets
