import Tablesmith.Main
import Tablesmith.Report.Arguments
import Tablesmith.Schema.Call
import Tablesmith.Schema.Workspace
import Tablesmith.Proofs.Schema.Invariants
import Tablesmith.Proofs.Config.Loading
import Tablesmith.Proofs.Sql.Rebuild
import Tablesmith.Proofs.Connection.Secrecy
import Tablesmith.Proofs.Connection.Safety
import Tablesmith.Proofs.Config.Buildable
import Tablesmith.Proofs.Config.Order
import Tablesmith.Proofs.Schema.Sessions
import Tablesmith.Proofs.Sql.Exactness
import Tablesmith.Proofs.Config.References
import Tablesmith.Proofs.Interface.Distinctness
import Tablesmith.Proofs.Command.Actions
import Tablesmith.Proofs.Schema.Endings
import Tablesmith.Proofs.Schema.Interleavings
import Tablesmith.Proofs.Sql.Stating
import Tablesmith.Proofs.Sql.Generation
import Tablesmith.Proofs.Interface.Entries
import Tablesmith.Proofs.Interface.Agreement
import Tablesmith.Proofs.Connection.Outcomes
import Tablesmith.Proofs.Disk.Resolving
import Tablesmith.Proofs.Command.Outputs
import Tablesmith.Proofs.Config.Collecting
import Tablesmith.Proofs.Config.Reporting
import Tablesmith.Proofs.Schema.Lookup
import Tablesmith.Proofs.Config.Resolution
import Tablesmith.Proofs.Schema.Uniqueness
import Tablesmith.Proofs.Sql.Expressions
import Tablesmith.Proofs.Interface.Layout
import Tablesmith.Proofs.Interface.Pascal
import Tablesmith.Proofs.Sql.Boundaries
import Tablesmith.Proofs.Connection.Passwordless
import Tablesmith.Proofs.Interface.Files
import Tablesmith.Proofs.Number.Digits
import Tablesmith.Proofs.Config.Port
import Tablesmith.Proofs.Connection.Address
import Tablesmith.Proofs.Config.Precedence
import Tablesmith.Proofs.Log.Colours
import Tablesmith.Proofs.Log.Setups
import Tablesmith.Proofs.Schema.Workspaces
import Tablesmith.Proofs.Report.Arguments
