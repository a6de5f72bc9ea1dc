import FieldOrder.Main
import FieldOrder.Proofs.Collation.Alike
import FieldOrder.Proofs.Collation.Analysis
import FieldOrder.Proofs.CommandLine.Effects
import FieldOrder.Proofs.CommandLine.Reports
import FieldOrder.Proofs.Config.Activation
import FieldOrder.Proofs.Config.Loading
import FieldOrder.Proofs.Edit.Separately
import FieldOrder.Proofs.Files.Coverage
import FieldOrder.Proofs.Lint.Accounts
import FieldOrder.Proofs.Lint.Rearrangement
import FieldOrder.Proofs.Lint.RuleOrder
import FieldOrder.Proofs.Lint.Unparsed
import FieldOrder.Proofs.Order.Pinned
import FieldOrder.Proofs.Order.Preorder
import FieldOrder.Proofs.Patch.Agreement
import FieldOrder.Proofs.Patch.Stretches
import FieldOrder.Proofs.Schema.Null
import FieldOrder.Proofs.Syntax.Paths
