import Pruning.Main
import Pruning.Proofs.Analysis.Survival
import Pruning.Proofs.Manifest.Rereading
import Pruning.Proofs.Module.RoundTrip
import Pruning.Session
import Pruning.Text.Base64
import Pruning.Proofs.Analysis.Cancellation
import Pruning.Proofs.Removal.Selection
import Pruning.Proofs.Visibility.Editing
import Pruning.Proofs.Analysis.Fixpoint
import Pruning.Proofs.Analysis.Failures
import Pruning.Proofs.Analysis.Monotonicity
import Pruning.Proofs.Analysis.Locality
import Pruning.Proofs.Workspace.Reading
import Pruning.Proofs.Registry.Sources
import Pruning.Proofs.Command.Keeping
import Pruning.Proofs.Path
import Pruning.Proofs.Workspace.Writing
import Pruning.Proofs.Command.Prune
import Pruning.Proofs.Program
import Pruning.Proofs.Reexport.Remainder
import Pruning.Proofs.Command.Reporting
import Pruning.Proofs.Reexport.Preorder
import Pruning.Proofs.Module.NameWidth
import Pruning.Proofs.Manifest.Grammar
import Pruning.Proofs.Manifest.Succession
import Pruning.Proofs.Module.LineWidth
import Pruning.Proofs.Registry.Ranking
import Pruning.Proofs.Registry.FailedAdditions
import Pruning.Proofs.Manifest.Decomposition
import Pruning.Proofs.Registry.Stages
import Pruning.Proofs.Removal.Effect
import Pruning.Proofs.Analysis.Accounting
