import OperatorController.Go
import OperatorController.Api
import OperatorController.CrdUpgradeSafety.CrossVersion
import OperatorController.CrdUpgradeSafety.Preflight
import OperatorController.ContentManager.Scheme
import OperatorController.ContentManager.Instance
import OperatorController.ContentManager.RuntimeScheme
import OperatorController.Applier.PostRenderer
import OperatorController.Applier.Helm
import OperatorController.Applier.Preflights
import OperatorController.Resolution.Sort
import OperatorController.Resolution.Resolver
import OperatorController.Applier.Contract
import OperatorController.Applier.Labels
import OperatorController.Resolution.Scan
import OperatorController.Applier.Reapply
import OperatorController.Applier.UpgradeSafety
