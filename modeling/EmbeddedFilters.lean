import EmbeddedFilters.Options.Cell
import EmbeddedFilters.Watching.Desk
import EmbeddedFilters.Workbench.Records
import EmbeddedFilters.Workbench.Sensors
import EmbeddedFilters.Workbench.View
import EmbeddedFilters.Proofs.Number.Rounding
import EmbeddedFilters.Proofs.Number.Shortest
import EmbeddedFilters.Proofs.Number.Written
import EmbeddedFilters.Proofs.Json.Strings
import EmbeddedFilters.Proofs.Json.Trees
import EmbeddedFilters.Proofs.Parameters.Completeness
import EmbeddedFilters.Proofs.Parameters.Filling
import EmbeddedFilters.Proofs.Parameters.Forms
import EmbeddedFilters.Proofs.Parameters.Layout
import EmbeddedFilters.Proofs.Options.Coercion
import EmbeddedFilters.Proofs.Options.Numbering
import EmbeddedFilters.Proofs.Options.WholeBounds
import EmbeddedFilters.Proofs.Capability.Registry
import EmbeddedFilters.Proofs.Watching.Standing
import EmbeddedFilters.Proofs.Watching.Closing
import EmbeddedFilters.Proofs.Delivery.Routing
import EmbeddedFilters.Proofs.Device
import EmbeddedFilters.Proofs.Device.Accounting
import EmbeddedFilters.Proofs.Device.Operations
import EmbeddedFilters.Proofs.Device.Pushes
import EmbeddedFilters.Proofs.Filter.Advertised
import EmbeddedFilters.Proofs.Filter.Fallback
import EmbeddedFilters.Proofs.Remote.Merging
import EmbeddedFilters.Proofs.Remote.Stating
import EmbeddedFilters.Proofs.Wire.Messages
import EmbeddedFilters.Proofs.Wire.Topics
import EmbeddedFilters.Proofs.Workbench.Agreement
import EmbeddedFilters.Proofs.Workbench.Announcements
import EmbeddedFilters.Proofs.Workbench.Attaching
import EmbeddedFilters.Proofs.Workbench.DeclaredRanges
import EmbeddedFilters.Proofs.Workbench.FailedWrites
import EmbeddedFilters.Proofs.Workbench.LiveUsers
import EmbeddedFilters.Proofs.Workbench.OfflineWrites
import EmbeddedFilters.Proofs.Workbench.Overwriting
import EmbeddedFilters.Proofs.Workbench.Pairing
import EmbeddedFilters.Proofs.Workbench.Reattaching
import EmbeddedFilters.Proofs.Workbench.Rebuilding
import EmbeddedFilters.Proofs.Workbench.Restoring
import EmbeddedFilters.Proofs.Workbench.SensorBytes
import EmbeddedFilters.Proofs.Workbench.SettingsRoundTrip
import EmbeddedFilters.Proofs.Workbench.TearDown
import EmbeddedFilters.Proofs.Workbench.WorkerLife
