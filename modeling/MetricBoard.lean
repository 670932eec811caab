import MetricBoard.Folder
import MetricBoard.Proofs.Dashboard.Integer
import MetricBoard.Proofs.Dashboard.LastValue
import MetricBoard.Proofs.Engine.Defaults
import MetricBoard.Proofs.Engine.Failure
import MetricBoard.Proofs.Engine.Interference
import MetricBoard.Proofs.Engine.Order
import MetricBoard.Proofs.Error.Label
import MetricBoard.Proofs.Options.History
import MetricBoard.Proofs.Options.Leaves
import MetricBoard.Proofs.Options.ListReading
import MetricBoard.Proofs.Options.Numbers
import MetricBoard.Proofs.Time.Spelling
import MetricBoard.Proofs.Widget.Advice
