import MetricPaths.Main
import MetricPaths.Session
import MetricPaths.Json.Reader
import MetricPaths.Proofs.LabelPath.Normal
import MetricPaths.Proofs.Batch
import MetricPaths.Proofs.Session
import MetricPaths.Proofs.Frozen.ReadOnly
import MetricPaths.Proofs.Layout.Separators
import MetricPaths.Proofs.RulesFile
import MetricPaths.Proofs.Template.Blind
import MetricPaths.Proofs.Template.Evaluation
import MetricPaths.Proofs.Template.Labels
import MetricPaths.Proofs.LabelOrder
import MetricPaths.Proofs.CommandLine.Translate
import MetricPaths.Proofs.LabelPath.Grammar
import MetricPaths.Proofs.CommandLine.Ending
import MetricPaths.Proofs.CommandLine.RoundTrip
import MetricPaths.Proofs.Yaml.LongNumber
import MetricPaths.Proofs.Segment.Language
import MetricPaths.Proofs.Rule.Acceptance
import MetricPaths.Proofs.CommandLine.Parse
import MetricPaths.Proofs.Template.Escaped
import MetricPaths.Proofs.Rule.Matching
import MetricPaths.Proofs.Config.FullForm
import MetricPaths.Proofs.Template.Access
import MetricPaths.Proofs.Metric.Arguments
import MetricPaths.Proofs.Segment.Concatenation
import MetricPaths.Proofs.Command.Markup
import MetricPaths.Proofs.CommandLine.Check
