import RouteLocalizer.Main
import RouteLocalizer.Sample
import RouteLocalizer.Settings.OfJson
import RouteLocalizer.Store.Memory
import RouteLocalizer.Proofs.Store
import RouteLocalizer.Proofs.Steps
import RouteLocalizer.Proofs.Templates
import RouteLocalizer.Proofs.Places
import RouteLocalizer.Proofs.Trace
import RouteLocalizer.Proofs.Frame
import RouteLocalizer.Proofs.Refusal
import RouteLocalizer.Proofs.DryRun
import RouteLocalizer.Proofs.Runs
import RouteLocalizer.Proofs.Shapes
import RouteLocalizer.Proofs.Binding
import RouteLocalizer.Proofs.Cleared
import RouteLocalizer.Proofs.Component
import RouteLocalizer.Proofs.Declaration
import RouteLocalizer.Proofs.EntryFile
import RouteLocalizer.Proofs.LineEnds
import RouteLocalizer.Proofs.OwnLine
import RouteLocalizer.Proofs.Outside
import RouteLocalizer.Proofs.RouterFile
import RouteLocalizer.Proofs.SecondRun
import RouteLocalizer.Proofs.Isolation
import RouteLocalizer.Proofs.JsonReread
import RouteLocalizer.Proofs.Accounting
import RouteLocalizer.Proofs.Completion
import RouteLocalizer.Proofs.Installation
import RouteLocalizer.Proofs.Agreement
import RouteLocalizer.Proofs.Rewiring
import RouteLocalizer.Proofs.KeptImports
import RouteLocalizer.Proofs.MovedBinding
import RouteLocalizer.Proofs.RepeatedSwap
import RouteLocalizer.Proofs.Parentheses
import RouteLocalizer.Proofs.IntactLine
import RouteLocalizer.Proofs.SingleImport
import RouteLocalizer.Proofs.ObjectLiteral
import RouteLocalizer.Proofs.Mistaken
import RouteLocalizer.Proofs.SameImport
import RouteLocalizer.Proofs.ImportBlock
import RouteLocalizer.Proofs.WholeNames
import RouteLocalizer.Proofs.Anchor
import RouteLocalizer.Proofs.Placeholders
import RouteLocalizer.Proofs.ManifestEntry
import RouteLocalizer.Proofs.Rendering
import RouteLocalizer.Proofs.VersionGate
import RouteLocalizer.Proofs.Hiding
import RouteLocalizer.Proofs.Restoring
import RouteLocalizer.Proofs.GroupedSpan
import RouteLocalizer.Proofs.VariableText
import RouteLocalizer.Proofs.Questions
