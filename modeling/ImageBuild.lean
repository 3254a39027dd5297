import ImageBuild.StringMap
import ImageBuild.Text.Cut
import ImageBuild.Text.CharClass
import ImageBuild.Document
import ImageBuild.LineDiff
import ImageBuild.Negotiation
import ImageBuild.Decimal.Shortest
import ImageBuild.Json.Printer
import ImageBuild.Json.Parser
import ImageBuild.Json.Basic
import ImageBuild.Yaml.Plain
import ImageBuild.Yaml.Printer
import ImageBuild.ImageReference
import ImageBuild.BuildLog
import ImageBuild.Cluster.Env
import ImageBuild.Cluster.Scheduling
import ImageBuild.Build.Binding
import ImageBuild.Build.Builder
import ImageBuild.Build.Config
import ImageBuild.Build.Credential
import ImageBuild.Build.Request
import ImageBuild.Cluster.Container
import ImageBuild.Cluster.Pod
import ImageBuild.Decimal.Signed
import ImageBuild.Plan.Attachment
import ImageBuild.Plan.Cache
import ImageBuild.Plan.Basic
import ImageBuild.Plan.Pod
import ImageBuild.Change.Basic
import ImageBuild.Change.Snapshot
import ImageBuild.Change.Summary
import ImageBuild.Reconcile
import ImageBuild.Cluster.ServiceAccount
import ImageBuild.Yaml.Characters
import ImageBuild.Yaml.Lexer
import ImageBuild.Yaml.Token
import ImageBuild.Yaml.PlainText
import ImageBuild.Yaml.QuotedText
import ImageBuild.Yaml.BlockText
import ImageBuild.Yaml.Node
import ImageBuild.Yaml.Reader
import ImageBuild.Timestamp
import ImageBuild.Command.Option
import ImageBuild.Command.Invocation
import ImageBuild.Command.Run
import ImageBuild.Main
import ImageBuild.Proofs.Text.Cut
import ImageBuild.Proofs.Except
import ImageBuild.Proofs.Names
import ImageBuild.Proofs.Cluster.ServiceAccount
import ImageBuild.Proofs.Decimal.Signed
import ImageBuild.Proofs.Decimal.Canonical
import ImageBuild.Proofs.Version.Reading
import ImageBuild.Proofs.Json.Literal
import ImageBuild.Proofs.Json.Reading
import ImageBuild.Proofs.Json.Sorted
import ImageBuild.Proofs.Json.Shown
import ImageBuild.Proofs.Codec.Lossless
import ImageBuild.Proofs.Codec.Records
import ImageBuild.Proofs.Codec.SourceKind
import ImageBuild.Proofs.Version.Grammar
import ImageBuild.Proofs.ImageReference.Host
import ImageBuild.Proofs.ImageReference.SingleLine
import ImageBuild.Proofs.BuildLog.Reading
import ImageBuild.Proofs.LineDiff.Shortest
import ImageBuild.Proofs.LineDiff.Divergence
import ImageBuild.Proofs.Change.BuildpackOrder
import ImageBuild.Proofs.Change.Required
import ImageBuild.Proofs.Change.Summary
import ImageBuild.Proofs.Change.Failure
import ImageBuild.Proofs.Change.Decision
import ImageBuild.Proofs.Change.History
import ImageBuild.Proofs.Change.Payload
import ImageBuild.Proofs.Change.Arrangement
import ImageBuild.Proofs.BuildLog.Shown
import ImageBuild.Proofs.Plan.Outcome
import ImageBuild.Proofs.Plan.StepPass
import ImageBuild.Proofs.Plan.Rebase
import ImageBuild.Proofs.Reconcile
import ImageBuild.Proofs.Plan.VolumeName
import ImageBuild.Proofs.Plan.AttachedNames
import ImageBuild.Proofs.Plan.VolumeClosure
import ImageBuild.Proofs.Plan.Windows
import ImageBuild.Proofs.Plan.MountPath
import ImageBuild.Proofs.Plan.Containment
import ImageBuild.Proofs.Plan.Flag
import ImageBuild.Proofs.Plan.Phases
import ImageBuild.Proofs.Plan.UserVariables
import ImageBuild.Proofs.Plan.PathArguments
import ImageBuild.Proofs.Plan.Restriction
import ImageBuild.Proofs.Plan.ReadOnlyMounts
import ImageBuild.Proofs.Plan.CredentialRule
import ImageBuild.Proofs.Plan.RepeatedNames
import ImageBuild.Proofs.Plan.Failure
import ImageBuild.Proofs.Plan.Tags
import ImageBuild.Proofs.Plan.RebaseInputs
import ImageBuild.Proofs.Plan.BindingWiring
import ImageBuild.Proofs.Plan.PullSecrets
import ImageBuild.Proofs.Plan.CreationTime
import ImageBuild.Proofs.Plan.PresentTime
import ImageBuild.Proofs.Negotiation.Greatest
