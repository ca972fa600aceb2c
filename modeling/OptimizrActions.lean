import OptimizrActions.Remediation.Binding
import OptimizrActions.ContainerRelease.Aggregate
import OptimizrActions.Publisher.Agreement
import OptimizrActions.Retry.Counts
import OptimizrActions.Oci.Graph
import OptimizrActions.Oci.Confinement
import OptimizrActions.Lib.Pattern
import OptimizrActions.Ci.Classify
import OptimizrActions.Ci.Laws
import OptimizrActions.Delivery.Executor
import OptimizrActions.Delivery.Manifest
import OptimizrActions.Delivery.Protocol
import OptimizrActions.Delivery.Rollback
import OptimizrActions.Delivery.RoundTrip
import OptimizrActions.Evidence.Bundle
import OptimizrActions.Evidence.BundleLaws
import OptimizrActions.Evidence.Faithful
import OptimizrActions.Evidence.Producer
import OptimizrActions.Evidence.Suite
import OptimizrActions.Evidence.SuiteLaws
import OptimizrActions.Lib.Segments
import OptimizrActions.SecurityGate.Classes
import OptimizrActions.SecurityGate.Filter
import OptimizrActions.SecurityGate.FilterLaws
import OptimizrActions.SecurityGate.FilterScope
import OptimizrActions.SecurityGate.Baseline
import OptimizrActions.SecurityGate.BaselineLaws
import OptimizrActions.Lib.Directory
import OptimizrActions.DeployManifest.Write
import OptimizrActions.DeployManifest.Remediation
import OptimizrActions.DeployManifest.WriteLaws
import OptimizrActions.DeployManifest.Pointer
import OptimizrActions.Lib.Newest
import OptimizrActions.DeployManifest.Retention
import OptimizrActions.Delivery.Reasons
import OptimizrActions.Delivery.Recordable
import OptimizrActions.Delivery.Refs
import OptimizrActions.Delivery.Consistency
import OptimizrActions.Publisher.Record
import OptimizrActions.SecurityGate.Accounting
import OptimizrActions.Lib.Persistent
import OptimizrActions.Remediation.Monotone
import OptimizrActions.ContainerRelease.CandidateExceptions
import OptimizrActions.Lib.Attempts
import OptimizrActions.ContainerRelease.RetryNetwork
import OptimizrActions.ContainerRelease.Provenance
import OptimizrActions.SecurityGate.ImageTransport
import OptimizrActions.DeployManifest.Atomic
import OptimizrActions.DeploySnapshot.PruneLaws
import OptimizrActions.EnvWriter.RenderLaws
import OptimizrActions.EnvWriter.WriteLaws
import OptimizrActions.Deploy.VolumeLaws
import OptimizrActions.Deploy.ProbeLaws
import OptimizrActions.Lib.Marker
import OptimizrActions.Lib.Template
import OptimizrActions.OrgAudit.MarkedSection
import OptimizrActions.OrgAudit.MarkedSectionLaws
import OptimizrActions.QualityGate.Metrics
import OptimizrActions.QualityGate.Compare
import OptimizrActions.QualityGate.Monotone
import OptimizrActions.QualityGate.Parse
import OptimizrActions.QualityGate.Collect
import OptimizrActions.QualityGate.Relocation
import OptimizrActions.Lib.Lines
import OptimizrActions.PrMetadata.ChangedFiles
import OptimizrActions.PrMetadata.ChangedFilesLaws
import OptimizrActions.SecurityGate.Freshness
import OptimizrActions.SecurityGate.FreshnessLaws
import OptimizrActions.QualityGate.Gate
import OptimizrActions.QualityGate.Soundness
import OptimizrActions.Delivery.SnapshotSync
import OptimizrActions.Delivery.SnapshotSyncLaws
import OptimizrActions.Lib.JsonPath
import OptimizrActions.SastGate.Sarif
import OptimizrActions.DependencyPolicy.Policy
import OptimizrActions.DependencyPolicy.PolicyLaws
import OptimizrActions.Lib.Fresh
import OptimizrActions.PostgresMigration.Diagnostics
import OptimizrActions.PostgresMigration.DiagnosticsLaws
import OptimizrActions.PrMetadata.ApiClient
import OptimizrActions.PrMetadata.ApiClientLaws
import OptimizrActions.Lib.Spans
import OptimizrActions.OrgAudit.JobBlocks
import OptimizrActions.OrgAudit.JobBlocksLaws
import OptimizrActions.Lib.Descent
import OptimizrActions.StaticLint.Queue
import OptimizrActions.StaticLint.QueueLaws
import OptimizrActions.StaticLint.Actionlint
import OptimizrActions.StaticLint.ActionlintLaws
import OptimizrActions.CapabilityCatalog.WorkflowCall
import OptimizrActions.CapabilityCatalog.Search
import OptimizrActions.CapabilityCatalog.WorkflowCallLaws
import OptimizrActions.StaticSite.Deploy
import OptimizrActions.StaticSite.DeployLaws
import OptimizrActions.Lib.Flock
import OptimizrActions.SecurityGate.CacheLocks
import OptimizrActions.SecurityGate.CacheLocksLaws
import OptimizrActions.Lib.Sections
import OptimizrActions.Delivery.Concurrent
import OptimizrActions.Delivery.Checkout
import OptimizrActions.Delivery.Remotes
import OptimizrActions.Delivery.CheckoutLaws
import OptimizrActions.Delivery.Adapters
import OptimizrActions.RepositoryValidation.Workspace
import OptimizrActions.RepositoryValidation.WorkspaceLaws
import OptimizrActions.RepositoryValidation.Run
import OptimizrActions.RepositoryValidation.RunLaws
import OptimizrActions.ValidationGate.Attestation
import OptimizrActions.ValidationGate.Gate
import OptimizrActions.ValidationGate.GateLaws
