import ComputeMesh.Billing.JobConcurrency
import ComputeMesh.Billing.OwnerBuckets
import ComputeMesh.Billing.CheckoutCredits
import ComputeMesh.Billing.ProviderTransfers
import ComputeMesh.Billing.OwnerPayoutSafety
import ComputeMesh.Billing.OwnerPayoutBooks
import ComputeMesh.Billing.PromoOnce
import ComputeMesh.Orchestrator.StoreRefinement
import ComputeMesh.Orchestrator.CommandReplay
import ComputeMesh.Orchestrator.SettlementRecovery
import ComputeMesh.Orchestrator.RecoveredCapacity
import ComputeMesh.Orchestrator.LeaseDeadlines
import ComputeMesh.Orchestrator.SharedConnection
import ComputeMesh.Orchestrator.WorkerHaSafety
import ComputeMesh.Protocol.SessionReplay
import ComputeMesh.Orchestrator.ChannelDelivery
import ComputeMesh.Runtime.ShardQuorum
import ComputeMesh.Runtime.QuotaAccounting
import ComputeMesh.Runtime.CacheRestart
import ComputeMesh.Runtime.CapacityLeases
import ComputeMesh.Scheduler.CacheEviction
import ComputeMesh.Platform.QueuedTurns
import ComputeMesh.Platform.RestartRecovery
import ComputeMesh.Platform.CancelRequests
import ComputeMesh.Platform.ExecutingTurns
import ComputeMesh.Platform.ApprovalHistory
import ComputeMesh.Platform.OutboxDelivery
import ComputeMesh.Platform.WorkflowOutcome
import ComputeMesh.Platform.WorkflowExclusive
import ComputeMesh.Platform.WorkerAdmissions
import ComputeMesh.Platform.UsageQuotas
import ComputeMesh.Platform.DispatchLeases
import ComputeMesh.Platform.NodeTrust
import ComputeMesh.Platform.ToolReplay
import ComputeMesh.Runtime.SafetyLeases
import ComputeMesh.Runtime.FailoverOnce
import ComputeMesh.Tools.GgufInspection
import ComputeMesh.Gateway.MeteredRecovery
import ComputeMesh.Chain.Replication
import ComputeMesh.Runtime.ProtectedStream
import ComputeMesh.Billing.SharedJournal
import ComputeMesh.Billing.SettlementDaemon
import ComputeMesh.Runtime.ProtectedSessions
import ComputeMesh.Gateway.ForwardedAddress
import ComputeMesh.Compliance.ReviewedIdentity
import ComputeMesh.Billing.AccountNames
import ComputeMesh.Billing.SelfCompute
import ComputeMesh.Billing.LedgerAtomicity
import ComputeMesh.Platform.WorkspaceConfinement
import ComputeMesh.Platform.ArtifactRuns
import ComputeMesh.Platform.EventPages
import ComputeMesh.Platform.ContextBuild
import ComputeMesh.Runtime.CacheLocking
import ComputeMesh.Scheduler.MultiGpuPlanner
import ComputeMesh.Runtime.DynamicSharding
import ComputeMesh.Runtime.MultiClusterFederation
import ComputeMesh.Orchestrator.ProviderRequests
import ComputeMesh.Scheduler.Placement
import ComputeMesh.Billing.GatewayBalance
import ComputeMesh.Chain.ReceiptKeeping
import ComputeMesh.Platform.WorkflowHeartbeats
import ComputeMesh.Gateway.PreauthorisedCharge
import ComputeMesh.Orchestrator.ControlFrames
