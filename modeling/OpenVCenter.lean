import OpenVCenter.Foundations.Machine
import OpenVCenter.Cache
import OpenVCenter.VmInventory
import OpenVCenter.LateAnswer
import OpenVCenter.LateProgress
import OpenVCenter.WireResponse
import OpenVCenter.System
import OpenVCenter.Response
import OpenVCenter.Placeholders
import OpenVCenter.LockFrame
import OpenVCenter.RequestFrames
import OpenVCenter.MutualExclusion
import OpenVCenter.Foundations.Replace
import OpenVCenter.ChildRace
import OpenVCenter.StatusRace
import OpenVCenter.CloneSource
import OpenVCenter.CommitRace
import OpenVCenter.AuditTrail
import OpenVCenter.Transitional
import OpenVCenter.LockRelease
import OpenVCenter.TemplateInventory
import OpenVCenter.HostIsolation
import OpenVCenter.HostMove
import OpenVCenter.VmListing
import OpenVCenter.TagCounts
import OpenVCenter.TaskListing
import OpenVCenter.TimeoutSweep
import OpenVCenter.InstallScript
import OpenVCenter.OverlayRuns
import OpenVCenter.Access
import OpenVCenter.Accounts
import OpenVCenter.AgentStore
import OpenVCenter.UrlTokens
import OpenVCenter.StoragePaths
import OpenVCenter.TagAudit
import OpenVCenter.AuditListing
import OpenVCenter.TagRace
import OpenVCenter.HostTaskRace
import OpenVCenter.Rollout
import OpenVCenter.Homogeneity
import OpenVCenter.Placement
import OpenVCenter.Nics
import OpenVCenter.HardwareReads
import OpenVCenter.HardwareKept
import OpenVCenter.ItemReads
import OpenVCenter.Idempotence
import OpenVCenter.LeanPayload
import OpenVCenter.VlanScopes
import OpenVCenter.Teardown
import OpenVCenter.Reconciliation
import OpenVCenter.VmRoundTrip
import OpenVCenter.RefreshTwice
import OpenVCenter.HereString
import OpenVCenter.RolesClaim
import OpenVCenter.AuditSearch
import OpenVCenter.Sweepers
import OpenVCenter.Subscriptions
import OpenVCenter.QueuePermissions
import OpenVCenter.JwksCache
import OpenVCenter.FirstRequests
import OpenVCenter.AgentUrl
import OpenVCenter.RequestLog
import OpenVCenter.RowKeys
import OpenVCenter.Handover
import OpenVCenter.Redelivery
import OpenVCenter.DeletedVm
import OpenVCenter.NewVm
import OpenVCenter.AgentBinaries
import OpenVCenter.BinaryRuns
import OpenVCenter.BinaryStore
import OpenVCenter.ActiveBinary
import OpenVCenter.Confinement
import OpenVCenter.Publication
import OpenVCenter.CoherentRuns
