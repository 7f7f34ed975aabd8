import RpaPlatform.TaskOwnership
import RpaPlatform.AgentRevocation
import RpaPlatform.AgentLockOut
import RpaPlatform.AgentResync
import RpaPlatform.AgentTokenReuse
import RpaPlatform.AgentRotation
import RpaPlatform.AgentStranger
import RpaPlatform.PipelineProgress
import RpaPlatform.TaskReporting
import RpaPlatform.FrontendRevocation
import RpaPlatform.VisibilityEnforcement
import RpaPlatform.SettingsPatches
import RpaPlatform.WindowTracking
import RpaPlatform.ReleaseCache
import RpaPlatform.DeploymentForeignKeys
import RpaPlatform.SingleDeployment
import RpaPlatform.DeploymentTasks
import RpaPlatform.StandingDeletions
import RpaPlatform.AgentAuthorization
import RpaPlatform.TaskOutput
import RpaPlatform.TaskExecutions
import RpaPlatform.ExpirySpares
import RpaPlatform.AgentJwtCodec
import RpaPlatform.WatcherTables
import RpaPlatform.HostMismatch
import RpaPlatform.SettingsMerge
import RpaPlatform.ProcessEvents
import RpaPlatform.PipelineAtomicity
import RpaPlatform.ReplicaContents
import RpaPlatform.SelectiveCloses
import RpaPlatform.SessionReuse
import RpaPlatform.LogPaths
import RpaPlatform.TelemetryQueries
import RpaPlatform.LogPages
import RpaPlatform.ProvisioningIdempotence
import RpaPlatform.ConnectionSelection
import RpaPlatform.MetadataMerge
import RpaPlatform.ProcessForest
import RpaPlatform.DevicePaths
import RpaPlatform.NetworkCounters
import RpaPlatform.WindowTargets
import RpaPlatform.HostBinding
import RpaPlatform.TaskMessages
import RpaPlatform.RegistryAgents
import RpaPlatform.ProcessTables
import RpaPlatform.SessionNames
import RpaPlatform.ChecksumSelection
import RpaPlatform.UserGate
