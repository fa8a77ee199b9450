import CsmOperator.Concurrency.Bookkeeping
import CsmOperator.Concurrency.ControllerStatus
import CsmOperator.Concurrency.Deadlock
import CsmOperator.Concurrency.LostUpdate
import CsmOperator.Concurrency.PackageVariables
import CsmOperator.Concurrency.ProxyMode
import CsmOperator.Concurrency.Watches
import CsmOperator.Drivers.CSIDriver
import CsmOperator.Drivers.Certificates
import CsmOperator.Drivers.ImagePriority
import CsmOperator.Drivers.Images
import CsmOperator.Drivers.PowerFlex.Mdm
import CsmOperator.Drivers.PowerFlex.Volumes
import CsmOperator.Drivers.PowerFlex.Zones
import CsmOperator.Finalizers.Foreign
import CsmOperator.Finalizers.Guard
import CsmOperator.Modules.Closure
import CsmOperator.Modules.CredentialMounts
import CsmOperator.Modules.NoPanic
import CsmOperator.Modules.RedisPods
import CsmOperator.Modules.Routes
import CsmOperator.Modules.Settings
import CsmOperator.Modules.VaultRemoval
import CsmOperator.OperatorConfig
import CsmOperator.OperatorUtils.ApplyObject
import CsmOperator.OperatorUtils.Arguments
import CsmOperator.OperatorUtils.DefaultComponents
import CsmOperator.OperatorUtils.Environment
import CsmOperator.OperatorUtils.Registry
import CsmOperator.OperatorUtils.UpgradePath
import CsmOperator.OperatorUtils.VersionOrder
import CsmOperator.Outcome.Retried
import CsmOperator.Removal.Driver
import CsmOperator.Removal.Leaks
import CsmOperator.Removal.Modules
import CsmOperator.Removal.Observability
import CsmOperator.Resources.Atomic
import CsmOperator.Status.Modules
import CsmOperator.Status.Persisted
import CsmOperator.Upgrade.Installed
import CsmOperator.WriteBack.Triggers
