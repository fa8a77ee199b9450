import Mathlib.Data.List.Basic
import Mathlib.Logic.Function.Basic

/-!
# The custom resource: `api/v1`

`ContainerStorageModule` and the types under it, with the fields the modelled functions read or
write, and the methods of `csm_types.go`. The three named string types of the source (`DriverType`,
`ModuleType`, `CSMStateType`) are open: a CR may carry any text. Each becomes an inductive type with
one constructor for every constant of the source and one for the remaining texts, which carries the
proof that it is none of the constants.
-/

namespace CsmOperator

/-! ## Named string types -/

/-- The texts of the `DriverType` constants, and the empty one of a CR without a driver. -/
def driverTypeTexts : List String :=
  ["", "powerflex", "vxflexos", "powermax", "isilon", "powerscale", "unity", "powerstore", "cosi"]

inductive DriverType where
  | unset
  | powerFlex
  | powerFlexName
  | powerMax
  | powerScale
  | powerScaleName
  | unity
  | powerStore
  | cosi
  | other (text : String) (h : text ∉ driverTypeTexts)
  deriving DecidableEq, Repr

def DriverType.text : DriverType → String
  | unset => ""
  | powerFlex => "powerflex"
  | powerFlexName => "vxflexos"
  | powerMax => "powermax"
  | powerScale => "isilon"
  | powerScaleName => "powerscale"
  | unity => "unity"
  | powerStore => "powerstore"
  | cosi => "cosi"
  | other text _ => text

/-- The texts of the `ModuleType` constants. -/
def moduleTypeTexts : List String :=
  ["replication", "resiliency", "observability", "podmon", "vgsnapshotter", "authorization",
    "authorization-proxy-server", "csireverseproxy", "csipowermax-reverseproxy"]

inductive ModuleType where
  | replication
  | resiliency
  | observability
  | podMon
  | vgSnapShotter
  | authorization
  | authorizationServer
  | reverseProxy
  | reverseProxyServer
  | other (text : String) (h : text ∉ moduleTypeTexts)
  deriving DecidableEq, Repr

def ModuleType.text : ModuleType → String
  | replication => "replication"
  | resiliency => "resiliency"
  | observability => "observability"
  | podMon => "podmon"
  | vgSnapShotter => "vgsnapshotter"
  | authorization => "authorization"
  | authorizationServer => "authorization-proxy-server"
  | reverseProxy => "csireverseproxy"
  | reverseProxyServer => "csipowermax-reverseproxy"
  | other text _ => text

/-- The texts of the driver states in `pkg/constants`. -/
def stateTexts : List String :=
  ["Running", "Succeeded", "Creating", "Failed", "InvalidConfig", "", "Updating"]

inductive CSMStateType where
  | running
  | succeeded
  | creating
  | failed
  | invalidConfig
  | noState
  | updating
  | other (text : String) (h : text ∉ stateTexts)
  deriving DecidableEq, Repr

def CSMStateType.text : CSMStateType → String
  | running => "Running"
  | succeeded => "Succeeded"
  | creating => "Creating"
  | failed => "Failed"
  | invalidConfig => "InvalidConfig"
  | noState => ""
  | updating => "Updating"
  | other text _ => text

/-! ## The resource -/

/-- A string map that is not nil. -/
abbrev StrMap := String → Option String

/-- `m[k]` in Go: the empty string when the key is absent or the map is nil. -/
def goLookup (m : Option StrMap) (k : String) : String := ((m.bind (· k)).getD "")

structure NamespacedName where
  namesp : String
  name : String
  deriving DecidableEq, Repr

/-- A name and a value; where else a value can come from is not read. -/
structure EnvVar where
  name : String
  value : String := ""
  deriving DecidableEq, Repr

structure ConjurCredentialPath where
  usernamePath : String := ""
  passwordPath : String := ""
  deriving DecidableEq, Repr

structure ConjurSecretProviderClass where
  name : String := ""
  paths : List ConjurCredentialPath := []
  deriving DecidableEq, Repr

structure StorageSystemSecretProviderClasses where
  vaults : List String := []
  conjurs : List ConjurSecretProviderClass := []
  deriving DecidableEq, Repr

structure RedisSecretProviderClass where
  secretProviderClassName : String := ""
  redisSecretName : String := ""
  redisUsernameKey : String := ""
  redisPasswordKey : String := ""
  /-- a pointer in the source: `none` is nil -/
  conjur : Option ConjurCredentialPath := none
  deriving DecidableEq, Repr

structure ConjurConfigPath where
  secretPath : String := ""
  deriving DecidableEq, Repr

structure ConfigSecretProviderClass where
  secretProviderClassName : String := ""
  configSecretName : String := ""
  /-- a pointer in the source: `none` is nil -/
  conjur : Option ConjurConfigPath := none
  deriving DecidableEq, Repr

structure ProxyServerIngress where
  ingressClassName : String := ""
  hosts : List String := []
  annotations : List (String × String) := []
  deriving DecidableEq, Repr

structure ProxyServerGateway where
  hosts : List String := []
  annotations : List (String × String) := []
  deriving DecidableEq, Repr

/-- A container of the CR. The fields after the environment are those of the components of the
authorization server. -/
structure ContainerTemplate where
  name : String := ""
  /-- a pointer in the source: `none` is nil -/
  enabled : Option Bool := none
  image : String := ""
  imagePullPolicy : String := ""
  args : List String := []
  envs : List EnvVar := []
  hostname : String := ""
  certificate : String := ""
  privateKey : String := ""
  proxyServerIngress : List ProxyServerIngress := []
  /-- a pointer in the source: `none` is nil -/
  gateway : Option ProxyServerGateway := none
  proxyService : String := ""
  proxyServiceReplicas : Int := 0
  opa : String := ""
  opaKubeMgmt : String := ""
  tenantService : String := ""
  tenantServiceReplicas : Int := 0
  storageService : String := ""
  storageServiceReplicas : Int := 0
  leaderElection : Bool := false
  openTelemetryCollectorAddress : String := ""
  redis : String := ""
  redisName : String := ""
  redisReplicas : Int := 0
  redisCommander : String := ""
  commander : String := ""
  sentinel : String := ""
  /-- a pointer in the source: `none` is nil -/
  secretProviderClasses : Option StorageSystemSecretProviderClasses := none
  secrets : List String := []
  redisUsername : String := ""
  redisPassword : String := ""
  redisSecretProviderClass : List RedisSecretProviderClass := []
  configSecretProviderClass : List ConfigSecretProviderClass := []
  deriving DecidableEq, Repr

structure Module where
  name : ModuleType
  enabled : Bool
  configVersion : String := ""
  components : List ContainerTemplate := []
  /-- the list is empty and not nil: `components: []` -/
  emptyComponents : Bool := false
  forceRemoveModule : Bool := false
  deriving DecidableEq, Repr

structure GatewayMonitoringConfig where
  enabled : Bool := false
  /-- a pointer in the source: `none` is nil -/
  leaderElectionEnabled : Option Bool := none
  pollInterval : String := ""
  deriving DecidableEq, Repr

structure DriverMetrics where
  enabled : Bool := false
  port : Int := 0
  tlsCertSecret : String := ""
  /-- a pointer in the source: `none` is nil -/
  gatewayMonitoring : Option GatewayMonitoringConfig := none
  deriving DecidableEq, Repr

structure CSIDriverSpec where
  fSGroupPolicy : String := ""
  storageCapacity : Bool := false
  deriving DecidableEq, Repr

structure Driver where
  csiDriverType : DriverType := .unset
  configVersion : String := ""
  replicas : Int := 0
  /-- a pointer in the source: `none` is nil -/
  forceRemoveDriver : Option Bool := none
  authSecret : String := ""
  /-- the three templates are pointers in the source: `none` is nil -/
  common : Option ContainerTemplate := none
  controller : Option ContainerTemplate := none
  node : Option ContainerTemplate := none
  sideCars : List ContainerTemplate := []
  initContainers : List ContainerTemplate := []
  /-- a pointer in the source: `none` is nil -/
  metrics : Option DriverMetrics := none
  /-- a pointer in the source: `none` is nil -/
  csiDriverSpec : Option CSIDriverSpec := none
  deriving DecidableEq, Repr

/-- `Common.Envs`, where there is one. -/
def Driver.commonEnvs (d : Driver) : List EnvVar := (d.common.map (·.envs)).getD []

structure ContainerStorageModuleSpec where
  version : String := ""
  driver : Driver := {}
  modules : List Module := []
  customRegistry : String := ""
  retainImageRegistryPath : Bool := false
  deriving DecidableEq, Repr

structure PodStatus where
  available : String := ""
  desired : String := ""
  failed : String := ""
  deriving DecidableEq, Repr

structure ContainerStorageModuleStatus where
  controllerStatus : PodStatus := {}
  nodeStatus : PodStatus := {}
  state : CSMStateType := .noState
  lastSuccessfulConfiguration : String := ""
  deriving DecidableEq, Repr

structure ContainerStorageModule where
  name : String := ""
  namesp : String := ""
  uid : String := ""
  resourceVersion : Nat := 0
  /-- `none` is the nil map -/
  annotations : Option StrMap := none
  finalizers : List String := []
  deletionTimestamp : Option Nat := none
  spec : ContainerStorageModuleSpec := {}
  status : ContainerStorageModuleStatus := {}

namespace ContainerStorageModule

variable (cr : ContainerStorageModule)

/-- The key under which the API server stores the CR. -/
def key : NamespacedName := ⟨cr.namesp, cr.name⟩

def getControllerName : String :=
  if cr.spec.driver.csiDriverType = .cosi then cr.name else cr.name ++ "-controller"

def getNodeName : String := cr.name ++ "-node"

def getDriverType : DriverType := cr.spec.driver.csiDriverType

/-- The first module of the type, and the zero module when there is none. -/
def getModule (moduleType : ModuleType) : Module :=
  (cr.spec.modules.find? (·.name = moduleType)).getD
    { name := .other "" (by decide), enabled := false }

def hasModule (moduleType : ModuleType) : Bool :=
  cr.spec.modules.any (·.name = moduleType)

def isBeingDeleted : Bool := cr.deletionTimestamp.isSome

def hasFinalizer (finalizerName : String) : Bool := cr.finalizers.any (· = finalizerName)

/-! Updates of the status; they leave the rest of the CR alone. -/

def withStatus (st : ContainerStorageModuleStatus) : ContainerStorageModule :=
  { cr with status := st }

def setState (s : CSMStateType) : ContainerStorageModule :=
  cr.withStatus { cr.status with state := s }

def setNodeStatus (s : PodStatus) : ContainerStorageModule :=
  cr.withStatus { cr.status with nodeStatus := s }

def setControllerStatus (s : PodStatus) : ContainerStorageModule :=
  cr.withStatus { cr.status with controllerStatus := s }

def setLastSuccessfulConfiguration (c : String) : ContainerStorageModule :=
  cr.withStatus { cr.status with lastSuccessfulConfiguration := c }

variable (st st' : ContainerStorageModuleStatus)

@[simp] theorem withStatus_status : (cr.withStatus st).status = st := rfl
@[simp] theorem withStatus_spec : (cr.withStatus st).spec = cr.spec := rfl
@[simp] theorem withStatus_key : (cr.withStatus st).key = cr.key := rfl
@[simp] theorem withStatus_name : (cr.withStatus st).name = cr.name := rfl
@[simp] theorem withStatus_annotations : (cr.withStatus st).annotations = cr.annotations := rfl
@[simp] theorem withStatus_withStatus : (cr.withStatus st).withStatus st' = cr.withStatus st' := rfl
@[simp] theorem withStatus_self : cr.withStatus cr.status = cr := rfl

end ContainerStorageModule

/-- `isAuthorizationProxyServer` of `status.go`: some module entry is the authorization proxy
server, enabled or not. -/
def isAuthorizationProxyServer (cr : ContainerStorageModule) : Bool :=
  cr.hasModule .authorizationServer

@[simp] theorem isAuthorizationProxyServer_withStatus (cr : ContainerStorageModule)
    (st : ContainerStorageModuleStatus) :
    isAuthorizationProxyServer (cr.withStatus st) = isAuthorizationProxyServer cr := rfl

/-- A CR of a storage driver: it has a name and lists no authorization proxy server. -/
structure IsDriverCR (cr : ContainerStorageModule) : Prop where
  name_ne : cr.name ≠ ""
  not_proxy : isAuthorizationProxyServer cr = false

end CsmOperator
