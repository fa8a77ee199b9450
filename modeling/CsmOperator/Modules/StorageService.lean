import CsmOperator.Modules.LatestVersion
import CsmOperator.OperatorUtils.Containers

/-!
# The storage service of the authorization server: `pkg/modules/authorization.go`

`authorizationStorageServiceV2` builds a Deployment from a scaffold and mounts the credentials of the
storage systems into it: Kubernetes Secrets, or secret provider classes of Vault and Conjur; and the
class that redis reads its password from. What the function reads of package variables is explicit.
-/

namespace CsmOperator

open Go

/-! ## Pods -/

structure VolumeMount where
  name : String
  mountPath : String
  readOnly : Bool := false
  deriving DecidableEq, Repr

inductive VolumeSource where
  | secret (secretName : String)
  | configMap (name : String)
  | emptyDir
  /-- a volume of `secrets-store.csi.k8s.io`, read-only -/
  | secretProviderClass (name : String)
  deriving DecidableEq, Repr

structure Volume where
  name : String
  source : VolumeSource
  deriving DecidableEq, Repr

structure PodContainer where
  name : String
  image : String := ""
  args : List String := []
  env : List EnvVarApply := []
  ports : List (String × Nat) := []
  volumeMounts : List VolumeMount := []
  deriving DecidableEq, Repr

structure PodSpec where
  containers : List PodContainer := []
  volumes : List Volume := []
  deriving DecidableEq, Repr

/-- A Deployment: its replicas, the annotations of its pods, and their specification. -/
structure PodDeployment where
  name : String
  replicas : Int
  annotations : StrMap
  spec : PodSpec

/-! ## Mounting credentials -/

def storageServiceName : String := "storage-service"

/-- What is done to the first container of the name. -/
def updateFirst (name : String) (f : PodContainer → PodContainer) : List PodContainer → List PodContainer
  | [] => []
  | c :: cs => if c.name = name then f c :: cs else c :: updateFirst name f cs

/-- Something the pod reads credentials from. -/
inductive Credential where
  | secret (name : String)
  | secretProviderClass (name : String)
  deriving DecidableEq, Repr

namespace Credential

def name : Credential → String
  | secret s => s
  | secretProviderClass s => s

def volumeName : Credential → String
  | secret s => "storage-system-secrets-" ++ s
  | secretProviderClass s => "secrets-store-inline-" ++ s

def source : Credential → VolumeSource
  | secret s => .secret s
  | secretProviderClass s => .secretProviderClass s

def mountPath (c : Credential) : String := "/etc/csm-authorization/" ++ c.name

def volume (c : Credential) : Volume := { name := c.volumeName, source := c.source }

def mount (c : Credential) : VolumeMount := { name := c.volumeName, mountPath := c.mountPath, readOnly := true }

end Credential

def PodContainer.addMounts (cs : List Credential) (c : PodContainer) : PodContainer :=
  { c with volumeMounts := c.volumeMounts ++ cs.map (·.mount) }

def mountSecretVolumes (secrets : List String) (spec : PodSpec) : PodSpec where
  volumes := spec.volumes ++ (secrets.map Credential.secret).map (·.volume)
  containers := updateFirst storageServiceName (·.addMounts (secrets.map Credential.secret)) spec.containers

/-- The mounts go to every container of the name: this loop has no `break`. -/
def configureVaultSecretProvider (vaults : List String) (spec : PodSpec) : PodSpec where
  volumes := spec.volumes ++ (vaults.map Credential.secretProviderClass).map (·.volume)
  containers := spec.containers.map fun c =>
    if c.name = storageServiceName then c.addMounts (vaults.map Credential.secretProviderClass) else c

/-- `- path: path`, twice for each pair of paths. -/
def conjurSecretPaths (conjurs : List ConjurSecretProviderClass) : String :=
  join ((conjurs.flatMap (·.paths)).map fun path =>
    "- " ++ path.usernamePath ++ ": " ++ path.usernamePath ++ "\n- " ++ path.passwordPath ++ ": " ++
      path.passwordPath) "\n"

def conjurAnnotation : String := "conjur.org/secrets"

def configureConjurSecretProvider (conjurs : List ConjurSecretProviderClass) (spec : PodSpec) : PodSpec where
  volumes := spec.volumes ++ (conjurs.map fun c => Credential.secretProviderClass c.name).map (·.volume)
  containers := updateFirst storageServiceName
    (·.addMounts (conjurs.map fun c => Credential.secretProviderClass c.name)) spec.containers

/-- The annotation is set with the mounts, when there is a path. -/
def annotateConjur (conjurs : List ConjurSecretProviderClass) (spec : PodSpec) (annotations : StrMap) :
    StrMap :=
  if spec.containers.any (·.name = storageServiceName) ∧ conjurSecretPaths conjurs ≠ "" then
    fun key => if key = conjurAnnotation then some (conjurSecretPaths conjurs) else annotations key
  else annotations

def configureSecretProviderClass (classes : StorageSystemSecretProviderClasses) (d : PodDeployment) :
    PodDeployment :=
  let spec := configureVaultSecretProvider classes.vaults d.spec
  { d with
    spec := configureConjurSecretProvider classes.conjurs spec
    annotations := annotateConjur classes.conjurs spec d.annotations }

/-- Mount a class into every container, unless one container has it already. -/
def mountSPCVolume (spec : PodSpec) (secretProviderClassName : String) : PodSpec :=
  let cred := Credential.secretProviderClass secretProviderClassName
  let volumeExists := spec.volumes.any (·.name = cred.volumeName)
  let mountExists := spec.containers.any fun container =>
    container.volumeMounts.any fun m => m.name = cred.volumeName ∧ m.mountPath = cred.mountPath
  { volumes := if volumeExists then spec.volumes else spec.volumes ++ [cred.volume]
    containers := if mountExists then spec.containers else spec.containers.map (·.addMounts [cred]) }

/-! ## Building the Deployment -/

/-- The package variables of redis and of the configuration Secret. -/
structure AuthVars where
  redisSecretProviderClassName : String := ""
  redisSecretName : String := ""
  redisUsernameKey : String := ""
  redisPasswordKey : String := ""
  redisConjurUsernamePath : String := ""
  redisConjurPasswordPath : String := ""
  configSecretName : String := ""
  configSecretProviderClassName : String := ""
  configSecretPath : String := ""
  deriving DecidableEq, Repr

def defaultRedisSecretName : String := "redis-csm-secret"

def defaultRedisUsernameKey : String := "commander_user"

def defaultRedisPasswordKey : String := "password"

def defaultConfigSecretName : String := "karavi-config-secret"

def AuthVars.useClass (vars : AuthVars) (config : RedisSecretProviderClass) : AuthVars :=
  let vars :=
    if config.secretProviderClassName ≠ "" ∧ config.redisSecretName ≠ "" then
      { vars with
        redisSecretProviderClassName := config.secretProviderClassName
        redisSecretName := config.redisSecretName
        redisUsernameKey := config.redisUsernameKey
        redisPasswordKey := config.redisPasswordKey }
    else vars
  match config.conjur with
  | some conjur =>
    { vars with
      redisConjurUsernamePath := conjur.usernamePath
      redisConjurPasswordPath := conjur.passwordPath }
  | none => vars

def updateRedisGlobalVars (component : ContainerTemplate) (vars : AuthVars) : AuthVars :=
  component.redisSecretProviderClass.foldl AuthVars.useClass
    { vars with
      redisSecretProviderClassName := ""
      redisSecretName := defaultRedisSecretName
      redisUsernameKey := defaultRedisUsernameKey
      redisPasswordKey := defaultRedisPasswordKey
      redisConjurUsernamePath := ""
      redisConjurPasswordPath := "" }

/-- `- path: path` for each path, after what the annotation holds; nothing when a path is empty. -/
def updateConjurAnnotations (annotations : StrMap) (paths : List String) : StrMap :=
  if paths = [] ∨ "" ∈ paths then annotations
  else
    let before := match annotations conjurAnnotation with
      | some v => v ++ "\n"
      | none => ""
    let text := before ++ join (paths.map fun path => "- " ++ path ++ ": " ++ path) "\n"
    fun key => if key = conjurAnnotation then some text else annotations key

/-- What the loop over the components collects. -/
structure StorageInputs where
  replicas : Int := 0
  sentinelName : String := ""
  redisReplicas : Int := 0
  image : String := ""
  secretProviderClasses : Option StorageSystemSecretProviderClasses := none
  secrets : List String := []
  leaderElection : Bool := true
  otelCollector : String := ""
  vars : AuthVars := {}

def defaultStorageServiceImage : String :=
  "quay.io/dell/container-storage-modules/csm-authorization-storage"

/-- `getVersionSpecificDefaultImages` for the storage service. -/
def versionStorageImage (readDir : String → Except GoError (List DirEntry)) (configVersion : String)
    (configDirectory : String) : Except GoError String :=
  if configVersion = "" then
    match getLatestAuthVersion readDir configDirectory with
    | .error e => .error (errorf ("failed to determine latest authorization version: " ++ e.text))
    | .ok latestVersion => .ok (defaultStorageServiceImage ++ ":" ++ latestVersion)
  else .ok (defaultStorageServiceImage ++ ":" ++ configVersion)

def getDefaultAuthImage (componentImage defaultImage : String) : String :=
  if componentImage = "" then defaultImage else componentImage

def getImageForKey (key defaultImage : String) (cr : ContainerStorageModule) (matched : VersionSpec) :
    String :=
  if matched.version ≠ "" ∧ matched.image key ≠ "" then matched.image key
  else if cr.spec.customRegistry ≠ "" then resolveImage defaultImage cr
  else defaultImage

section Build

variable (readDir : String → Except GoError (List DirEntry)) (configDirectory : String)
  (cr : ContainerStorageModule) (matched : VersionSpec) (authModule : Module)

/-- One component. -/
def readComponent (inputs : StorageInputs) (component : ContainerTemplate) : Except GoError StorageInputs :=
  if component.name = "proxy-server" then
    match versionStorageImage readDir authModule.configVersion configDirectory with
    | .error e => .error (errorf ("failed to get version-specific default images: " ++ e.text))
    | .ok versionDefault =>
      let image := getDefaultAuthImage component.storageService versionDefault
      .ok
        { inputs with
          replicas := component.storageServiceReplicas
          image := getImageForKey storageServiceName image cr matched
          leaderElection := component.leaderElection
          otelCollector := component.openTelemetryCollectorAddress }
  else if component.name = "redis" then
    .ok
      { inputs with
        sentinelName := component.sentinel
        redisReplicas := component.redisReplicas
        vars := updateRedisGlobalVars component inputs.vars }
  else if component.name = "storage-system-credentials" then
    .ok
      { inputs with
        secretProviderClasses := component.secretProviderClasses
        secrets := component.secrets }
  else if component.name = "config" then
    let configSecretName := component.configSecretProviderClass.foldl
      (fun name config =>
        if config.secretProviderClassName ≠ "" ∧ config.configSecretName ≠ "" then config.configSecretName
        else name) inputs.vars.configSecretName
    .ok { inputs with vars := { inputs.vars with configSecretName } }
  else .ok inputs

def readComponents : StorageInputs → List ContainerTemplate → Except GoError StorageInputs
  | inputs, [] => .ok inputs
  | inputs, component :: components =>
    match readComponent readDir configDirectory cr matched authModule inputs component with
    | .error e => .error e
    | .ok inputs => readComponents inputs components

def createConfigSecretVolumeAndVolumeMnts (configSecretName : String) : List Volume × List VolumeMount :=
  ([{ name := "config-volume", source := .secret
        (if configSecretName ≠ "" then configSecretName else "karavi-config-secret") },
      { name := "csm-config-params", source := .configMap "csm-config-params" }],
    [{ name := "config-volume", mountPath := "/etc/karavi-authorization/config" },
      { name := "csm-config-params", mountPath := "/etc/karavi-authorization/csm-config-params" }])

def getStorageServiceScaffold (namesp image : String) (replicas : Int) (configSecretName : String) :
    PodDeployment :=
  let (volumes, volumeMounts) := createConfigSecretVolumeAndVolumeMnts configSecretName
  { name := storageServiceName
    replicas
    annotations := fun _ => none
    spec :=
      { containers :=
          [{ name := storageServiceName, image, ports := [("grpc", 50051)],
             env := [{ name := "NAMESPACE", value := some namesp }], volumeMounts }]
        volumes } }

/-- Are there classes to read credentials from? -/
def hasSPC (classes : Option StorageSystemSecretProviderClasses) : Bool :=
  classes.any fun c => c.vaults ≠ [] ∨ c.conjurs ≠ []

/-- The credentials of the storage systems: from classes, or from Secrets. -/
def mountStorageCredentials (inputs : StorageInputs) (d : PodDeployment) : PodDeployment :=
  match inputs.secretProviderClasses with
  | some classes =>
    if hasSPC (some classes) then configureSecretProviderClass classes d
    else { d with spec := mountSecretVolumes inputs.secrets d.spec }
  | none => { d with spec := mountSecretVolumes inputs.secrets d.spec }

/-- Those credentials, and the class of redis. -/
def mountCredentials (inputs : StorageInputs) (d : PodDeployment) : PodDeployment :=
  let d := mountStorageCredentials inputs d
  let vars := inputs.vars
  if vars.redisSecretProviderClassName ≠ "" ∧ vars.redisSecretName ≠ "" then
    { d with
      annotations := updateConjurAnnotations d.annotations
        [vars.redisConjurUsernamePath, vars.redisConjurPasswordPath]
      spec := mountSPCVolume d.spec vars.redisSecretProviderClassName }
  else d

def buildSentinelList (replicas : Int) (sentinelName namesp : String) : String :=
  join ((List.range replicas.toNat).map fun i =>
    sentinelName ++ "-" ++ itoa i ++ "." ++ sentinelName ++ "." ++ namesp ++ ".svc.cluster.local:5000") ", "

def AuthVars.redisPassword (vars : AuthVars) : SecretKeySelector :=
  { name := some vars.redisSecretName, key := some vars.redisPasswordKey }

/-- The environment that names the sentinels and the password of redis. -/
def redisEnvs (inputs : StorageInputs) (namesp : String) : List EnvVarApply :=
  [{ name := "SENTINELS", value := some (buildSentinelList inputs.redisReplicas inputs.sentinelName namesp) },
    { name := "REDIS_PASSWORD", valueFrom := some { secretKeyRef := some inputs.vars.redisPassword } }]

def storageServiceArgs (inputs : StorageInputs) (v2Version : Bool) : List String :=
  ["--redis-sentinel=$(SENTINELS)", "--redis-password=$(REDIS_PASSWORD)",
    "--leader-election=" ++ (if inputs.leaderElection then "true" else "false")] ++
    if v2Version then ["--collector-address=" ++ inputs.otelCollector] else []

/-- The environment, the arguments and, from v2.0.0 on, the port for metrics. -/
def configureContainer (inputs : StorageInputs) (namesp : String) (v2Version : Bool) (c : PodContainer) :
    PodContainer :=
  { c with
    env := c.env ++ redisEnvs inputs namesp
    args := c.args ++ storageServiceArgs inputs v2Version
    ports := c.ports ++ if v2Version then [("promhttp", 2112)] else [] }

def PodDeployment.updateContainer (f : PodContainer → PodContainer) (d : PodDeployment) : PodDeployment :=
  { d with spec := ⟨updateFirst storageServiceName f d.spec.containers, d.spec.volumes⟩ }

/-- The Deployment that `authorizationStorageServiceV2` hands to `applyDeleteObjects`. `removeVault` is the
error that removing the certificates of Vault returned, and `vars` the package variables before. -/
def authorizationStorageServiceV2 (removeVault : Option GoError) (vars : AuthVars) :
    Except GoError PodDeployment :=
  match minVersionCheck "v2.3.0" authModule.configVersion with
  | (_, some e) => .error e
  | (storageCreds, none) =>
    match readComponents readDir configDirectory cr matched authModule
        { vars := { vars with configSecretName := defaultConfigSecretName } } authModule.components with
    | .error e => .error e
    | .ok inputs =>
      if storageCreds ∧ (hasSPC inputs.secretProviderClasses ↔ inputs.secrets ≠ []) then
        .error (errorf ("exactly one of SecretProviderClasses or Secrets must be specified in the CSM " ++
          "Authorization CR — not both, not neither"))
      else
        let d := getStorageServiceScaffold cr.namesp inputs.image inputs.replicas inputs.vars.configSecretName
        match (if storageCreds then removeVault else none) with
        | some e => .error (errorf ("removing vault from storage service: " ++ e.text))
        | none =>
          let d := if storageCreds then mountCredentials inputs d else d
          match minVersionCheck "v2.0.0" authModule.configVersion with
          | (_, some e) => .error e
          | (v2Version, none) =>
            .ok (d.updateContainer (configureContainer inputs cr.namesp v2Version))

end Build

end CsmOperator
