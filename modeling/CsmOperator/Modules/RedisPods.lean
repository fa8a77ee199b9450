import CsmOperator.Modules.CredentialMounts

/-!
# The pods that read the credentials of redis

From v2.3.0 on the authorization server is six workloads, built from scaffolds:
`authorization_deployment_scaffold.go`. Each of them reads the password of redis from a Secret whose name
and keys are package variables, and mounts the secret provider class that fills this Secret, if there is
one. `validateRedisConfig` decides whether the operator creates the Secret itself.
-/

namespace CsmOperator

open Go

/-! ## Validation -/

namespace RedisSecretProviderClass

variable (config : RedisSecretProviderClass)

def isEmpty : Bool :=
  config.secretProviderClassName = "" ∧ config.redisSecretName = "" ∧ config.redisUsernameKey = "" ∧
    config.redisPasswordKey = ""

def isIncomplete : Bool :=
  config.secretProviderClassName = "" ∨ config.redisSecretName = "" ∨ config.redisUsernameKey = "" ∨
    config.redisPasswordKey = ""

end RedisSecretProviderClass

/-- The loop of `validateRedisConfig`: is there an entry with all four fields? -/
def findValidClass (validSecretProviderClass : Bool) : List RedisSecretProviderClass → Except GoError Bool
  | [] => .ok validSecretProviderClass
  | config :: configs =>
    if config.isEmpty then findValidClass validSecretProviderClass configs
    else if config.isIncomplete then
      .error (errorf ("redisSecretProviderClass requires all of: secretProviderClassName, redisSecretName, " ++
        "redisUsernameKey, and redisPasswordKey"))
    else findValidClass true configs

/-- Are the credentials given directly? -/
def validateRedisConfig (component : ContainerTemplate) : Except GoError Bool :=
  let hasUsername := decide (component.redisUsername ≠ "")
  let hasPassword := decide (component.redisPassword ≠ "")
  let hasDirectCredentials := hasUsername && hasPassword
  if hasUsername ≠ hasPassword then
    .error (errorf "redisUsername and redisPassword must be provided together")
  else
    match findValidClass false component.redisSecretProviderClass with
    | .error e => .error e
    | .ok validSecretProviderClass =>
      if hasDirectCredentials ∧ validSecretProviderClass then
        .error (errorf "specify either redisUsername/redisPassword or redisSecretProviderClass, not both")
      else if ¬hasDirectCredentials ∧ ¬validSecretProviderClass then
        if component.redisSecretProviderClass ≠ [] then
          .error (errorf ("redisSecretProviderClass is incomplete. All of the following must be specified: " ++
            "secretProviderClassName, redisSecretName, redisUsernameKey, and redisPasswordKey"))
        else
          .error (errorf ("redis credentials are required. Either set redisUsername and redisPassword or " ++
            "configure redisSecretProviderClass to use a Secret Store CSI driver"))
      else .ok hasDirectCredentials

structure Secret where
  name : String
  namesp : String
  stringData : List (String × String) := []
  deriving DecidableEq, Repr

def createRedisK8sSecret (name namesp username password : String) : Secret :=
  { name, namesp, stringData := [("password", password), ("commander_user", username)] }

/-- The Secret that `getAuthorizationServerDeployment` adds for a component of redis, if any. -/
def redisK8sSecret (namesp : String) (component : ContainerTemplate) : Except GoError (Option Secret) :=
  match validateRedisConfig component with
  | .error e => .error (errorf ("validating redis: " ++ e.text))
  | .ok true =>
    .ok (some (createRedisK8sSecret defaultRedisSecretName namesp component.redisUsername
      component.redisPassword))
  | .ok false => .ok none

/-! ## Scaffolds -/

/-- A Deployment or StatefulSet of the server. -/
structure AuthWorkload extends PodDeployment where
  initContainers : List PodContainer := []

def AuthVars.redisUsername (vars : AuthVars) : SecretKeySelector :=
  { name := some vars.redisSecretName, key := some vars.redisUsernameKey }

def secretEnv (name : String) (ref : SecretKeySelector) : EnvVarApply :=
  { name, valueFrom := some { secretKeyRef := some ref } }

def checksumAnnotation (checksum : String) : StrMap := fun key =>
  if key = "checksum/secret" then some checksum else none

/-- What the scaffolds get apart from the package variables. -/
structure ServerArgs where
  namesp : String
  redisName : String := ""
  rediscommanderName : String := ""
  sentinelName : String := ""
  redisReplicas : Int := 0
  redisImage : String := ""
  commanderImage : String := ""
  checksum : String := ""
  proxyImage : String := ""
  opaImage : String := ""
  opaKubeMgmtImage : String := ""
  proxyReplicas : Int := 0
  tenantImage : String := ""
  tenantReplicas : Int := 0
  storage : StorageInputs := {}
  v2Version : Bool := true

section Scaffolds

variable (args : ServerArgs) (vars : AuthVars)

def sentinelsEnv : EnvVarApply :=
  { name := "SENTINELS", value := some (buildSentinelList args.redisReplicas args.sentinelName args.namesp) }

def redisMounts : List VolumeMount :=
  [{ name := "redis-primary-volume", mountPath := "/data" },
    { name := "configmap", mountPath := "/csm-auth-redis-cm/" },
    { name := "config", mountPath := "/etc/redis/" }]

/-- The script of the init container is left out. -/
def getAuthorizationRedisStatefulsetScaffold : AuthWorkload where
  name := args.redisName
  replicas := args.redisReplicas
  annotations := checksumAnnotation args.checksum
  initContainers :=
    [{ name := "config", image := args.redisImage, volumeMounts := redisMounts
       env := [secretEnv "REDIS_PASSWORD" vars.redisPassword,
         { name := "AUTHORIZATION_REDIS_NAME", value := some args.redisName },
         { name := "NAMESPACE", value := some args.namesp }] }]
  spec :=
    { containers :=
        [{ name := args.redisName, image := args.redisImage, args := ["/etc/redis/redis.conf"]
           ports := [(args.redisName, 6379)], volumeMounts := redisMounts }]
      volumes := [{ name := "redis-primary-volume", source := .emptyDir },
        { name := "config", source := .emptyDir },
        { name := "configmap", source := .configMap "redis-csm-cm" }] }

def getAuthorizationRediscommanderDeploymentScaffold : AuthWorkload where
  name := args.rediscommanderName
  replicas := 1
  annotations := checksumAnnotation args.checksum
  spec :=
    { containers :=
        [{ name := args.rediscommanderName, image := args.commanderImage
           env := [sentinelsEnv args, { name := "K8S_SIGTERM", value := some "1" },
             secretEnv "REDIS_PASSWORD" vars.redisPassword,
             secretEnv "SENTINEL_PASSWORD" vars.redisPassword,
             secretEnv "HTTP_PASSWORD" vars.redisPassword,
             secretEnv "HTTP_USER" vars.redisUsername]
           ports := [(args.rediscommanderName, 8081)] }] }

/-- The script of the init container is left out. -/
def getAuthorizationSentinelStatefulsetScaffold : AuthWorkload where
  name := args.sentinelName
  replicas := args.redisReplicas
  annotations := checksumAnnotation args.checksum
  initContainers :=
    [{ name := "config", image := args.redisImage
       volumeMounts := [{ name := "redis-config", mountPath := "/etc/redis/" }]
       env := [secretEnv "REDIS_PASSWORD" vars.redisPassword,
         { name := "REPLICAS", value := some (toString args.redisReplicas) },
         { name := "AUTHORIZATION_REDIS_NAME", value := some args.redisName },
         { name := "AUTHORIZATION_SENTINEL_NAME", value := some args.sentinelName },
         { name := "NAMESPACE", value := some args.namesp }] }]
  spec :=
    { containers :=
        [{ name := args.sentinelName, image := args.redisImage, args := ["/etc/redis/sentinel.conf"]
           ports := [(args.sentinelName, 5000)]
           volumeMounts := [{ name := "redis-config", mountPath := "/etc/redis/" },
             { name := "data", mountPath := "/data" }] }]
      volumes := [{ name := "redis-config", source := .emptyDir }, { name := "data", source := .emptyDir }] }

def getProxyServerScaffold : AuthWorkload where
  name := "proxy-server"
  replicas := args.proxyReplicas
  annotations := fun _ => none
  spec :=
    { containers :=
        [{ name := "proxy-server", image := args.proxyImage
           env := [sentinelsEnv args, secretEnv "REDIS_PASSWORD" vars.redisPassword]
           args := ["--redis-sentinel=$(SENTINELS)", "--redis-password=$(REDIS_PASSWORD)",
             "--tenant-service=tenant-service." ++ args.namesp ++ ".svc.cluster.local:50051",
             "--role-service=role-service." ++ args.namesp ++ ".svc.cluster.local:50051",
             "--storage-service=storage-service." ++ args.namesp ++ ".svc.cluster.local:50051"]
           ports := [("", 8080)]
           volumeMounts := (createConfigSecretVolumeAndVolumeMnts vars.configSecretName).2 },
          { name := "opa", image := args.opaImage
            args := ["run", "--ignore=.", "--server", "--log-level=debug"], ports := [("http", 8181)] },
          { name := "kube-mgmt", image := args.opaKubeMgmtImage
            env := [{ name := "NAMESPACE", value := some args.namesp }]
            args := ["--namespaces=" ++ args.namesp, "--enable-data"] }]
      volumes := (createConfigSecretVolumeAndVolumeMnts vars.configSecretName).1 }

def getTenantServiceScaffold : AuthWorkload where
  name := "tenant-service"
  replicas := args.tenantReplicas
  annotations := fun _ => none
  spec :=
    { containers :=
        [{ name := "tenant-service", image := args.tenantImage
           env := [sentinelsEnv args, secretEnv "REDIS_PASSWORD" vars.redisPassword]
           args := ["--redis-sentinel=$(SENTINELS)", "--redis-password=$(REDIS_PASSWORD)"]
           ports := [("grpc", 50051)]
           volumeMounts := (createConfigSecretVolumeAndVolumeMnts vars.configSecretName).2 }]
      volumes := (createConfigSecretVolumeAndVolumeMnts vars.configSecretName).1 }

/-! ## Mounting classes -/

def AuthWorkload.mountClass (w : AuthWorkload) (secretProviderClassName : String) (paths : List String) :
    AuthWorkload :=
  { w with
    annotations := updateConjurAnnotations w.annotations paths
    spec := mountSPCVolume w.spec secretProviderClassName }

def AuthVars.mountRedisClass (w : AuthWorkload) : AuthWorkload :=
  if vars.redisSecretProviderClassName ≠ "" ∧ vars.redisSecretName ≠ "" then
    w.mountClass vars.redisSecretProviderClassName
      [vars.redisConjurUsernamePath, vars.redisConjurPasswordPath]
  else w

def AuthVars.mountConfigClass (w : AuthWorkload) : AuthWorkload :=
  if vars.configSecretProviderClassName ≠ "" ∧ vars.configSecretName ≠ "" then
    w.mountClass vars.configSecretProviderClassName [vars.configSecretPath]
  else w

/-- What the storage service reads, with the package variables as they are. -/
def ServerArgs.storageInputs : StorageInputs := { args.storage with vars }

inductive ServerPod where
  | redis
  | commander
  | sentinel
  | proxyServer
  | tenantService
  | storageService
  deriving DecidableEq, Repr

/-- The workload that is applied, once its function has read the components. -/
def ServerPod.build : ServerPod → AuthWorkload
  | redis => vars.mountRedisClass (getAuthorizationRedisStatefulsetScaffold args vars)
  | commander => vars.mountRedisClass (getAuthorizationRediscommanderDeploymentScaffold args vars)
  | sentinel => vars.mountRedisClass (getAuthorizationSentinelStatefulsetScaffold args vars)
  | proxyServer => vars.mountConfigClass (vars.mountRedisClass (getProxyServerScaffold args vars))
  | tenantService => vars.mountConfigClass (vars.mountRedisClass (getTenantServiceScaffold args vars))
  | storageService =>
    let inputs := args.storageInputs vars
    let d := getStorageServiceScaffold args.namesp inputs.image inputs.replicas vars.configSecretName
    { (mountCredentials inputs d).updateContainer (configureContainer inputs args.namesp args.v2Version) with }

end Scaffolds

/-! ## What is meant -/

namespace AuthWorkload

variable (w : AuthWorkload)

def envs : List EnvVarApply := (w.initContainers ++ w.spec.containers).flatMap (·.env)

/-- The references to Secrets in the environment, with the names of the variables. -/
def secretRefs : List (String × SecretKeySelector) :=
  w.envs.filterMap fun e => (e.valueFrom.bind (·.secretKeyRef)).map (e.name, ·)

/-- The pod takes the password of redis from one Secret, and nothing else of a Secret but the user of the
commander, from the same one. -/
structure ReadsRedis (secretName usernameKey passwordKey : String) : Prop where
  password : ("REDIS_PASSWORD", { name := some secretName, key := some passwordKey }) ∈ w.secretRefs
  refs : ∀ ref ∈ w.secretRefs, ref.2 =
    { name := some secretName, key := some (if ref.1 = "HTTP_USER" then usernameKey else passwordKey) }

end AuthWorkload

def VolumeSource.class? : VolumeSource → Option String
  | secretProviderClass name => some name
  | _ => none

/-- The provider classes among the volumes of a pod. -/
def PodSpec.classes (spec : PodSpec) : List String := spec.volumes.filterMap (·.source.class?)

/-- The class is a volume of the pod, and every container mounts it. -/
def PodSpec.MountsClass (spec : PodSpec) (secretProviderClassName : String) : Prop :=
  (Credential.secretProviderClass secretProviderClassName).volume ∈ spec.volumes ∧
    spec.MountedEverywhere secretProviderClassName

/-- The classes that a pod mounts for something else than redis: those of the configuration and of the
storage systems. -/
def ServerPod.otherClasses (args : ServerArgs) (vars : AuthVars) : ServerPod → List String
  | redis | commander | sentinel => []
  | proxyServer | tenantService => [vars.configSecretProviderClassName]
  | storageService => (args.storageInputs vars).storageCredentials.filterMap (·.source.class?)

/-! ## The variables after validation -/

/-- The class, the Secret and its keys. -/
def AuthVars.redis (vars : AuthVars) : List String :=
  [vars.redisSecretProviderClassName, vars.redisSecretName, vars.redisUsernameKey, vars.redisPasswordKey]

def RedisSecretProviderClass.fields (config : RedisSecretProviderClass) : List String :=
  [config.secretProviderClassName, config.redisSecretName, config.redisUsernameKey, config.redisPasswordKey]

theorem RedisSecretProviderClass.isIncomplete_iff (config : RedisSecretProviderClass) :
    config.isIncomplete = true ↔ "" ∈ config.fields := by
  simp [isIncomplete, fields]

/-- An accepted list has empty and complete entries only. -/
theorem findValidClass_ok {valid result : Bool} {configs : List RedisSecretProviderClass}
    (h : findValidClass valid configs = .ok result) :
    (∀ c ∈ configs, c.isEmpty ∨ "" ∉ c.fields) ∧
      (result = true ↔ valid = true ∨ ∃ c ∈ configs, "" ∉ c.fields) := by
  induction configs generalizing valid with
  | nil =>
      cases h
      simp
  | cons config configs ih =>
      rw [findValidClass] at h
      split at h
      next hempty =>
        obtain ⟨hall, hresult⟩ := ih h
        have hincomplete : "" ∈ config.fields := by
          simp only [RedisSecretProviderClass.isEmpty, decide_eq_true_eq] at hempty
          simp [RedisSecretProviderClass.fields, hempty.1]
        refine ⟨List.forall_mem_cons.mpr ⟨.inl hempty, hall⟩, ?_⟩
        rw [hresult]
        simp [hincomplete]
      next =>
        split at h
        · cases h
        next hcomplete =>
          rw [config.isIncomplete_iff] at hcomplete
          obtain ⟨hall, hresult⟩ := ih h
          refine ⟨List.forall_mem_cons.mpr ⟨.inr hcomplete, hall⟩, ?_⟩
          rw [hresult]
          simp [hcomplete]

/-- What a result without an error says of the entries. -/
theorem validateRedisConfig_ok {component : ContainerTemplate} {direct : Bool}
    (h : validateRedisConfig component = .ok direct) :
    (∀ c ∈ component.redisSecretProviderClass, c.isEmpty ∨ "" ∉ c.fields) ∧
      (direct = true ↔ ∀ c ∈ component.redisSecretProviderClass, "" ∈ c.fields) := by
  unfold validateRedisConfig at h
  dsimp only at h
  split at h
  · cases h
  · split at h
    · cases h
    next valid hvalid =>
      obtain ⟨hall, hresult⟩ := findValidClass_ok hvalid
      refine ⟨hall, ?_⟩
      have hvalid_iff : valid = true ↔ ∃ c ∈ component.redisSecretProviderClass, "" ∉ c.fields := by
        simpa using hresult
      split at h
      · cases h
      next hboth =>
        split at h
        · split at h <;> cases h
        next hneither =>
          cases h
          have hexactly : (decide (component.redisUsername ≠ "") && decide (component.redisPassword ≠ "")) =
              true ↔ ¬valid = true := by
            tauto
          rw [hexactly, hvalid_iff]
          simp

section Variables

variable (vars : AuthVars) {config : RedisSecretProviderClass}

theorem useClass_redis_empty (h : config.isEmpty = true) : (vars.useClass config).redis = vars.redis := by
  simp only [RedisSecretProviderClass.isEmpty, decide_eq_true_eq] at h
  unfold AuthVars.useClass
  simp only [h.1, ne_eq, not_true_eq_false, false_and, if_false]
  split <;> rfl

theorem useClass_redis_complete (h : "" ∉ config.fields) :
    (vars.useClass config).redis = config.fields := by
  have hnames : config.secretProviderClassName ≠ "" ∧ config.redisSecretName ≠ "" := by
    simp only [RedisSecretProviderClass.fields, List.mem_cons, not_or] at h
    exact ⟨Ne.symm h.1, Ne.symm h.2.1⟩
  unfold AuthVars.useClass
  rw [if_pos hnames]
  dsimp only
  split <;> rfl

/-- The last complete entry is used. -/
theorem foldl_useClass_redis {configs : List RedisSecretProviderClass}
    (hall : ∀ c ∈ configs, c.isEmpty ∨ "" ∉ c.fields) :
    (configs.foldl AuthVars.useClass vars).redis = vars.redis ∧ (∀ c ∈ configs, "" ∈ c.fields) ∨
      ∃ c ∈ configs, "" ∉ c.fields ∧ (configs.foldl AuthVars.useClass vars).redis = c.fields := by
  induction configs generalizing vars with
  | nil => exact .inl ⟨rfl, by simp⟩
  | cons config configs ih =>
      obtain ⟨hconfig, hconfigs⟩ := List.forall_mem_cons.mp hall
      rw [List.foldl_cons]
      obtain ⟨hsame, hnone⟩ | ⟨c, hc, hcomplete, hused⟩ := ih (vars.useClass config) hconfigs
      · by_cases hcomplete : "" ∈ config.fields
        · refine .inl ⟨?_, List.forall_mem_cons.mpr ⟨hcomplete, hnone⟩⟩
          rw [hsame, useClass_redis_empty vars (hconfig.resolve_right (not_not_intro hcomplete))]
        · refine .inr ⟨config, List.mem_cons_self, hcomplete, ?_⟩
          rw [hsame, useClass_redis_complete vars hcomplete]
      · exact .inr ⟨c, List.mem_cons_of_mem _ hc, hcomplete, hused⟩

end Variables

/-! ## What the pods read -/

/-- What is mounted into a container does not touch its environment. -/
def PodSpec.containerEnvs (spec : PodSpec) : List (List EnvVarApply) := spec.containers.map (·.env)

theorem map_env_updateFirst (name : String) (creds : List Credential) (containers : List PodContainer) :
    (updateFirst name (·.addMounts creds) containers).map (·.env) = containers.map (·.env) := by
  induction containers with
  | nil => rfl
  | cons c cs ih =>
      rw [updateFirst]
      split
      · rfl
      · rw [List.map_cons, List.map_cons, ih]

theorem containerEnvs_mountSPCVolume (spec : PodSpec) (cls : String) :
    (mountSPCVolume spec cls).containerEnvs = spec.containerEnvs := by
  unfold mountSPCVolume PodSpec.containerEnvs
  dsimp only
  split
  · rfl
  · rw [List.map_map]
    rfl

theorem containerEnvs_mountStorageCredentials (inputs : StorageInputs) (d : PodDeployment) :
    (mountStorageCredentials inputs d).spec.containerEnvs = d.spec.containerEnvs := by
  have hsecrets : (mountSecretVolumes inputs.secrets d.spec).containerEnvs = d.spec.containerEnvs :=
    map_env_updateFirst _ _ _
  unfold mountStorageCredentials
  split
  next classes _ =>
    split
    · have hvault : (configureVaultSecretProvider classes.vaults d.spec).containerEnvs =
          d.spec.containerEnvs := by
        unfold configureVaultSecretProvider PodSpec.containerEnvs
        rw [List.map_map]
        refine List.map_congr_left fun c _ => ?_
        rw [Function.comp_apply]
        split <;> rfl
      rw [← hvault]
      exact map_env_updateFirst _ _ _
    · exact hsecrets
  next => exact hsecrets

theorem containerEnvs_mountCredentials (inputs : StorageInputs) (d : PodDeployment) :
    (mountCredentials inputs d).spec.containerEnvs = d.spec.containerEnvs := by
  rw [← containerEnvs_mountStorageCredentials inputs d]
  unfold mountCredentials
  dsimp only
  split
  · exact containerEnvs_mountSPCVolume _ _
  · rfl

section Pods

variable (args : ServerArgs) (vars : AuthVars)

theorem AuthWorkload.envs_eq (w : AuthWorkload) :
    w.envs = w.initContainers.flatMap (·.env) ++ w.spec.containerEnvs.flatten := by
  rw [AuthWorkload.envs, List.flatMap_append, PodSpec.containerEnvs, ← List.flatMap_def]

theorem envs_mountClass (w : AuthWorkload) (cls : String) (paths : List String) :
    (w.mountClass cls paths).envs = w.envs := by
  rw [AuthWorkload.envs_eq, AuthWorkload.envs_eq, AuthWorkload.mountClass, containerEnvs_mountSPCVolume]

theorem envs_mountRedisClass (w : AuthWorkload) : (vars.mountRedisClass w).envs = w.envs := by
  unfold AuthVars.mountRedisClass
  split
  · exact envs_mountClass _ _ _
  · rfl

theorem envs_mountConfigClass (w : AuthWorkload) : (vars.mountConfigClass w).envs = w.envs := by
  unfold AuthVars.mountConfigClass
  split
  · exact envs_mountClass _ _ _
  · rfl

/-- The scaffold of the storage service with its credentials. -/
def ServerArgs.storageDeployment : PodDeployment :=
  mountCredentials (args.storageInputs vars)
    (getStorageServiceScaffold args.namesp (args.storageInputs vars).image (args.storageInputs vars).replicas
      vars.configSecretName)

theorem holds_storageDeployment : (args.storageDeployment vars).spec.Holds vars.configSecretName
    (args.storageInputs vars).allCredentials :=
  holds_mountCredentials (PodSpec.Holds.scaffold _ _ _)

/-- The one container of the storage service, with what `configureContainer` adds. -/
theorem envs_storageService :
    (ServerPod.storageService.build args vars).envs =
      { name := "NAMESPACE", value := some args.namesp } :: redisEnvs (args.storageInputs vars) args.namesp := by
  obtain ⟨c, hcontainers, hname, -⟩ := (holds_storageDeployment args vars).container
  have henvs : (args.storageDeployment vars).spec.containerEnvs = [[_]] :=
    containerEnvs_mountCredentials _ _
  rw [PodSpec.containerEnvs, hcontainers, List.map_singleton] at henvs
  have henv : c.env = [{ name := "NAMESPACE", value := some args.namesp }] := (List.cons.inj henvs).1
  have hbuild : (ServerPod.storageService.build args vars).spec.containers =
      [configureContainer (args.storageInputs vars) args.namesp args.v2Version c] := by
    show updateFirst storageServiceName _ (args.storageDeployment vars).spec.containers = _
    rw [hcontainers]
    exact if_pos hname
  rw [AuthWorkload.envs_eq, PodSpec.containerEnvs, hbuild, List.map_singleton, configureContainer, henv]
  rfl

/-- The variables that refer to a Secret. -/
def ServerPod.refs : ServerPod → List (String × SecretKeySelector)
  | commander =>
    [("REDIS_PASSWORD", vars.redisPassword), ("SENTINEL_PASSWORD", vars.redisPassword),
      ("HTTP_PASSWORD", vars.redisPassword), ("HTTP_USER", vars.redisUsername)]
  | _ => [("REDIS_PASSWORD", vars.redisPassword)]

theorem ServerPod.secretRefs_build (pod : ServerPod) :
    (pod.build args vars).secretRefs = pod.refs vars := by
  rw [AuthWorkload.secretRefs]
  cases pod with
  | redis => rw [ServerPod.build, envs_mountRedisClass]; rfl
  | commander => rw [ServerPod.build, envs_mountRedisClass]; rfl
  | sentinel => rw [ServerPod.build, envs_mountRedisClass]; rfl
  | proxyServer => rw [ServerPod.build, envs_mountConfigClass, envs_mountRedisClass]; rfl
  | tenantService => rw [ServerPod.build, envs_mountConfigClass, envs_mountRedisClass]; rfl
  | storageService => rw [envs_storageService]; rfl

theorem ServerPod.readsRedis (pod : ServerPod) :
    (pod.build args vars).ReadsRedis vars.redisSecretName vars.redisUsernameKey vars.redisPasswordKey where
  password := by
    rw [pod.secretRefs_build]
    cases pod <;> exact List.mem_cons_self
  refs := by
    rw [pod.secretRefs_build]
    cases pod <;> simp [ServerPod.refs, AuthVars.redisPassword, AuthVars.redisUsername]

/-! ## What the pods mount -/

/-- The names of the volumes, where they are declared and where they are mounted. -/
def PodSpec.volumeNames (spec : PodSpec) : List String :=
  spec.volumes.map (·.name) ++ spec.mounts.map (·.name)

/-- The volumes of classes are named `secrets-store-inline-…`; those of the scaffolds begin otherwise. -/
def PodSpec.Plain (spec : PodSpec) : Prop := ∀ name ∈ spec.volumeNames, name.toList.head? ≠ some 's'

theorem volumeName_head? (cls : String) :
    (Credential.secretProviderClass cls).volumeName.toList.head? = some 's' := by
  rw [List.head?_eq_getElem?]
  exact Credential.getElem?_append (by decide) cls

theorem PodSpec.Plain.mountsClass {spec : PodSpec} (h : spec.Plain) (cls : String) :
    (mountSPCVolume spec cls).MountsClass cls := by
  have hfresh : ∀ name ∈ spec.volumeNames, name ≠ (Credential.secretProviderClass cls).volumeName := by
    rintro name hname rfl
    exact h _ hname (volumeName_head? cls)
  have hvolume : ¬spec.volumes.any (·.name = (Credential.secretProviderClass cls).volumeName) = true := by
    simp only [List.any_eq_true, decide_eq_true_eq, not_exists, not_and]
    exact fun v hv => hfresh _ (List.mem_append_left _ (List.mem_map_of_mem hv))
  have hmount : ¬(spec.containers.any fun container => container.volumeMounts.any fun m =>
      m.name = (Credential.secretProviderClass cls).volumeName ∧
        m.mountPath = (Credential.secretProviderClass cls).mountPath) = true := by
    simp only [List.any_eq_true, decide_eq_true_eq, not_exists, not_and]
    intro c hc m hm hname
    exact absurd hname (hfresh _ (List.mem_append_right _
      (List.mem_map_of_mem (List.mem_flatMap.mpr ⟨c, hc, hm⟩))))
  unfold mountSPCVolume
  dsimp only
  rw [if_neg hvolume, if_neg hmount]
  refine ⟨List.mem_append_right _ List.mem_cons_self, fun c hc => ?_⟩
  obtain ⟨c, -, rfl⟩ := List.mem_map.mp hc
  exact List.mem_append_right _ List.mem_cons_self

/-- Mounting a second class leaves the first one mounted. -/
theorem PodSpec.MountsClass.mountSPCVolume {spec : PodSpec} {cls : String} (h : spec.MountsClass cls)
    (other : String) : (CsmOperator.mountSPCVolume spec other).MountsClass cls := by
  unfold CsmOperator.mountSPCVolume
  refine ⟨?_, fun c hc => ?_⟩
  · dsimp only
    split
    · exact h.1
    · exact List.mem_append_left _ h.1
  · dsimp only at hc
    split at hc
    · exact h.2 c hc
    · obtain ⟨c, hmem, rfl⟩ := List.mem_map.mp hc
      exact List.mem_append_left _ (h.2 c hmem)

theorem mem_classes_mountSPCVolume {spec : PodSpec} {cls other : String}
    (h : cls ∈ (mountSPCVolume spec other).classes) : cls ∈ spec.classes ∨ cls = other := by
  unfold mountSPCVolume PodSpec.classes at h
  dsimp only at h
  split at h
  · exact .inl h
  · rw [List.filterMap_append, List.mem_append] at h
    exact h.imp_right fun h => by simpa [Credential.volume, Credential.source, VolumeSource.class?] using h

/-- A class is mounted for redis exactly when the variables name one and its Secret. -/
theorem spec_mountRedisClass (w : AuthWorkload) :
    (vars.mountRedisClass w).spec =
      if vars.redisSecretProviderClassName ≠ "" ∧ vars.redisSecretName ≠ "" then
        mountSPCVolume w.spec vars.redisSecretProviderClassName
      else w.spec := by
  unfold AuthVars.mountRedisClass
  split <;> rfl

theorem spec_mountConfigClass (w : AuthWorkload) :
    (vars.mountConfigClass w).spec = mountSPCVolume w.spec vars.configSecretProviderClassName ∨
      (vars.mountConfigClass w).spec = w.spec := by
  unfold AuthVars.mountConfigClass
  split
  · exact .inl rfl
  · exact .inr rfl

theorem holds_storageService : (ServerPod.storageService.build args vars).spec.Holds vars.configSecretName
    (args.storageInputs vars).allCredentials :=
  (holds_storageDeployment args vars).updateContainer (fun _ => rfl) fun _ => rfl

theorem ServerPod.classes_build (hnone : vars.redisSecretProviderClassName = "") (pod : ServerPod) :
    ∀ cls ∈ (pod.build args vars).spec.classes, cls ∈ pod.otherClasses args vars := by
  have hskip (w : AuthWorkload) : (vars.mountRedisClass w).spec = w.spec := by
    rw [spec_mountRedisClass, if_neg fun h => h.1 hnone]
  have hconfig (w : AuthWorkload) (hw : w.spec.classes = []) :
      ∀ cls ∈ (vars.mountConfigClass (vars.mountRedisClass w)).spec.classes,
        cls ∈ [vars.configSecretProviderClassName] := by
    intro cls hcls
    obtain hspec | hspec := spec_mountConfigClass vars (vars.mountRedisClass w)
    · rw [hspec] at hcls
      obtain hcls | rfl := mem_classes_mountSPCVolume hcls
      · rw [hskip, hw] at hcls
        cases hcls
      · exact List.mem_singleton_self _
    · rw [hspec, hskip, hw] at hcls
      cases hcls
  cases pod with
  | redis | commander | sentinel =>
      intro cls hcls
      rw [ServerPod.build, hskip] at hcls
      cases hcls
  | proxyServer => exact hconfig _ rfl
  | tenantService => exact hconfig _ rfl
  | storageService =>
      intro cls hcls
      have hcreds : (args.storageInputs vars).allCredentials = (args.storageInputs vars).storageCredentials := by
        rw [StorageInputs.allCredentials, StorageInputs.redisClass, if_neg fun h => h.1 hnone]
        exact List.append_nil _
      rw [PodSpec.classes, (holds_storageService args vars).volumes, hcreds, List.filterMap_append,
        List.filterMap_map] at hcls
      exact (List.mem_append.mp hcls).resolve_left (List.not_mem_nil)

theorem ServerPod.mountsClass_build (hclass : vars.redisSecretProviderClassName ≠ "")
    (hsecret : vars.redisSecretName ≠ "") (pod : ServerPod) :
    (pod.build args vars).spec.MountsClass vars.redisSecretProviderClassName := by
  have hmounted (w : AuthWorkload) (hw : w.spec.Plain) :
      (vars.mountRedisClass w).spec.MountsClass vars.redisSecretProviderClassName := by
    rw [spec_mountRedisClass, if_pos ⟨hclass, hsecret⟩]
    exact hw.mountsClass _
  have hkept (w : AuthWorkload) (hw : w.spec.MountsClass vars.redisSecretProviderClassName) :
      (vars.mountConfigClass w).spec.MountsClass vars.redisSecretProviderClassName := by
    obtain hspec | hspec := spec_mountConfigClass vars w
    · rw [hspec]
      exact hw.mountSPCVolume _
    · rwa [hspec]
  cases pod with
  | redis => exact hmounted _ (by decide : ∀ name ∈ ["redis-primary-volume", "config", "configmap",
      "redis-primary-volume", "configmap", "config"], name.toList.head? ≠ some 's')
  | commander => exact hmounted _ (List.forall_mem_nil _)
  | sentinel => exact hmounted _ (by decide : ∀ name ∈ ["redis-config", "data", "redis-config", "data"],
      name.toList.head? ≠ some 's')
  | proxyServer => exact hkept _ (hmounted _ (by decide : ∀ name ∈ ["config-volume", "csm-config-params",
      "config-volume", "csm-config-params"], name.toList.head? ≠ some 's'))
  | tenantService => exact hkept _ (hmounted _ (by decide : ∀ name ∈ ["config-volume", "csm-config-params",
      "config-volume", "csm-config-params"], name.toList.head? ≠ some 's'))
  | storageService =>
      have hholds := holds_storageService args vars
      have hmem : .secretProviderClass vars.redisSecretProviderClassName ∈
          (args.storageInputs vars).allCredentials := by
        refine StorageInputs.mem_allCredentials (List.mem_append_right _ ?_)
        rw [StorageInputs.redisClass, if_pos ⟨hclass, hsecret⟩]
        exact List.mem_singleton_self _
      refine ⟨?_, fun c hc => ?_⟩
      · rw [hholds.volumes]
        exact List.mem_append_right _ (List.mem_map_of_mem hmem)
      · obtain ⟨c', hcontainers, -, hmounts⟩ := hholds.container
        rw [hcontainers, List.mem_singleton] at hc
        rw [hc, hmounts]
        exact List.mem_append_right _ (List.mem_map_of_mem hmem)

end Pods

/-! ## Validation and pods agree -/

/-- The pods read the credentials from where validation says they are: from the Secret that the operator
creates, and then without a class for redis; or from the Secret of an entry of the list, and then with the
class of this entry. -/
theorem redisCredentials_agree (args : ServerArgs) (component : ContainerTemplate) (before : AuthVars) :
    let vars := updateRedisGlobalVars component before
    (validateRedisConfig component = .ok true →
      ∃ secret, redisK8sSecret args.namesp component = .ok (some secret) ∧
      secret.stringData = [(vars.redisPasswordKey, component.redisPassword),
        (vars.redisUsernameKey, component.redisUsername)] ∧
      ∀ pod : ServerPod,
        (pod.build args vars).ReadsRedis secret.name vars.redisUsernameKey vars.redisPasswordKey ∧
        ∀ cls ∈ (pod.build args vars).spec.classes, cls ∈ pod.otherClasses args vars) ∧
    (validateRedisConfig component = .ok false →
      redisK8sSecret args.namesp component = .ok none ∧
      ∃ entry ∈ component.redisSecretProviderClass, "" ∉ entry.fields ∧
        ∀ pod : ServerPod,
          (pod.build args vars).ReadsRedis entry.redisSecretName entry.redisUsernameKey
            entry.redisPasswordKey ∧
          (pod.build args vars).spec.MountsClass entry.secretProviderClassName) := by
  intro vars
  refine ⟨fun hdirect => ?_, fun hclass => ?_⟩
  · obtain ⟨hall, hnone⟩ := validateRedisConfig_ok hdirect
    have hredis : vars.redis = ["", defaultRedisSecretName, defaultRedisUsernameKey, defaultRedisPasswordKey] := by
      obtain ⟨hsame, -⟩ | ⟨c, hc, hcomplete, -⟩ := foldl_useClass_redis _ hall
      · exact hsame
      · exact absurd (hnone.mp rfl c hc) hcomplete
    simp only [AuthVars.redis, List.cons.injEq, and_true] at hredis
    obtain ⟨hcls, hname, husername, hpassword⟩ := hredis
    refine ⟨_, by rw [redisK8sSecret, hdirect], ?_, fun pod => ⟨?_, pod.classes_build args vars hcls⟩⟩
    · rw [husername, hpassword]
      rfl
    · have hreads := pod.readsRedis args vars
      rwa [hname] at hreads
  · obtain ⟨hall, hsome⟩ := validateRedisConfig_ok hclass
    obtain ⟨-, hnone⟩ | ⟨entry, hentry, hcomplete, hredis⟩ := foldl_useClass_redis _ hall
    · exact absurd (hsome.mpr hnone) Bool.false_ne_true
    · have hused : vars.redis = entry.fields := hredis
      simp only [AuthVars.redis, RedisSecretProviderClass.fields, List.cons.injEq, and_true] at hused
      obtain ⟨hcls, hname, husername, hpassword⟩ := hused
      refine ⟨by rw [redisK8sSecret, hclass], entry, hentry, hcomplete, fun pod => ?_⟩
      simp only [RedisSecretProviderClass.fields, List.mem_cons, not_or] at hcomplete
      rw [← hcls, ← hname, ← husername, ← hpassword] at hcomplete ⊢
      exact ⟨pod.readsRedis args vars,
        pod.mountsClass_build args vars (Ne.symm hcomplete.1) (Ne.symm hcomplete.2.1)⟩

/-- A component with an empty entry and two complete ones. -/
def classComponent : ContainerTemplate where
  name := "redis"
  redisSecretProviderClass := [{},
    { secretProviderClassName := "vault-redis", redisSecretName := "redis-old", redisUsernameKey := "user"
      redisPasswordKey := "pass" },
    { secretProviderClassName := "conjur-redis", redisSecretName := "redis-new", redisUsernameKey := "u"
      redisPasswordKey := "p" }]

theorem redisCredentials_agree_class :
    validateRedisConfig classComponent = .ok false ∧
      ∃ entry ∈ classComponent.redisSecretProviderClass, "" ∉ entry.fields ∧ ∀ pod : ServerPod,
        (pod.build { namesp := "authorization" } (updateRedisGlobalVars classComponent {})).ReadsRedis
          entry.redisSecretName entry.redisUsernameKey entry.redisPasswordKey ∧
        (pod.build { namesp := "authorization" } (updateRedisGlobalVars classComponent {})).spec.MountsClass
          entry.secretProviderClassName :=
  ⟨by decide, ((redisCredentials_agree { namesp := "authorization" } classComponent {}).2 (by decide)).2⟩

end CsmOperator
