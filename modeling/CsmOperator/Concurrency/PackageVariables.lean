import CsmOperator.Interaction.Shared
import CsmOperator.Modules.RedisPods
import CsmOperator.Modules.Routes

/-!
# The package variables of the authorization server

`pkg/modules/authorization.go` keeps what it reads of the CR in fourteen variables of the package: the
names of Secrets and of their keys, provider classes, the certificate, the class of the ingress. Each
function that installs something assigns some of them while it goes over the components of the CR, and
then reads them. The workers of the operator share them, and a variable that a CR does not assign keeps
what another CR has put there.

The functions are written here with each read and each assignment as a call of its own.
-/

namespace CsmOperator

open Go Interaction

inductive PackageVar where
  | redisSecretProviderClassName
  | redisSecretName
  | redisUsernameKey
  | redisPasswordKey
  | redisConjurUsernamePath
  | redisConjurPasswordPath
  | configSecretProviderClassName
  | configSecretName
  | configSecretPath
  | authHostname
  | proxyIngressClassName
  | authCertificate
  | authPrivateKey
  | secretName
  deriving DecidableEq, Repr

/-! ## What is applied -/

structure Ingress where
  name : String := authProxyServerComponent
  namesp : String
  annotations : StrMap
  ingressClassName : String
  tlsHosts : List String
  tlsSecretName : String
  rules : List IngressRule

/-- What is handed to `applyDeleteObjects`. -/
inductive AuthObject where
  | text (yaml : String)
  | workload (w : AuthWorkload)
  | ingress (i : Ingress)
  | cert (m : CertManifest)

/-- An object is applied or deleted; the answer is the error. -/
abbrev ApplyApi : Interface where
  Req := AuthObject
  Resp _ := Option GoError

abbrev VarsApi : Interface := Sharing PackageVar String ApplyApi

abbrev VarOp (α : Type) := Prog VarsApi α

namespace PackageVar

def get (v : PackageVar) : VarOp String := .ask (I := VarsApi) (.inl (.read v))

def set (v : PackageVar) (value : String) : VarOp Unit :=
  .ask (I := VarsApi) (.inl (.write v value))

def isSet (v : PackageVar) : VarOp Bool := do return decide ((← v.get) ≠ "")

/-- The second variable is read only if the first is empty. -/
def eitherSet (v w : PackageVar) : VarOp Bool := do if ← v.isSet then return true else w.isSet

/-- The second variable is read only if the first is not empty. -/
def bothSet (v w : PackageVar) : VarOp Bool := do if ← v.isSet then w.isSet else return false

/-- Assignments, in order. -/
def assign : List (PackageVar × String) → VarOp Unit
  | [] => .ret ()
  | (v, value) :: rest => v.set value >>= fun _ => assign rest

/-! ## Assignments -/

def classAssignments (config : RedisSecretProviderClass) : List (PackageVar × String) :=
  (if config.secretProviderClassName ≠ "" ∧ config.redisSecretName ≠ "" then
      [(redisSecretProviderClassName, config.secretProviderClassName),
        (redisSecretName, config.redisSecretName),
        (redisUsernameKey, config.redisUsernameKey),
        (redisPasswordKey, config.redisPasswordKey)]
    else []) ++
    match config.conjur with
    | some conjur =>
      [(redisConjurUsernamePath, conjur.usernamePath), (redisConjurPasswordPath, conjur.passwordPath)]
    | none => []

/-- What a component of redis assigns before its classes are looked at. -/
def redisDefaults : List (PackageVar × String) :=
  [(redisSecretProviderClassName, ""), (redisSecretName, defaultRedisSecretName),
    (redisUsernameKey, defaultRedisUsernameKey), (redisPasswordKey, defaultRedisPasswordKey),
    (redisConjurUsernamePath, ""), (redisConjurPasswordPath, "")]

def updateRedisGlobalVars (component : ContainerTemplate) : VarOp Unit :=
  assign (redisDefaults ++ component.redisSecretProviderClass.flatMap classAssignments)

def configAssignments (config : ConfigSecretProviderClass) : List (PackageVar × String) :=
  (if config.secretProviderClassName ≠ "" ∧ config.configSecretName ≠ "" then
      [(configSecretProviderClassName, config.secretProviderClassName),
        (configSecretName, config.configSecretName)]
    else []) ++
    match config.conjur with
    | some conjur => [(configSecretPath, conjur.secretPath)]
    | none => []

def updateConfigGlobalVars (component : ContainerTemplate) : VarOp Unit :=
  assign ([(configSecretName, defaultConfigSecretName), (configSecretProviderClassName, ""),
      (configSecretPath, "")] ++ component.configSecretProviderClass.flatMap configAssignments)

/-- A loop over the components that keeps what it collects, and stops at an error. -/
def overComponents {σ : Type} (step : σ → ContainerTemplate → VarOp (Except GoError σ)) :
    σ → List ContainerTemplate → VarOp (Except GoError σ)
  | s, [] => .ret (.ok s)
  | s, component :: components => do
    match ← step s component with
    | .error e => return .error e
    | .ok s => overComponents step s components

/-! ## Mounting classes -/

def mountRedisClass (w : AuthWorkload) : VarOp AuthWorkload := do
  if ← bothSet redisSecretProviderClassName redisSecretName then
    let usernamePath ← redisConjurUsernamePath.get
    let passwordPath ← redisConjurPasswordPath.get
    return w.mountClass (← redisSecretProviderClassName.get) [usernamePath, passwordPath]
  else return w

def mountConfigClass (w : AuthWorkload) : VarOp AuthWorkload := do
  if ← bothSet configSecretProviderClassName configSecretName then
    let path ← configSecretPath.get
    return w.mountClass (← configSecretProviderClassName.get) [path]
  else return w

/-! ### Without others

Alone, these functions do to the variables what the ones on a record of their values do. -/

section Memory

variable (answer : AuthObject → Option GoError) (m : PackageVar → String)

/-- The variables of redis and of the configuration. -/
def authVars : AuthVars where
  redisSecretProviderClassName := m redisSecretProviderClassName
  redisSecretName := m redisSecretName
  redisUsernameKey := m redisUsernameKey
  redisPasswordKey := m redisPasswordKey
  redisConjurUsernamePath := m redisConjurUsernamePath
  redisConjurPasswordPath := m redisConjurPasswordPath
  configSecretName := m configSecretName
  configSecretProviderClassName := m configSecretProviderClassName
  configSecretPath := m configSecretPath

def afterAssignments (assignments : List (PackageVar × String)) : PackageVar → String :=
  assignments.foldl (fun m x => Function.update m x.1 x.2) m

/-- Run a program on a memory that nobody else touches. -/
def runAlone {α : Type} (p : VarOp α) : Option (α × (PackageVar → String)) :=
  p.exec (fun m q => (sharedEnv answer).respond m q ()) m

theorem runAlone_bind {α β : Type} (p : VarOp α) (f : α → VarOp β) :
    runAlone answer m (p >>= f) = (runAlone answer m p).bind fun x => runAlone answer x.2 (f x.1) :=
  Prog.exec_bind p f m

theorem runAlone_get (v : PackageVar) : runAlone answer m v.get = some (m v, m) := rfl

theorem runAlone_bothSet (v w : PackageVar) :
    runAlone answer m (bothSet v w) = some (decide (m v ≠ "" ∧ m w ≠ ""), m) := by
  by_cases hv : m v = ""
  · simp [bothSet, isSet, runAlone_bind, runAlone_get, hv]
    rfl
  · simp [bothSet, isSet, runAlone_bind, runAlone_get, hv]
    rfl

theorem runAlone_assign (assignments : List (PackageVar × String)) :
    runAlone answer m (assign assignments) = some ((), afterAssignments m assignments) := by
  induction assignments generalizing m with
  | nil => rfl
  | cons x assignments ih => exact ih _

theorem authVars_classAssignments (config : RedisSecretProviderClass) :
    authVars (afterAssignments m (classAssignments config)) = (authVars m).useClass config := by
  unfold classAssignments AuthVars.useClass
  cases config.conjur <;> split_ifs <;> rfl

/-- The assignments of a component of redis. -/
theorem runAlone_updateRedisGlobalVars (component : ContainerTemplate) :
    (runAlone answer m (updateRedisGlobalVars component)).map (authVars ·.2) =
      some (CsmOperator.updateRedisGlobalVars component (authVars m)) := by
  have hclasses : ∀ (configs : List RedisSecretProviderClass) (m : PackageVar → String),
      authVars (afterAssignments m (configs.flatMap classAssignments)) =
        configs.foldl AuthVars.useClass (authVars m) := by
    intro configs
    induction configs with
    | nil => exact fun _ => rfl
    | cons config configs ih =>
        intro m
        rw [List.flatMap_cons, afterAssignments, List.foldl_append, List.foldl_cons,
          ← authVars_classAssignments]
        exact ih _
  rw [updateRedisGlobalVars, runAlone_assign, Option.map_some, afterAssignments, List.foldl_append]
  exact congrArg some (hclasses _ _)

theorem runAlone_mountRedisClass (w : AuthWorkload) :
    runAlone answer m (mountRedisClass w) = some ((authVars m).mountRedisClass w, m) := by
  unfold mountRedisClass AuthVars.mountRedisClass
  rw [runAlone_bind, runAlone_bothSet, Option.bind_some]
  dsimp only
  have hvars : ((authVars m).redisSecretProviderClassName ≠ "" ∧ (authVars m).redisSecretName ≠ "") =
      (m redisSecretProviderClassName ≠ "" ∧ m redisSecretName ≠ "") := rfl
  by_cases h : m redisSecretProviderClassName ≠ "" ∧ m redisSecretName ≠ ""
  · rw [if_pos (decide_eq_true h), if_pos (hvars ▸ h)]
    rfl
  · rw [if_neg (mt of_decide_eq_true h), if_neg (hvars ▸ h)]
    rfl

theorem runAlone_mountConfigClass (w : AuthWorkload) :
    runAlone answer m (mountConfigClass w) = some ((authVars m).mountConfigClass w, m) := by
  unfold mountConfigClass AuthVars.mountConfigClass
  rw [runAlone_bind, runAlone_bothSet, Option.bind_some]
  dsimp only
  have hvars : ((authVars m).configSecretProviderClassName ≠ "" ∧ (authVars m).configSecretName ≠ "") =
      (m configSecretProviderClassName ≠ "" ∧ m configSecretName ≠ "") := rfl
  by_cases h : m configSecretProviderClassName ≠ "" ∧ m configSecretName ≠ ""
  · rw [if_pos (decide_eq_true h), if_pos (hvars ▸ h)]
    rfl
  · rw [if_neg (mt of_decide_eq_true h), if_neg (hvars ▸ h)]
    rfl

end Memory

def applyDeleteObjects (object : AuthObject) : VarOp (Option GoError) :=
  .ask (I := VarsApi) (.inr object)

/-- Apply a workload; `what` is how the error names it. -/
def applyWorkload (what : String) (w : AuthWorkload) : VarOp (Option GoError) := do
  match ← applyDeleteObjects (.workload w) with
  | some e => return some (errorf ("applying " ++ what ++ ": " ++ e.text))
  | none => return none

end PackageVar

/-- What an installation depends on apart from the CR and the variables: the configuration directory and
the cluster. -/
structure Surroundings where
  readDir : String → Except GoError (List DirEntry)
  configDirectory : String
  matched : ContainerStorageModule → VersionSpec
  /-- `getAuthorizationServerDeployment`, which reads none of the variables -/
  serverManifest : ContainerStorageModule → Except GoError String
  /-- the template of the custom certificate -/
  customCert : Module → ContainerStorageModule → Except GoError String
  /-- `getRedisChecksumFromSecretData`, for the name of a Secret -/
  redisChecksum : ContainerStorageModule → String → Except GoError String
  removeVault : ContainerStorageModule → Option GoError
  apply : AuthObject → Option GoError

def defaultProxyServerImage : String := "quay.io/dell/container-storage-modules/csm-authorization-proxy"

def defaultTenantServiceImage : String :=
  "quay.io/dell/container-storage-modules/csm-authorization-tenant"

def defaultOpaImage : String := "docker.io/openpolicyagent/opa:0.70.0"

def defaultOpaKubeMgmtImage : String := "docker.io/openpolicyagent/kube-mgmt:9.2.1"

def defaultRedisImage : String := "redis:8.4.0-alpine"

def defaultRedisCommanderImage : String := "rediscommander/redis-commander:latest"

namespace Surroundings

open PackageVar

variable (s : Surroundings) (cr : ContainerStorageModule) (authModule : Module)

/-! ## Images -/

/-- `getVersionSpecificDefaultImages`, for one image. -/
def versionDefault (image : String) : Except GoError String :=
  if authModule.configVersion = "" then
    match getLatestAuthVersion s.readDir s.configDirectory with
    | .error e =>
      .error (errorf ("failed to get version-specific default images: failed to determine latest " ++
        "authorization version: " ++ e.text))
    | .ok latestVersion => .ok (image ++ ":" ++ latestVersion)
  else .ok (image ++ ":" ++ authModule.configVersion)

def imageFor (key componentImage defaultImage : String) : String :=
  getImageForKey key (getDefaultAuthImage componentImage defaultImage) cr (s.matched cr)

/-! ## Workloads of redis -/

def readRedis (args : ServerArgs) (component : ContainerTemplate) : VarOp (Except GoError ServerArgs) := do
  if component.name = "redis" then
    PackageVar.updateRedisGlobalVars component
    return .ok
      { args with
        redisName := component.redisName
        rediscommanderName := component.redisCommander
        sentinelName := component.sentinel
        redisReplicas := component.redisReplicas
        redisImage := s.imageFor cr "redis" component.redis defaultRedisImage
        commanderImage := s.imageFor cr "commander" component.commander defaultRedisCommanderImage }
  else return .ok args

/-- One of the workloads of redis: its scaffold is handed the values of some variables. -/
def applyRedisWorkload (what : String) (scaffold : ServerArgs → VarOp AuthWorkload) :
    VarOp (Option GoError) := do
  match ← overComponents (s.readRedis cr) { namesp := cr.namesp } authModule.components with
  | .error e => return some e
  | .ok args =>
    match s.redisChecksum cr (← redisSecretName.get) with
    | .error e => return some (errorf ("getting redis secret checksum: " ++ e.text))
    | .ok checksum =>
      let w ← scaffold { args with checksum }
      applyWorkload what (← mountRedisClass w)

def applyDeleteAuthorizationRedisStatefulsetV2 : VarOp (Option GoError) :=
  s.applyRedisWorkload cr authModule "redis statefulset" fun args => do
    let redisSecretName ← redisSecretName.get
    let redisPasswordKey ← redisPasswordKey.get
    return getAuthorizationRedisStatefulsetScaffold args { redisSecretName, redisPasswordKey }

def applyDeleteAuthorizationRediscommanderDeploymentV2 : VarOp (Option GoError) :=
  s.applyRedisWorkload cr authModule "rediscommander deployment" fun args => do
    let redisSecretName ← redisSecretName.get
    let redisUsernameKey ← redisUsernameKey.get
    let redisPasswordKey ← redisPasswordKey.get
    return getAuthorizationRediscommanderDeploymentScaffold args
      { redisSecretName, redisUsernameKey, redisPasswordKey }

def applyDeleteAuthorizationSentinelStatefulsetV2 : VarOp (Option GoError) :=
  s.applyRedisWorkload cr authModule "sentinel statefulset" fun args => do
    let redisSecretName ← redisSecretName.get
    let redisPasswordKey ← redisPasswordKey.get
    return getAuthorizationSentinelStatefulsetScaffold args { redisSecretName, redisPasswordKey }

/-! ## Services -/

/-- A component, for the proxy server and the tenant service; `readImages` takes what is in the component
of the proxy server. -/
def readService (readImages : ServerArgs → ContainerTemplate → Except GoError ServerArgs) (args : ServerArgs)
    (component : ContainerTemplate) : VarOp (Except GoError ServerArgs) := do
  if component.name = authProxyServerComponent then return readImages args component
  else if component.name = "redis" then
    PackageVar.updateRedisGlobalVars component
    return .ok { args with sentinelName := component.sentinel, redisReplicas := component.redisReplicas }
  else if component.name = "config" then
    updateConfigGlobalVars component
    return .ok args
  else return .ok args

def applyService (what : String)
    (readImages : ServerArgs → ContainerTemplate → Except GoError ServerArgs)
    (scaffold : ServerArgs → AuthVars → AuthWorkload) : VarOp (Option GoError) := do
  configSecretName.set defaultConfigSecretName
  match ← overComponents (readService readImages) { namesp := cr.namesp } authModule.components with
  | .error e => return some e
  | .ok args =>
    let configSecretName ← configSecretName.get
    let redisSecretName ← redisSecretName.get
    let redisPasswordKey ← redisPasswordKey.get
    let w ← mountRedisClass (scaffold args { configSecretName, redisSecretName, redisPasswordKey })
    applyWorkload what (← mountConfigClass w)

def readProxyImages (args : ServerArgs) (component : ContainerTemplate) : Except GoError ServerArgs := do
  let versionDefault ← s.versionDefault authModule defaultProxyServerImage
  return { args with
      proxyReplicas := component.proxyServiceReplicas
      proxyImage := s.imageFor cr "proxy-service" component.proxyService versionDefault
      opaImage := s.imageFor cr "opa" component.opa defaultOpaImage
      opaKubeMgmtImage := s.imageFor cr "opa-kube-mgmt" component.opaKubeMgmt defaultOpaKubeMgmtImage }

def applyDeleteAuthorizationProxyServerV2 : VarOp (Option GoError) :=
  applyService cr authModule "proxy-server deployment" (s.readProxyImages cr authModule)
    getProxyServerScaffold

def readTenantImages (args : ServerArgs) (component : ContainerTemplate) : Except GoError ServerArgs := do
  let versionDefault ← s.versionDefault authModule defaultTenantServiceImage
  return { args with
      tenantImage := s.imageFor cr "tenant-service" component.tenantService versionDefault
      tenantReplicas := component.tenantServiceReplicas }

def applyDeleteAuthorizationTenantServiceV2 : VarOp (Option GoError) :=
  applyService cr authModule "tenant-service deployment" (s.readTenantImages cr authModule)
    getTenantServiceScaffold

/-- One component, for the storage service. -/
def readStorage (inputs : StorageInputs) (component : ContainerTemplate) :
    VarOp (Except GoError StorageInputs) := do
  if component.name = authProxyServerComponent then
    return (s.versionDefault authModule defaultStorageServiceImage).map fun versionDefault =>
      { inputs with
        replicas := component.storageServiceReplicas
        image := s.imageFor cr storageServiceName component.storageService versionDefault
        leaderElection := component.leaderElection
        otelCollector := component.openTelemetryCollectorAddress }
  else if component.name = "redis" then
    PackageVar.updateRedisGlobalVars component
    return .ok { inputs with sentinelName := component.sentinel, redisReplicas := component.redisReplicas }
  else if component.name = "storage-system-credentials" then
    return .ok
      { inputs with
        secretProviderClasses := component.secretProviderClasses
        secrets := component.secrets }
  else if component.name = "config" then
    -- of the class of the configuration only the Secret is used
    assign (component.configSecretProviderClass.flatMap fun config =>
      if config.secretProviderClassName ≠ "" ∧ config.configSecretName ≠ "" then
        [(configSecretName, config.configSecretName)]
      else [])
    return .ok inputs
  else return .ok inputs

/-- The Deployment with the environment and the arguments of its container. -/
def finishStorage (inputs : StorageInputs) (w : AuthWorkload) : VarOp (Option GoError) := do
  let redisSecretName ← redisSecretName.get
  let redisPasswordKey ← redisPasswordKey.get
  match minVersionCheck "v2.0.0" authModule.configVersion with
  | (_, some e) => return some e
  | (v2Version, none) =>
    let inputs := { inputs with vars := { redisSecretName, redisPasswordKey } }
    applyWorkload "storage-service deployment"
      { w with toPodDeployment :=
          w.toPodDeployment.updateContainer (configureContainer inputs cr.namesp v2Version) }

def authorizationStorageServiceV2 : VarOp (Option GoError) := do
  match minVersionCheck "v2.3.0" authModule.configVersion with
  | (_, some e) => return some e
  | (storageCreds, none) =>
    configSecretName.set defaultConfigSecretName
    match ← overComponents (s.readStorage cr authModule) {} authModule.components with
    | .error e => return some e
    | .ok inputs =>
      if storageCreds ∧ (hasSPC inputs.secretProviderClasses ↔ inputs.secrets ≠ []) then
        return some (errorf ("exactly one of SecretProviderClasses or Secrets must be specified in the CSM " ++
          "Authorization CR — not both, not neither"))
      else
        let configSecretName ← configSecretName.get
        let d := getStorageServiceScaffold cr.namesp inputs.image inputs.replicas configSecretName
        if storageCreds then
          match s.removeVault cr with
          | some e => return some (errorf ("removing vault from storage service: " ++ e.text))
          | none =>
            let w ← mountRedisClass { mountStorageCredentials inputs d with }
            finishStorage cr authModule inputs w
        else finishStorage cr authModule inputs { d with }

/-! ## Installing -/

/-- Stop at the first error. -/
def andThen (p q : VarOp (Option GoError)) : VarOp (Option GoError) := do
  match ← p with
  | some e => return some e
  | none => q

def authorizationServerDeployment : VarOp (Option GoError) :=
  match getAuthorizationModule cr with
  | .error e => .ret (some e)
  | .ok authModule =>
    match s.serverManifest cr with
    | .error e => .ret (some e)
    | .ok yamlString =>
      andThen (applyDeleteObjects (.text yamlString)) <|
        match minVersionCheck "v2.3.0" authModule.configVersion with
        | (_, some e) => .ret (some e)
        | (true, none) =>
          andThen (s.applyDeleteAuthorizationRedisStatefulsetV2 cr authModule) <|
            andThen (s.applyDeleteAuthorizationRediscommanderDeploymentV2 cr authModule) <|
              andThen (s.applyDeleteAuthorizationSentinelStatefulsetV2 cr authModule) <|
                andThen (s.applyDeleteAuthorizationProxyServerV2 cr authModule) <|
                  andThen (s.applyDeleteAuthorizationTenantServiceV2 cr authModule) <|
                    s.authorizationStorageServiceV2 cr authModule
        | (false, none) => s.authorizationStorageServiceV2 cr authModule

/-- On OpenShift no variable is looked at. -/
def getClassName (isOpenShift : Bool) : VarOp (Except GoError String) := do
  if isOpenShift then return .ok "openshift-default"
  else match getAuthorizationModule cr with
    | .error e => return .error e
    | .ok authModule =>
      assign (authModule.components.flatMap fun component =>
        if component.name = authProxyServerComponent then
          component.proxyServerIngress.map fun ingress => (proxyIngressClassName, ingress.ingressClassName)
        else [])
      return .ok (← proxyIngressClassName.get)

def getAnnotations (isOpenShift : Bool) (authModule : Module) : StrMap :=
  setAnnotations (fun _ => none)
    ((if isOpenShift then [("route.openshift.io/termination", "edge")] else []) ++
      authModule.components.flatMap fun component =>
        if component.name = authProxyServerComponent then component.proxyServerIngress.flatMap (·.annotations)
        else [])

def createIngress (isOpenShift : Bool) : VarOp (Except GoError Ingress) := do
  match getAuthorizationModule cr with
  | .error e => return .error e
  | .ok authModule =>
    match ← getClassName cr isOpenShift with
    | .error e => return .error (errorf ("getting ingress class name: " ++ e.text))
    | .ok className =>
      match getHosts cr with
      | .error e => return .error (errorf ("getting hosts: " ++ e.text))
      | .ok hosts =>
        match setIngressRules cr with
        | .error e => return .error (errorf ("setting ingress rules: " ++ e.text))
        | .ok rules =>
          assign (authModule.components.flatMap fun component =>
            if component.name = authProxyServerComponent then
              [(secretName, if component.certificate ≠ "" ∧ component.privateKey ≠ "" then "user-provided-tls"
                else "karavi-selfsigned-tls")]
            else [])
          let tlsSecretName ← secretName.get
          return .ok
            { namesp := cr.namesp
              annotations := getAnnotations isOpenShift authModule
              ingressClassName := className
              tlsHosts := hosts
              tlsSecretName
              rules }

/-- The ingress is applied as it was created. -/
def applyIngress (isOpenShift : Bool) : VarOp (Option GoError) := do
  match ← createIngress cr isOpenShift with
  | .error e => return some (errorf ("creating ingress: " ++ e.text))
  | .ok ingress => applyDeleteObjects (.ingress ingress)

/-- Is the certificate self-signed, and else what is applied. -/
def getCerts : VarOp (Except GoError (Bool × String)) := do
  match getAuthorizationModule cr with
  | .error e => return .error e
  | .ok authModule =>
    assign (authModule.components.flatMap fun component =>
      if component.name = authProxyServerComponent then
        [(authHostname, component.hostname), (authCertificate, component.certificate),
          (authPrivateKey, component.privateKey)]
      else [])
    if ← eitherSet authCertificate authPrivateKey then
      if ← bothSet authCertificate authPrivateKey then
        match s.customCert authModule cr with
        | .error e => return .error e
        | .ok text =>
          let yamlString := replaceAll text "<NAMESPACE>" cr.namesp
          let yamlString := replaceAll yamlString "<BASE64_CERTIFICATE>" (← authCertificate.get)
          return .ok (false, replaceAll yamlString "<BASE64_PRIVATE_KEY>" (← authPrivateKey.get))
      else
        return .error (errorf ("authorization install failed -- either certificate or private key missing " ++
          "for custom cert"))
    else return .ok (true, "")

def installWithCerts : VarOp (Option GoError) := do
  match ← s.getCerts cr with
  | .error e => return some e
  | .ok (false, yamlString) => applyDeleteObjects (.cert (.text yamlString))
  | .ok (true, yamlString) =>
    andThen (applyDeleteObjects (.cert (.issuer (createSelfSignedIssuer cr "selfsigned")))) <|
      match getHosts cr with
      | .error e => .ret (some e)
      | .ok hosts =>
        andThen (applyDeleteObjects (.cert (.certificate (createSelfSignedCertificate cr hosts "karavi-auth"
          "karavi-selfsigned-tls" "selfsigned")))) <|
          applyDeleteObjects (.cert (.text yamlString))

end Surroundings

/-! ## The workers -/

/-- A call of one of the functions, for a CR. -/
inductive Install where
  | serverDeployment (cr : ContainerStorageModule)
  | ingress (isOpenShift : Bool) (cr : ContainerStorageModule)
  | certs (cr : ContainerStorageModule)

def installWorker (s : Surroundings) (install : Install) : Prog VarsApi Unit :=
  (match install with
    | .serverDeployment cr => s.authorizationServerDeployment cr
    | .ingress isOpenShift cr => Surroundings.applyIngress cr isOpenShift
    | .certs cr => s.installWithCerts cr) >>= fun _ => .ret ()

abbrev InstallPool := Pool VarsApi (PackageVar → String) Install

/-- The objects that a worker has handed over. -/
def appliedObjects (tr : List (Event VarsApi)) : List AuthObject :=
  tr.filterMap fun e => match e.req with
    | .inr object => some object
    | .inl _ => none

/-- In all runs whose steps meet `Ok`, the objects of a worker that has finished depend on nothing but its
CR and its surroundings. The variables are empty at first. -/
def NonInterfering (s : Surroundings) (Ok : InstallPool → Move VarsApi (PackageVar → String) Install → Prop) :
    Prop :=
  ∃ objects : Install → List AuthObject, ∀ ps,
    Pool.Reach (sharedEnv s.apply) (installWorker s) Ok (Pool.empty fun _ => "") ps →
      ∀ i install, ps.threads[i]? = some (install, .ret ()) →
        appliedObjects (Pool.trace ps.log i) = objects install

/-- What a worker applies that is alone. -/
def aloneObjects (s : Surroundings) (install : Install) : List AuthObject :=
  (Monitor.replay (aloneAnswer (fun _ => "") s.apply) (installWorker s install)).elim [] fun result =>
    appliedObjects result.2

/-- An authorization server; the components are those of redis, of the proxy server and of the storage
systems, and the ones given. -/
def twoServers (namesp : String) (components : List ContainerTemplate) : ContainerStorageModule where
  name := "authorization"
  namesp := namesp
  spec :=
    { modules :=
        [{ name := .authorizationServer, enabled := true, configVersion := "v2.5.0"
           components :=
             [{ name := "redis", redisName := "redis-csm", redisCommander := "rediscommander"
                sentinel := "sentinel", redisReplicas := 5, redisUsername := "dev", redisPassword := "secret" },
               { name := "proxy-server", hostname := "csm-authorization.com", proxyServiceReplicas := 1
                 tenantServiceReplicas := 1, storageServiceReplicas := 1 },
               { name := "storage-system-credentials", secrets := ["powerflex-creds"] }] ++ components }] }

/-- One server has its configuration in a vault. -/
def vaultServer : ContainerStorageModule :=
  twoServers "gold"
    [{ name := "config"
       configSecretProviderClass :=
         [{ secretProviderClassName := "gold-config", configSecretName := "gold-config-secret" }] }]

/-- The other has it in the default Secret. -/
def plainServer : ContainerStorageModule := twoServers "silver" []

/-- All that is asked for succeeds. -/
def quietSurroundings : Surroundings where
  readDir _ := .ok []
  configDirectory := "/etc/config"
  matched _ := {}
  serverManifest _ := .ok ""
  customCert _ _ := .ok ""
  redisChecksum _ _ := .ok ""
  removeVault _ := none
  apply _ := none

/-- Install servers one after the other. -/
def installInTurn (servers : List ContainerStorageModule) : InstallPool :=
  ((servers.map .serverDeployment).foldl (fun ps install =>
      ps.afterSpawn install (installWorker quietSurroundings install)) (Pool.empty fun _ => "")).play
    (sharedEnv quietSurroundings.apply) (fun _ _ _ => true)
    ((List.range servers.length).flatMap fun i => List.replicate 120 (i, ()))

theorem reach_installInTurn (servers : List ContainerStorageModule) :
    Pool.Reach (sharedEnv quietSurroundings.apply) (installWorker quietSurroundings) (fun _ _ => True)
      (Pool.empty fun _ => "") (installInTurn servers) :=
  Pool.Reach.play (fun _ _ _ _ => trivial) _ (Pool.Reach.spawnAll (fun _ _ => trivial) _ .refl)

theorem entry_installInTurn {servers : List ContainerStorageModule} {i : Nat} {cr : ContainerStorageModule}
    (h : servers[i]? = some cr) :
    ((installInTurn servers).threads.map (·.1))[i]? = some (.serverDeployment cr) := by
  rw [installInTurn, Pool.play_entries, Pool.spawnAll_entries, Pool.empty, List.map_nil, List.nil_append,
    List.getElem?_map, h]
  rfl

/-- The provider classes that the pods mount. -/
def mountedClasses (objects : List AuthObject) : List String :=
  objects.flatMap fun object => match object with
    | .workload w => w.spec.classes
    | _ => []

end CsmOperator
