import CsmOperator.Drivers.Certificates
import CsmOperator.Drivers.CommonConfig
import CsmOperator.Drivers.PowerFlex.Mdm
import CsmOperator.Modules.Authorization

/-!
# The prechecks of the modules

`PreChecks` runs the precheck of every module that is enabled: is the module there for the driver and in
the version that is asked for, and are the Secrets and ConfigMaps there that it needs. The precheck of
replication repeats that of the driver.

The precheck of the reverse proxy has one more effect. Whether the proxy runs next to the driver or on its
own is a variable of the package, and the precheck sets it.
-/

namespace CsmOperator

open Go Interaction

variable (files : ModuleFiles) (op : OperatorConfig)
  (jsonToYAML : String → Except String (List StorageArrayConfig))

/-! ## The driver of PowerFlex -/

def volumeNamePrefixArg : String := "--volume-name-prefix="

/-- The argument of the first provisioner that has one. -/
def getVolumeNamePrefix (sideCars : List ContainerTemplate) : String :=
  let args := (sideCars.filter (·.name = "provisioner")).flatMap (·.args)
  match args.find? (hasPrefix · volumeNamePrefixArg) with
  | some arg => trimPrefix arg volumeNamePrefixArg
  | none => ""

/-- The Secret of the metrics, where they are served over TLS. -/
def metricsSecrets (cr : ContainerStorageModule) : List String :=
  if isDriverMetricsTLSEnabled cr then (cr.spec.driver.metrics.map (·.tlsCertSecret)).toList else []

def precheckPowerFlex (cr : ContainerStorageModule) : LookupOp (Option GoError) := do
  let volumePrefix := getVolumeNamePrefix cr.spec.driver.sideCars
  if (isModuleEnabled cr .authorization).isSome ∧ (isModuleEnabled cr .replication).isSome ∧
      5 < volumePrefix.utf8ByteSize then
    pure (some (errorf ("volume name prefix '" ++ volumePrefix ++
      "' cannot exceed 5 characters when both Authorization and Replication modules are enabled")))
  else
    match getVersion op cr with
    | .error e => pure (some e)
    | .ok version =>
      if ← isNotExist (op.configDirectory ++ "/driverconfig/powerflex/" ++ version ++
          "/upgrade-path.yaml") then
        pure (some (errorf ("vxflexos " ++ version ++ " not supported")))
      else
        let credSecret ← readSecret ⟨cr.namesp, cr.name ++ "-config"⟩
        match getMDMFromSecret jsonToYAML cr (secretText credSecret) with
        | .error e => pure (some e)
        | .ok _ => lookUpSecrets cr.namesp (metricsSecrets cr)

/-! ## Replication, resiliency and observability -/

/-- The keys of the maps `ReplicationSupportedDrivers`, `ResiliencySupportedDrivers` and
`ObservabilitySupportedDrivers`. -/
def deploymentSupported : DriverType → Bool
  | .powerScaleName | .powerScale | .powerFlex | .powerFlexName | .powerMax | .powerStore => true
  | _ => false

/-- How the three prechecks begin. -/
def precheckDeployment (moduleType : ModuleType) (title : String) (m : Module)
    (cr : ContainerStorageModule) : LookupOp (Option GoError) :=
  if !deploymentSupported cr.spec.driver.csiDriverType then
    pure (some (errorf ("CSM Operator does not suport " ++ title ++ " deployment for " ++
      cr.spec.driver.csiDriverType.text ++ " driver")))
  else checkGivenVersion files op moduleType m

def resiliencyPrecheck : Module → ContainerStorageModule → LookupOp (Option GoError) :=
  precheckDeployment files op .resiliency "Resiliency"

def observabilityPrecheck : Module → ContainerStorageModule → LookupOp (Option GoError) :=
  precheckDeployment files op .observability "Observability"

def defaultSourceClusterID : String := "default-source-cluster"

/-- The precheck of a driver for the cluster that is replicated. -/
def precheckCluster (name : String) (precheck : LookupOp (Option GoError)) : LookupOp (Option GoError) := do
  match ← precheck with
  | some e => pure (some (errorf ("failed " ++ name ++ " validation: " ++ e.text ++ " for cluster " ++
      defaultSourceClusterID)))
  | none => pure none

def replicationPrecheck (replica : Module) (cr : ContainerStorageModule) : LookupOp (Option GoError) := do
  match ← precheckDeployment files op .replication "Replication" replica cr with
  | some e => pure (some e)
  | none =>
    match cr.spec.driver.csiDriverType with
    | .powerScale => precheckCluster "powerscale" (precheckPowerScale op cr)
    | .powerFlex => precheckCluster "powerflex" (precheckPowerFlex op jsonToYAML cr)
    | .powerStore => precheckCluster "powerstore" (precheckPowerStore op cr)
    | _ => pure none

/-! ## The authorization server -/

def nginxGatewayEnabled (components : List ContainerTemplate) : Bool :=
  components.any fun c => c.name = "nginx-gateway-fabric" ∧ c.enabled = some true

/-- What a CR must not combine: the gateway is for v2.5.0 and later, and takes the place of the ingress. -/
def gatewayError (isV25OrLater : Bool) (components : List ContainerTemplate) : Option GoError :=
  let proxies := components.filter (·.name = "proxy-server")
  match isV25OrLater, nginxGatewayEnabled components with
  | false, true => some (errorf ("nginx-gateway-fabric component is not supported with authorization " ++
      "v2.4.0 and below; use nginx component instead"))
  | true, true =>
    if proxies.any (·.proxyServerIngress ≠ []) then
      some (errorf ("proxyServerIngress is not supported when nginx-gateway-fabric is enabled (v2.5.0+); " ++
        "use the gateway field instead"))
    else none
  | false, false =>
    if proxies.any (·.gateway.isSome) then
      some (errorf ("gateway field is not supported with authorization v2.4.0 and below; " ++
        "use proxyServerIngress instead"))
    else none
  | true, false => none

/-- Some class is given for the configuration Secret. -/
def hasConfigClass (components : List ContainerTemplate) : Bool :=
  components.any fun c =>
    c.name = "config" ∧ c.configSecretProviderClass.any (·.secretProviderClassName ≠ "")

def authorizationServerPrecheck (auth : Module) (cr : ContainerStorageModule) :
    LookupOp (Option GoError) := do
  match getVersion op cr with
  | .error e => pure (some e)
  | .ok authVersion =>
    match ← checkVersion files "authorization" authVersion op.configDirectory with
    | some e => pure (some e)
    | none =>
      match minVersionCheck "v2.5.0" authVersion with
      | (_, some e) => pure (some (errorf ("error checking authorization version: " ++ e.text)))
      | (isV25OrLater, none) =>
        match gatewayError isV25OrLater auth.components with
        | some e => pure (some e)
        | none =>
          if hasConfigClass auth.components then pure none
          else lookUpSecrets cr.namesp ["karavi-config-secret"]

/-! ## The reverse proxy -/

def deployAsSidecarEnv : String := "DeployAsSidecar"

/-- A value that does not parse is taken for true. -/
def parseSidecar (value : String) : Bool := (parseBool value).getD true

/-- The names of the Secret and the ConfigMap of the proxy. -/
structure ProxyNames where
  proxyServerSecret : String := "csirevproxy-tls-secret"
  proxyConfigMap : String := "powermax-reverseproxy-config"
  deriving DecidableEq, Repr

def ProxyNames.update (names : ProxyNames) (env : EnvVar) : ProxyNames :=
  if env.name = "X_CSI_REVPROXY_TLS_SECRET" then { names with proxyServerSecret := env.value }
  else if env.name = "X_CSI_CONFIG_MAP_NAME" then { names with proxyConfigMap := env.value }
  else names

/-- The loop over the environment. The variable is set at every entry for it. -/
def readProxyEnvs : ProxyNames → List EnvVar → LookupOp ProxyNames
  | names, [] => pure names
  | names, env :: envs =>
    if env.name = deployAsSidecarEnv then do
      setDeployAsSidecar (parseSidecar env.value)
      readProxyEnvs names envs
    else readProxyEnvs (names.update env) envs

/-- The environment of the first component. A list that is empty and not nil is indexed as well. -/
def proxyEnvs (revproxy : Module) : Option (List EnvVar) :=
  match revproxy.components with
  | c :: _ => some c.envs
  | [] => if revproxy.emptyComponents then none else some []

def csiPowerMaxUseSecret : String := "X_CSI_REVPROXY_USE_SECRET"

/-- The last entry counts, unless one before it does not parse. -/
def useSecretEnvs : Bool → List EnvVar → Bool
  | useSecret, [] => useSecret
  | useSecret, env :: envs =>
    if env.name = csiPowerMaxUseSecret then
      match parseBool env.value with
      | none => false
      | some ok => useSecretEnvs ok envs
    else useSecretEnvs useSecret envs

def useReverseProxySecret (cr : ContainerStorageModule) : Bool :=
  useSecretEnvs false cr.spec.driver.commonEnvs

/-- The ConfigMap, unless a Secret is used in its place. -/
def lookUpProxyConfigMap (cr : ContainerStorageModule) (proxyConfigMap : String) :
    LookupOp (Option GoError) := do
  if useReverseProxySecret cr then pure none
  else
    match ← getConfigMap ⟨cr.namesp, proxyConfigMap⟩ with
    | some e =>
      if e.kind = .notFound then pure (some (errorf ("failed to find configmap " ++ proxyConfigMap)))
      else pure none
    | none => pure none

def reverseProxyPrecheck (revproxy : Module) (cr : ContainerStorageModule) : LookupOp (Option GoError) := do
  if cr.spec.driver.csiDriverType ≠ .powerMax then
    pure (some (errorf ("CSM Reverseproxy does not support " ++ cr.spec.driver.csiDriverType.text ++
      " driver")))
  else
    match ← checkGivenVersion files op .reverseProxy revproxy with
    | some e => pure (some e)
    | none =>
      let envs ← orPanic (proxyEnvs revproxy)
      let names ← readProxyEnvs {} envs
      match ← lookUpSecrets cr.namesp [names.proxyServerSecret] with
      | some e => pure (some e)
      | none => lookUpProxyConfigMap cr names.proxyConfigMap

/-- The `switch` over the modules; other types have no precheck. -/
def modulePrecheck (m : Module) (cr : ContainerStorageModule) : Option (LookupOp (Option GoError)) :=
  match m.name with
  | .authorization => some (authorizationPrecheck files op m cr)
  | .authorizationServer => some (authorizationServerPrecheck files op m cr)
  | .replication => some (replicationPrecheck files op jsonToYAML m cr)
  | .resiliency => some (resiliencyPrecheck files op m cr)
  | .observability => some (observabilityPrecheck files op m cr)
  | .reverseProxy => some (reverseProxyPrecheck files op m cr)
  | _ => none

end CsmOperator
