import CsmOperator.Go.Number
import CsmOperator.Go.Slices
import CsmOperator.Modules.Config

/-!
# The authorization sidecar: `pkg/modules/authorization.go`

The module adds the container `karavi-authorization-proxy` to the pods of a driver. Which Secrets the
container mounts depends on the environment the CR gives it and on the Secrets that are there: the root
certificate of the proxy server unless certificates are not verified, and the configuration of the
arrays or, from v2.4.0 on and when that Secret is missing, a volume of the driver.

Three functions read the environment. The precheck and the volumes take the last
`SKIP_CERTIFICATE_VALIDATION`; the mounts take the last of that and of its older name `INSECURE`.
-/

namespace CsmOperator

open Go Interaction

def karaviProxy : String := "karavi-authorization-proxy"

def karaviAuthorizationConfigSecret : String := "karavi-authorization-config"

def proxyRootCertificate : String := "proxy-server-root-certificate"

def skipCertificateValidation : String := "SKIP_CERTIFICATE_VALIDATION"

def insecure : String := "INSECURE"

/-- The placeholders of the mounts in `container.yaml`. -/
def defaultDriverConfigParamsVolumeMount : String := "<DriverConfigParamsVolumeMount>"

def defaultDriverConfigVolumeMount : String := "<DriverConfigVolumeMount>"

/-- What the placeholders stand for. -/
structure SupportedDriverParam where
  driverConfigParamsVolumeMount : String := ""
  driverConfigVolumeMount : String := ""
  deriving DecidableEq, Repr

def authorizationSupportedDrivers : DriverType → Option SupportedDriverParam
  | .powerScaleName | .powerScale => some ⟨"csi-isilon-config-params", "isilon-configs"⟩
  | .powerFlex | .powerFlexName => some ⟨"vxflexos-config-params", "vxflexos-config"⟩
  | .powerMax => some ⟨"powermax-config-params", "powermax-reverseproxy-secret"⟩
  | .powerStore => some ⟨"powerstore-config-params", "powerstore-config"⟩
  | _ => none

/-! ## The environment -/

/-- A proxy component that does not say whether certificates are verified is told not to. The source
changes the component in place. -/
def requestSkip (component : ContainerTemplate) : ContainerTemplate :=
  if component.name = karaviProxy ∧ ¬ component.envs.any (·.name = skipCertificateValidation) then
    { component with envs := component.envs ++ [⟨skipCertificateValidation, "true"⟩] }
  else component

/-- The value of the last entry with one of the names; a value that does not parse is false. -/
def skipCertValid (names : List String) (envs : List EnvVar) : Bool :=
  envs.foldl (fun skip env => if env.name ∈ names then (parseBool env.value).getD false else skip) false

/-! ## Precheck -/

/-- The loop of the precheck over the environment. -/
def scanAuthEnvs : Bool → List EnvVar → Except GoError Bool
  | skip, [] => .ok skip
  | skip, env :: envs =>
    if env.name = skipCertificateValidation then
      match parseBool env.value with
      | none => .error (errorf (env.value ++ " is an invalid value for SKIP_CERTIFICATE_VALIDATION: " ++
          numError "ParseBool" env.value .invalidSyntax))
      | some b => scanAuthEnvs b envs
    else if env.name = "PROXY_HOST" ∧ env.value = "" then
      .error (errorf "PROXY_HOST for authorization is empty")
    else scanAuthEnvs skip envs

/-- The Secrets that have to be there. -/
def authSecrets (driverSecretVersion skip : Bool) : List String :=
  ["proxy-authz-tokens"] ++ (if driverSecretVersion then [] else [karaviAuthorizationConfigSecret]) ++
    (if skip then [] else [proxyRootCertificate])

def queryAuthSecrets (namesp : String) : List String → LookupOp (Option GoError)
  | [] => pure none
  | name :: names => do
    match ← getSecretOf name namesp with
    | some _ => pure (some (errorf ("failed to find secret " ++ name ++
        " and certificate validation is requested")))
    | none => queryAuthSecrets namesp names

def authorizationPrecheck (files : ModuleFiles) (op : OperatorConfig) (auth : Module)
    (cr : ContainerStorageModule) : LookupOp (Option GoError) :=
  if (authorizationSupportedDrivers cr.spec.driver.csiDriverType).isNone then
    pure (some (errorf ("CSM Authorization does not support " ++ cr.spec.driver.csiDriverType.text ++
      " driver")))
  else do
    match ← checkGivenVersion files op .authorization auth with
    | some e => pure (some e)
    | none =>
      let proxy ← orPanic (auth.components.map requestSkip).head?
      match scanAuthEnvs false proxy.envs with
      | .error e => pure (some e)
      | .ok skip =>
        match moduleVersion files op cr .authorization auth with
        | .error e => pure (some e)
        | .ok version =>
          match minVersionCheck "v2.4.0" version with
          | (_, some e) => pure (some e)
          | (driverSecretVersion, none) =>
            queryAuthSecrets cr.namesp (authSecrets driverSecretVersion skip)

/-! ## Rendering the sidecar -/

/-- From v2.4.0 on the configuration of the arrays may be missing. -/
def queryConfigSecret (driverSecretVersion : Bool) (namesp : String) : LookupOp (Option GoError) :=
  if driverSecretVersion then getSecretOf karaviAuthorizationConfigSecret namesp else pure none

/-- An entry for the verification of certificates says that they are verified. -/
def requestVerification (e : EnvVarApply) : EnvVarApply :=
  if e.name = insecure ∨ e.name = skipCertificateValidation then { e with value := some "false" } else e

/-- The mount of the root certificate goes, or the environment says that certificates are verified. -/
def mountCertificate (envs : List EnvVar) (c : ContainerApply) : Option ContainerApply :=
  if skipCertValid [insecure, skipCertificateValidation] envs then
    (swapRemoveAll (fun m => m.name = proxyRootCertificate) c.volumeMounts).map fun mounts =>
      { c with volumeMounts := mounts }
  else some { c with env := c.env.map requestVerification }

/-- The volume of the driver in place of the configuration of the arrays. -/
def mountDriverSecret (c : ContainerApply) : ContainerApply :=
  let driverSecret : VolumeMountApply := { name := defaultDriverConfigVolumeMount }
  { c with volumeMounts := replaceFirst (·.name = karaviAuthorizationConfigSecret) driverSecret c.volumeMounts }

/-- Fill in a placeholder. -/
def nameMount (params : SupportedDriverParam) (m : VolumeMountApply) : VolumeMountApply :=
  if m.name = defaultDriverConfigParamsVolumeMount then
    { m with name := params.driverConfigParamsVolumeMount }
  else if m.name = defaultDriverConfigVolumeMount then
    { m with
      name := params.driverConfigVolumeMount
      mountPath := some ("/" ++ params.driverConfigVolumeMount) }
  else m

def resolveProxyImage (cr : ContainerStorageModule) (matched : VersionSpec) (c : ContainerApply) :
    Option ContainerApply :=
  if matched.version ≠ "" ∧ matched.image karaviProxy ≠ "" then
    some { c with image := some (matched.image karaviProxy) }
  else if cr.spec.customRegistry ≠ "" then c.storeResolved cr
  else some c

theorem volumeMounts_resolveProxyImage {cr : ContainerStorageModule} {matched : VersionSpec}
    {c c' : ContainerApply} (h : resolveProxyImage cr matched c = some c') :
    c'.volumeMounts = c.volumeMounts := by
  unfold resolveProxyImage at h
  split_ifs at h
  · cases h; rfl
  · obtain ⟨_, -, rfl⟩ := ContainerApply.storeResolved_eq h; rfl
  · cases h; rfl

/-- What `getAuthApplyCR` returns. -/
structure AuthApply where
  authModule : Module
  container : ContainerApply
  matched : VersionSpec

def getAuthApplyCR (files : ModuleFiles) (op : OperatorConfig) (cr : ContainerStorageModule) :
    LookupOp (Except GoError AuthApply) := do
  let authModule := cr.getModule .authorization
  match moduleVersion files op cr .authorization authModule with
  | .error e => pure (.error e)
  | .ok version =>
    match files.container (moduleFile op .authorization version "container.yaml") cr with
    | .error e => pure (.error e.toGoError)
    | .ok container =>
      let authModule := { authModule with components := authModule.components.map requestSkip }
      let proxy ← orPanic authModule.components.head?
      let env ← orPanic (replaceAllApplyCustomEnvs container.env proxy.envs proxy.envs)
      let container := { container with env }
      let container ← orPanic (mountCertificate proxy.envs container)
      match minVersionCheck "v2.4.0" version with
      | (_, some e) => pure (.error e)
      | (driverSecretVersion, none) =>
        let err ← queryConfigSecret driverSecretVersion cr.namesp
        let container := if err.isSome then mountDriverSecret container else container
        let params := (authorizationSupportedDrivers cr.spec.driver.csiDriverType).getD {}
        let container :=
          { container with volumeMounts := container.volumeMounts.map (nameMount params) }
        let matched ← resolveVersion cr.spec.version
        let container ← orPanic (resolveProxyImage cr matched container)
        pure (.ok { authModule, container, matched })

def getAuthApplyVolumes (files : ModuleFiles) (op : OperatorConfig) (cr : ContainerStorageModule)
    (auth : ContainerTemplate) : LookupOp (Except GoError (List VolumeApply)) := do
  match moduleVersion files op cr .authorization (cr.getModule .authorization) with
  | .error e => pure (.error e)
  | .ok version =>
    match files.volumes (moduleFile op .authorization version "volumes.yaml") with
    | .error e => pure (.error e.toGoError)
    | .ok vols =>
      let vols := if skipCertValid [skipCertificateValidation] auth.envs then
          swapRemove (fun v => v.name = proxyRootCertificate) vols
        else vols
      match minVersionCheck "v2.4.0" version with
      | (_, some e) => pure (.error e)
      | (driverSecretVersion, none) =>
        let err ← queryConfigSecret driverSecretVersion cr.namesp
        pure (.ok (if err.isSome then
            swapRemove (fun v => v.name = karaviAuthorizationConfigSecret) vols
          else vols))

/-- The body of `AuthInjectDeployment` and `AuthInjectDaemonset`. -/
def authInject (files : ModuleFiles) (op : OperatorConfig) (w : WorkloadApply)
    (cr : ContainerStorageModule) : LookupOp (Except GoError WorkloadApply) := do
  match ← getAuthApplyCR files op cr with
  | .error e => pure (.error e)
  | .ok auth =>
    let container ←
      orPanic (updateSideCarApply auth.authModule.components auth.container cr auth.matched)
    let proxy ← orPanic auth.authModule.components.head?
    match ← getAuthApplyVolumes files op cr proxy with
    | .error e => pure (.error e)
    | .ok vols =>
      pure (.ok { w with
        annotations := some fun k =>
          if k = "com.dell.karavi-authorization-proxy" then some "true" else w.annotations.bind (· k)
        containers := w.containers ++ [container]
        volumes := w.volumes ++ vols })

def authInjectDeployment : ModuleFiles → OperatorConfig → WorkloadApply → ContainerStorageModule →
    LookupOp (Except GoError WorkloadApply) := authInject

def authInjectDaemonset : ModuleFiles → OperatorConfig → WorkloadApply → ContainerStorageModule →
    LookupOp (Except GoError WorkloadApply) := authInject

end CsmOperator
