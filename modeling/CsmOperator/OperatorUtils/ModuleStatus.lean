import CsmOperator.OperatorUtils.Version

/-!
# The status checks of the modules: `observabilityStatusCheck`, `authProxyStatusCheck`

Both checks have one shape. They work out from the CR which components are on, list the Deployments
of a namespace, and go through the list: a Deployment whose name is in a table of names has to be
ready, provided the flag next to the name is set; every other Deployment is skipped. The table is
the `switch` of the source, `scanDeployments` its loop.
-/

namespace CsmOperator

open Go

/-! ## The loop -/

/-- One case of the `switch` over Deployment names: the name and the flag it is guarded with. -/
structure WatchedName where
  name : String
  enabled : Bool
  deriving DecidableEq, Repr

/-- `checkFn`: the ready replicas are the desired ones. -/
def Deployment.isReady (d : Deployment) : Bool := d.replicas = some d.readyReplicas

/-- The flag of the case `d` falls in; a name without a case is not looked at. -/
def watches (table : List WatchedName) (d : Deployment) : Bool :=
  ((table.find? (·.name = d.name)).map (·.enabled)).getD false

/-- The loop over the listed Deployments, up to the first one that is watched and not ready. -/
def scanDeployments (table : List WatchedName) : List Deployment → Op Bool
  | [] => pure true
  | d :: ds => do
    if watches table d then
      let replicas ← deref d.replicas
      if d.readyReplicas = replicas then scanDeployments table ds else pure false
    else scanDeployments table ds

/-- Some component with a fitting name is enabled. The enabled flag is a pointer and is followed only
when the name fits. The source sets all its flags in one pass; here there is one pass a flag. -/
def anyComponent (name : String → Bool) : List ContainerTemplate → Op Bool
  | [] => pure false
  | c :: cs => do
    let here ← if name c.name then deref c.enabled else pure false
    let later ← anyComponent name cs
    pure (here || later)

/-- The components of all entries of a module, enabled or not. -/
def moduleComponents (cr : ContainerStorageModule) (mod : ModuleType) : List ContainerTemplate :=
  (cr.spec.modules.filter (·.name = mod)).flatMap (·.components)

/-! ## Observability -/

/-- The namespace `ObservabilityNamespace`. -/
def observabilityNamespace : String := "karavi"

/-- Where the Observability Deployments are looked for. -/
def observabilityListNamespace (cr : ContainerStorageModule) (configVersion : String) : String :=
  if contains configVersion "v2.13" || contains configVersion "v2.14" then observabilityNamespace
  else cr.namesp

/-- The cases of the first loop. -/
def observabilityTable (driverName : String) (otelEnabled metricsEnabled topologyEnabled : Bool) :
    List WatchedName :=
  [⟨"otel-collector", otelEnabled⟩, ⟨"karavi-metrics-" ++ driverName, metricsEnabled⟩,
    ⟨"karavi-topology", topologyEnabled⟩]

/-- The cases of the second loop, and the certificate cases of the authorization check. -/
def certManagerTable (certEnabled : Bool) : List WatchedName :=
  [⟨"cert-manager", certEnabled⟩, ⟨"cert-manager-cainjector", certEnabled⟩,
    ⟨"cert-manager-webhook", certEnabled⟩]

/-- `observabilityStatusCheck`. -/
def observabilityStatusCheck (op : OperatorConfig) (cr : ContainerStorageModule) :
    Op (Bool × Option GoError) := do
  let driverName := (driverFolder cr.spec.driver.csiDriverType).text
  let components := moduleComponents cr .observability
  let topologyEnabled ← anyComponent (· = "topology") components
  let otelEnabled ← anyComponent (· = "otel-collector") components
  let certEnabled ← anyComponent (· = "cert-manager") components
  let metricsEnabled ← anyComponent (· = "metrics-" ++ driverName) components
  match getVersion op cr with
  | .error e => pure (false, some e)
  | .ok configVersion =>
    let namesp := observabilityListNamespace cr configVersion
    match ← listDeployments namesp with
    | .error e => pure (false, some e)
    | .ok deployments =>
      let table := observabilityTable driverName otelEnabled metricsEnabled topologyEnabled
      if ← scanDeployments table deployments then
        match ← listDeployments namesp with
        | .error e => pure (false, some e)
        | .ok deployments => pure (← scanDeployments (certManagerTable certEnabled) deployments, none)
      else pure (false, none)

/-! ## Authorization proxy server -/

/-- The cases of the loop. The services are checked whatever the CR enables. -/
def authProxyTable (namesp : String) (nginxEnabled gatewayEnabled certEnabled : Bool) :
    List WatchedName :=
  [⟨namesp ++ "-ingress-nginx-controller", nginxEnabled⟩,
    ⟨namesp ++ "-nginx-gateway-controller", gatewayEnabled⟩] ++
  certManagerTable certEnabled ++
  [⟨"proxy-server", true⟩, ⟨"redis-commander", true⟩, ⟨"redis-primary", true⟩,
    ⟨"role-service", true⟩, ⟨"storage-service", true⟩, ⟨"tenant-service", true⟩,
    ⟨"authorization-controller", true⟩]

/-- Is the Gateway API used: does the first authorization entry reach v2.5.0? -/
def useGatewayAPI (cr : ContainerStorageModule) : Bool :=
  match cr.spec.modules.find? (·.name = .authorizationServer) with
  | some m => (minVersionCheck "v2.5.0" m.configVersion).1
  | none => false

/-- `authProxyStatusCheck`. -/
def authProxyStatusCheck (cr : ContainerStorageModule) : Op (Bool × Option GoError) := do
  let components := moduleComponents cr .authorizationServer
  let nginxEnabled ← anyComponent (· = "ingress-nginx") components
  let gatewayComponent ← anyComponent (fun n => n = "nginx-gateway-fabric" || n = "nginx") components
  let certEnabled ← anyComponent (· = "cert-manager") components
  match ← listDeployments cr.namesp with
  | .error e => pure (false, some e)
  | .ok deployments =>
    let table := authProxyTable cr.namesp nginxEnabled (gatewayComponent && useGatewayAPI cr)
      certEnabled
    pure (← scanDeployments table deployments, none)

/-- The entries of `checkModuleStatus`. -/
def checkModuleStatus (op : OperatorConfig) (cr : ContainerStorageModule) :
    ModuleType → Option (Op (Bool × Option GoError))
  | .observability => some (observabilityStatusCheck op cr)
  | .authorizationServer => some (authProxyStatusCheck cr)
  | _ => none

end CsmOperator
