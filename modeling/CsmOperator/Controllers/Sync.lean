import CsmOperator.Controllers.PreChecks
import CsmOperator.OperatorUtils.Status

/-!
# Installing what a CR asks for: `SyncCSM`

The order in which `SyncCSM` calls the functions that render and apply objects, where it stops, and
what it does to the CR itself: in the middle, before any driver object is applied,
`oldStandAloneModuleCleanup` writes the configuration about to be installed into an annotation of the
CR and stores the CR.

`SyncCSM` gets its CR by value, but the annotation map is a reference: what it puts there is seen by
the caller. So the CR is returned, for its annotations.
-/

namespace CsmOperator

open Go Interaction

/-- Call one after the other and stop at the first error. -/
def firstError : List (Op (Option GoError)) → Op (Option GoError)
  | [] => pure none
  | p :: ps => orElse p (firstError ps)

/-- Make the calls only if `cond` holds. -/
def guarded (cond : Bool) (ps : List (Op (Option GoError))) : Op (Option GoError) :=
  if cond then firstError ps else pure none

/-- A call whose error is only logged. -/
def logError (p : Op (Option GoError)) : Op (Option GoError) := do
  let _ ← p
  pure none

/-- `m[k] = v` on a map that must not be nil. -/
def goStore (m : Option StrMap) (k v : String) : Op (Option StrMap) := do
  let f ← deref m
  pure (some (Function.update f k (some v)))

/-! ## Before the driver -/

/-- What happens up to `getDriverConfig`; the answer says whether there is a driver to go on with. -/
def syncModules (cr : ContainerStorageModule) : Op (Except GoError Bool) := do
  match ← guarded (cr.spec.version ≠ "") [act .resolveVersionFromConfigMap cr] with
  | some e => pure (.error e)
  | none =>
    if (isModuleEnabled cr .authorizationServer).isSome then
      match ← firstError
          [wrapAction "failed to deploy authorization proxy server: " .reconcileAuthorizationCRDS cr,
            wrapAction "failed to deploy authorization proxy server: "
              (.reconcileAuthorization false) cr] with
      | some e => pure (.error e)
      | none => pure (.ok false)
    else
      let standalone ←
        if (isModuleEnabled cr .reverseProxy).isSome then
          do pure (!(← isReverseProxySidecar))
        else pure false
      match ← firstError
          [guarded standalone [wrapAction "failed to deploy reverseproxy proxy server: "
              (.reconcileReverseProxyServer false) cr],
            guarded (isModuleEnabled cr .replication).isSome
              [wrapAction "failed to deploy replication CRDs: " .reconcileReplicationCRDS cr],
            guarded (cr.spec.driver.csiDriverType ≠ .unset) [act .getDriverConfig cr]] with
      | some e => pure (.error e)
      | none => pure (.ok (cr.spec.driver.csiDriverType ≠ .unset))

/-! ## Cleanup of modules that were turned off, and the record of the configuration -/

/-- The enabled flag of the first replication entry. -/
def replicaEnabled (cr : ContainerStorageModule) : Bool :=
  ((cr.spec.modules.find? (·.name = .replication)).map (·.enabled)).getD false

/-- `IsModuleComponentEnabled`: flags are followed up to the first component that is on. -/
def isModuleComponentEnabled (cr : ContainerStorageModule) (mod : ModuleType)
    (componentType : String) : Op Bool :=
  let rec go : List ContainerTemplate → Op Bool
    | [] => pure false
    | c :: cs => do
      if c.name = componentType then
        if ← deref c.enabled then pure true else go cs
      else go cs
  match isModuleEnabled cr mod with
  | some m => go m.components
  | none => pure false

/-- The Observability components that were on in the old CR and are not on in the new one. -/
def droppedComponents (oldCR newCR : ContainerStorageModule) :
    List ContainerTemplate → Op (List String)
  | [] => pure []
  | comp :: comps => do
    let oldEnabled ← isModuleComponentEnabled oldCR .observability comp.name
    let newEnabled ← isModuleComponentEnabled newCR .observability comp.name
    let rest ← droppedComponents oldCR newCR comps
    pure (if oldEnabled && !newEnabled then comp.name :: rest else rest)

/-- What was installed for the old CR and is not wanted any more is removed. -/
def cleanupOldModules (oldCR newCR : ContainerStorageModule) : Op (Option GoError) := do
  let err ← guarded (replicaEnabled oldCR && !replicaEnabled newCR)
    [act (.replicationManagerController true) oldCR,
      logError (act .deleteReplicationCrds oldCR)]
  match err with
  | some e => pure (some e)
  | none =>
    match isModuleEnabled oldCR .observability with
    | none => pure none
    | some oldObs =>
      if (isModuleEnabled newCR .observability).isSome then
        let components ← droppedComponents oldCR newCR oldObs.components
        guarded (components ≠ []) [act (.reconcileObservability true components) oldCR]
      else act (.reconcileObservability true []) oldCR

/-- The CR as it is recorded: without the record itself, the one of kubectl, and the status. -/
def recordedCR (cr : ContainerStorageModule) : ContainerStorageModule :=
  { cr with
    annotations := goDelete (goDelete cr.annotations previouslyApplied) kubectlLastApplied
    status := {} }

/-- The last part of `oldStandAloneModuleCleanup`: the configuration goes into the annotation and the
CR is stored. -/
def recordApplied (rt : Runtime) (newCR : ContainerStorageModule) :
    Op (ContainerStorageModule × Option GoError) := do
  match rt.jsonMarshal (recordedCR newCR) with
  | .error e => pure (newCR, some (errorf ("error marshalling CR to annotation: " ++ e.text)))
  | .ok out =>
    let annotations ← goStore newCR.annotations previouslyApplied out
    let newCR := { newCR with annotations }
    match ← updateCSM newCR with
    | .error e => pure (newCR, some e)
    | .ok newCR => pure (newCR, none)

/-- `oldStandAloneModuleCleanup`. -/
def oldStandAloneModuleCleanup (rt : Runtime) (newCR : ContainerStorageModule) :
    Op (ContainerStorageModule × Option GoError) := do
  let oldCrJSON := goLookup newCR.annotations previouslyApplied
  if oldCrJSON ≠ "" then
    match rt.jsonUnmarshal oldCrJSON with
    | .error e => pure (newCR, some (errorf ("error unmarshalling old annotation: " ++ e.text)))
    | .ok oldCR =>
      match ← cleanupOldModules oldCR newCR with
      | some e => pure (newCR, some e)
      | none => recordApplied rt newCR
  else recordApplied rt newCR

/-! ## The driver -/

/-- The reverse proxy of PowerMax, when it runs as a sidecar. -/
def syncPowerMaxProxy (cr : ContainerStorageModule) : Op (Option GoError) := do
  if cr.getDriverType = .powerMax then
    let sidecar ← isReverseProxySidecar
    guarded sidecar
      [wrapAction "unable to reconcile reverse-proxy service: " (.reverseProxyStartService false) cr,
        wrapAction "unable to inject ReverseProxy into deployment: " .reverseProxyInjectDeployment cr]
  else pure none

/-- What an enabled module adds to the driver objects. -/
def injectModule (cr : ContainerStorageModule) (m : Module) : Op (Option GoError) :=
  match m.name with
  | .authorization => firstError
      [wrapAction "injecting auth into deployment: " .authInjectDeployment cr,
        wrapAction "injecting auth into deamonset: " .authInjectDaemonset cr]
  | .resiliency => firstError
      [wrapAction "injecting resiliency into deployment: " .resiliencyInjectDeployment cr,
        wrapAction "injecting resiliency into controller cluster role: "
          (.resiliencyInjectClusterRole "controller") cr,
        wrapAction "injecting resiliency into controller role: "
          (.resiliencyInjectRole "controller") cr,
        wrapAction "injecting resiliency into daemonset: " .resiliencyInjectDaemonset cr,
        wrapAction "injecting resiliency into node cluster role: "
          (.resiliencyInjectClusterRole "node") cr,
        wrapAction "injecting resiliency into controller role: " (.resiliencyInjectRole "node") cr]
  | .replication => firstError
      [wrapAction "injecting replication into deployment: " .replicationInjectDeployment cr,
        wrapAction "injecting replication into controller cluster role: "
          .replicationInjectClusterRole cr]
  | _ => pure none

/-- The objects of the COSI driver, in the order they are applied. -/
def cosiObjects : List Action :=
  [.syncServiceAccount "controller", .syncClusterRole "controller",
    .syncClusterRoleBindings "controller", .syncConfigMap, .syncDeployment]

/-- The objects of every other driver up to the controller Deployment. -/
def driverObjects : List Action :=
  [.syncServiceAccount "node", .syncServiceAccount "controller",
    .syncClusterRole "node", .syncClusterRole "controller",
    .syncClusterRoleBindings "node", .syncClusterRoleBindings "controller",
    .syncRole "node", .syncRole "controller",
    .syncRoleBindings "node", .syncRoleBindings "controller",
    .syncCSIDriver, .syncConfigMap, .syncDeployment]

/-- `GetDriverCommonEnv`. -/
def getDriverCommonEnv (cr : ContainerStorageModule) (envName defaultValue : String) : String :=
  ((cr.spec.driver.commonEnvs.find? fun env => env.name = envName && env.value ≠ "").map (·.value)).getD
    defaultValue

/-- What `SyncCSM` does once the configuration has been recorded. -/
def syncDriver (cr : ContainerStorageModule) : Op (Option GoError) :=
  firstError
    [syncPowerMaxProxy cr,
      wrapAction "failed to detect harvester cluster: " .isHarvester cr,
      firstError ((cr.spec.modules.filter (·.enabled)).map (injectModule cr)),
      if cr.getDriverType = .cosi then firstError (cosiObjects.map (act · cr))
      else firstError
        [firstError (driverObjects.map (act · cr)),
          guarded (cr.getDriverType = .powerStore &&
            getDriverCommonEnv cr "X_CSM_DR_ENABLED" "true" = "true") [act .applyCSMDRCRD cr],
          -- no check for the proxy server: `syncModules` has returned for it
          act .syncDaemonset cr,
          guarded (isModuleEnabled cr .replication).isSome
            [wrapAction "failed to deploy replication controller: "
                (.replicationManagerController false) cr,
              wrapAction "injecting replication into replication configmap: "
                .createReplicationConfigmap cr],
          guarded (isModuleEnabled cr .observability).isSome
            [act (.reconcileObservability false []) cr],
          guarded (cr.getDriverType = .powerFlex) [act (.syncMetricsResources false) cr]]]

/-- The body of `SyncCSM`. -/
def syncCSMBody (rt : Runtime) (cr : ContainerStorageModule) :
    Op (ContainerStorageModule × Option GoError) := do
  match ← syncModules cr with
  | .error e => pure (cr, some e)
  | .ok false => pure (cr, none)
  | .ok true =>
    match ← oldStandAloneModuleCleanup rt cr with
    | (cr, some e) => pure (cr, some e)
    | (cr, none) => pure (cr, ← syncDriver cr)

/-- `SyncCSM`. -/
def syncCSM (rt : Runtime) (cr : ContainerStorageModule) :
    Op (ContainerStorageModule × Option GoError) := do
  let (cr', err) ← syncCSMBody rt cr
  note (.synced cr err)
  pure (cr', err)

end CsmOperator
