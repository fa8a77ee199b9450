import CsmOperator.Controllers.Sync
import CsmOperator.Controllers.Watch

/-!
# `Reconcile`

The main loop's body, from reading the CR to its three kinds of exit: nothing to do, an error, or a
completed install or deletion. The CR in memory is passed along explicitly; the stored one changes
only through the update requests.
-/

namespace CsmOperator

open Go Interaction

def csmFinalizerName : String := "finalizer.dell.emc.com"

def csmVersionKey : String := "storage.dell.com/CSMVersion"

def csmVersion : String := "v1.17.1"

/-! ## Preparing the CR in memory -/

/-- `forceRemoveDriver` is true unless the user says otherwise. -/
def defaultForceRemoveDriver (csm : ContainerStorageModule) : ContainerStorageModule :=
  { csm with spec := { csm.spec with driver := { csm.spec.driver with
      forceRemoveDriver := some (csm.spec.driver.forceRemoveDriver.getD true) } } }

/-- Write a config version into the first authorization entry. -/
def setAuthVersion (v : String) : List Module → List Module
  | [] => []
  | m :: ms =>
    if m.name = .authorizationServer then { m with configVersion := v } :: ms
    else m :: setAuthVersion v ms

/-- The first authorization entry gets the version the CR asks for. -/
def resolveAuthVersion (op : OperatorConfig) (csm : ContainerStorageModule) :
    Except GoError ContainerStorageModule :=
  if csm.hasModule .authorizationServer then
    match getVersion op csm with
    | .error e => .error e
    | .ok v => .ok { csm with spec := { csm.spec with modules := setAuthVersion v csm.spec.modules } }
  else .ok csm

/-- What `Reconcile` does to the CR in memory before the prechecks. -/
def prepare (op : OperatorConfig) (csm : ContainerStorageModule) :
    Except GoError ContainerStorageModule :=
  match loadDefaultComponents op (defaultForceRemoveDriver csm) with
  | .error e => .error e
  | .ok csm => resolveAuthVersion op csm

theorem sameFlags_setAuthVersion (v : String) (ms : List Module) : SameFlags (setAuthVersion v ms) ms := by
  induction ms with
  | nil => rfl
  | cons m ms ih =>
      unfold setAuthVersion
      split
      · rfl
      · exact congrArg (m.flags :: ·) ih

/-- The default of `forceRemoveDriver` is filled in, and the contents of modules change. -/
theorem prepare_spec {op : OperatorConfig} {csm csm' : ContainerStorageModule}
    (h : prepare op csm = .ok csm') :
    ∃ modules, csm' = { csm with spec := { csm.spec with
        driver := (defaultForceRemoveDriver csm).spec.driver, modules } } ∧
      SameFlags modules csm.spec.modules := by
  unfold prepare at h
  split at h
  · cases h
  · next csm₁ hload =>
      obtain ⟨modules, rfl, hflags⟩ := loadDefaultComponents_eq hload
      unfold resolveAuthVersion at h
      split at h
      · split at h
        · cases h
        · next v _ =>
            cases h
            exact ⟨_, rfl, (sameFlags_setAuthVersion v modules).trans hflags⟩
      · cases h
        exact ⟨modules, rfl, hflags⟩

/-- The driver that comes out of preparation and prechecks. -/
theorem driver_of_prepare {op : OperatorConfig} {csm cr : ContainerStorageModule}
    (h : prepare op csm = .ok cr) :
    (afterDriverPrecheck cr).spec.driver = (defaultForceRemoveDriver csm).spec.driver := by
  obtain ⟨modules, rfl, -⟩ := prepare_spec h
  rw [afterDriverPrecheck_driver]

/-- Only the spec changes. -/
theorem prepare_eq {op : OperatorConfig} {csm csm' : ContainerStorageModule}
    (h : prepare op csm = .ok csm') : ∃ spec, csm' = { csm with spec } := by
  obtain ⟨modules, rfl, -⟩ := prepare_spec h
  exact ⟨_, rfl⟩

/-- `applyConfigVersionAnnotations`: the CR in memory, and whether it has to be stored. When the CR
has no annotation map, the one made here is dropped unless the config version changes. -/
def applyConfigVersionAnnotations (op : OperatorConfig) (csm : ContainerStorageModule) :
    ContainerStorageModule × Bool :=
  let annotations := Function.update (csm.annotations.getD fun _ => none) csmVersionKey
    (some csmVersion)
  let shared := { csm with annotations := csm.annotations.map fun _ => annotations }
  match getVersion op csm with
  | .error _ => (shared, false)
  | .ok configVersion =>
    if (annotations configVersionKey).getD "" ≠ configVersion then
      ({ csm with annotations := some (Function.update annotations configVersionKey
          (some configVersion)) }, true)
    else (shared, false)

/-- Only the annotations change. -/
theorem applyConfigVersionAnnotations_fst (op : OperatorConfig) (csm : ContainerStorageModule) :
    ∃ annotations, (applyConfigVersionAnnotations op csm).1 = { csm with annotations } := by
  unfold applyConfigVersionAnnotations
  dsimp only
  split
  · exact ⟨_, rfl⟩
  · split <;> exact ⟨_, rfl⟩

/-! ## Deletion -/

/-- `removeDriver`. -/
def removeDriver (cr : ContainerStorageModule) : Op (Option GoError) :=
  guarded (cr.spec.driver.csiDriverType ≠ .unset)
    [act .getDriverConfig cr,
      act .removeDriverFromCluster cr,
      guarded (isModuleEnabled cr .replication).isSome
        [act (.replicationManagerController true) cr,
          act .deleteReplicationConfigmap cr,
          logError (act .deleteReplicationCrds cr)],
      guarded (isModuleEnabled cr .observability).isSome
        [act (.reconcileObservability true []) cr],
      do
        if cr.getDriverType = .powerMax then
          guarded (← isReverseProxySidecar)
            [wrapAction "unable to reconcile reverse-proxy service: "
              (.reverseProxyStartService true) cr]
        else pure none,
      guarded (cr.getDriverType = .powerStore)
        [wrapAction "unable to remove the common CSM Disaster Recovery CRDs: " .patchCSMDRCRDs cr],
      guarded (cr.getDriverType = .powerFlex) [act (.syncMetricsResources true) cr]]

/-- `removeDeploymentOwnerRef`: the controller Deployment stops being owned by the CR. -/
def removeDeploymentOwnerRef (csm : ContainerStorageModule) : Op (Option GoError) := do
  match ← getDeployment ⟨csm.namesp, csm.getControllerName⟩ with
  | .error e => pure (some e)
  | .ok deploy =>
    let refs := deploy.ownerReferences.getD []
    let filtered := refs.filter (·.uid ≠ csm.uid)
    if filtered.length = refs.length then pure none
    else
      let ownerReferences := if filtered = [] then none else some filtered
      updateDeployment { deploy with ownerReferences }

/-- `removeModule`: the standalone modules. -/
def removeModule (cr : ContainerStorageModule) : Op (Option GoError) :=
  firstError
    [guarded (isModuleEnabled cr .authorizationServer).isSome
        [act (.reconcileAuthorization true) cr],
      do
        if (isModuleEnabled cr .reverseProxy).isSome then
          guarded (!(← isReverseProxySidecar)) [act (.reconcileReverseProxyServer true) cr]
        else pure none]

/-- `removeFinalizer`: when the CSM finalizer is there, the CR is stored without finalizers. -/
def removeFinalizer (csm : ContainerStorageModule) : Op (Option GoError) := do
  if csm.hasFinalizer csmFinalizerName then
    match ← updateCSM { csm with finalizers := [] } with
    | .error e => pure (some e)
    | .ok _ => pure none
  else pure none

/-- An error exit: a warning event, and an error with a text in front. -/
def failWith (csm : ContainerStorageModule) (reason message text : String) (e : GoError) :
    Op (Result × Option GoError) := do
  recordEvent csm .warning reason (message ++ e.text)
  pure ({}, some (errorf (text ++ e.text)))

/-- Close the stop channel stored for the CR's name and forget it. -/
def stopWatch (name : String) : Op Unit := do
  lock .contentWatch
  match ← loadChannel name with
  | some stopCh =>
    closeChannel stopCh
    deleteChannel name
  | none => pure ()
  unlock .contentWatch

/-- The cleanup of a deleted CR: its driver, then each module entry that asks for it. -/
def removeContent (csm : ContainerStorageModule) : Op (Option (Result × Option GoError)) := do
  let forceRemove ← deref csm.spec.driver.forceRemoveDriver
  let err ← if forceRemove then removeDriver csm else logError (removeDeploymentOwnerRef csm)
  match err with
  | some e =>
    some <$> failWith csm "Deleted" "Failed to remove driver: " "error when deleting driver: " e
  | none =>
    match ← firstError ((csm.spec.modules.filter (·.forceRemoveModule)).map fun _ =>
        removeModule csm) with
    | some e =>
      some <$> failWith csm "Deleted" "Failed to remove module: " "error when deleting module: " e
    | none => pure none

/-- The end of a deletion: this CR's informers are stopped. -/
def finishDeletion (csm : ContainerStorageModule) : Op (Result × Option GoError) := do
  stopWatch csm.name
  recordEvent csm .normal "Deleted" "Object finalizer is deleted"
  pure ({}, none)

/-- The branch of `Reconcile` for a CR that is being deleted. -/
def reconcileDeletion (csm : ContainerStorageModule) : Op (Result × Option GoError) := do
  match ← removeContent csm with
  | some failed => pure failed
  | none =>
    match ← removeFinalizer csm with
    | some e =>
      failWith csm "Deleted" "Failed to delete finalizer: " "error when handling finalizer: " e
    | none => finishDeletion csm

/-! ## Installation -/

/-- `addFinalizer`: the CR in memory after the update. -/
def addFinalizer (csm : ContainerStorageModule) : Op (Except GoError ContainerStorageModule) :=
  updateCSM ({ csm with finalizers := [csmFinalizerName] }.setState .creating)

/-- The CSM finalizer is put on the CR unless it is there. -/
def ensureFinalizer (csm : ContainerStorageModule) :
    Op (Except (Result × Option GoError) ContainerStorageModule) := do
  if csm.hasFinalizer csmFinalizerName then pure (.ok csm)
  else
    match ← addFinalizer csm with
    | .error e =>
      .error <$> failWith csm "Updated" "Failed to add finalizer: " "error when adding finalizer: " e
    | .ok csm =>
      recordEvent csm .normal "Updated" "Object finalizer is added"
      pure (.ok csm)

/-- The config version is recorded in the annotation, before anything is installed. -/
def recordVersion (op : OperatorConfig) (csm : ContainerStorageModule) :
    Op (Except GoError ContainerStorageModule) :=
  match applyConfigVersionAnnotations op csm with
  | (csm, false) => pure (.ok csm)
  | (csm, true) => updateCSM csm

/-- Keep the stop channel of a new watch under the CR's name, and close the one it replaces. -/
def installWatch (name : String) (stop : Chan) : Op Unit := do
  lock .contentWatch
  match ← loadChannel name with
  | some stopCh => closeChannel stopCh
  | none => pure ()
  storeChannel name stop
  unlock .contentWatch

/-- The message of a completed install. -/
def completedMessage (name : String) : String :=
  "install/update storage component: " ++ name ++ " completed OK"

/-- What follows a sync without error: the status is stored and a content watch is started. -/
def finishInstall (rt : Runtime) (csm : ContainerStorageModule) : Op (Result × Option GoError) := do
  let (csm, err) ← updateStatus rt csm none
  if err.isSome && !determineUnitTestRun rt then pure ({ requeue := true }, err)
  else
    match ← contentWatch rt csm with
    | .error e => pure ({ requeue := true }, some e)
    | .ok stop =>
      installWatch csm.name stop
      recordEvent csm .normal "Completed" (completedMessage csm.name)
      pure ({}, none)

/-- The exit of `Reconcile` for a sync that failed or a CR that is not running. -/
def failInstall (csm : ContainerStorageModule) (syncErr : Option GoError) :
    Op (Result × Option GoError) := do
  let e := syncErr.getD (errorf "CSM state is failed")
  recordEvent csm .warning "Updated" ("Failed install: " ++ e.text)
  pure ({ requeue := true }, some e)

/-- From the computed state to the end, for a CR whose version is recorded. -/
def syncAndFinish (rt : Runtime) (csm : ContainerStorageModule) :
    Op (Result × Option GoError) := do
  let (csm, requeue) ← handleSuccess rt csm
  let (synced, syncErr) ← syncCSM rt csm
  -- the annotation map is shared with the copy `SyncCSM` works on
  let csm := { csm with annotations := synced.annotations }
  if syncErr.isNone && !requeue.requeue then finishInstall rt csm
  else failInstall csm syncErr

/-- The branch of `Reconcile` for a CR that is not being deleted. -/
def reconcileInstall (rt : Runtime) (csm : ContainerStorageModule) :
    Op (Result × Option GoError) := do
  match ← ensureFinalizer csm with
  | .error failed => pure failed
  | .ok csm =>
    match ← recordVersion rt.op csm with
    | .error e => pure ({}, some e)
    | .ok csm => syncAndFinish rt csm

/-! ## The whole -/

/-- `Reconcile` from the prechecks on. -/
def reconcilePrepared (rt : Runtime) (csm : ContainerStorageModule) :
    Op (Result × Option GoError) := do
  match ← preChecks rt csm with
  | (csm, some e) =>
    let csm := csm.setState .invalidConfig
    recordEvent csm .warning "Updated" ("Failed Prechecks: " ++ e.text)
    handleValidationError csm e
  | (csm, none) => if csm.isBeingDeleted then reconcileDeletion csm else reconcileInstall rt csm

/-- `Reconcile` with the CR it has read. -/
def reconcileRead (rt : Runtime) (csm : ContainerStorageModule) : Op (Result × Option GoError) :=
  match prepare rt.op csm with
  | .error e => pure ({}, some e)
  | .ok csm => reconcilePrepared rt csm

/-- `Reconcile`. -/
def reconcile (rt : Runtime) (key : NamespacedName) : Op (Result × Option GoError) := do
  match ← getCSM key with
  -- not found or any other error: both return without one
  | .error _ => pure ({}, none)
  | .ok csm => reconcileRead rt csm

end CsmOperator
