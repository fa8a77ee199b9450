import CsmOperator.OperatorUtils.ModuleStatus

/-!
# The status of a CR: `pkg/operatorutils/status.go`

`calculateState` decides whether what a CR asks for is running and writes its verdict into the
in-memory CR; `UpdateStatus` stores that status, `HandleSuccess` only computes it and
`HandleValidationError` stores a failure. In the source the status argument `newStatus` is a pointer
into the CR itself at every call, so here the CR is passed in and returned.
-/

namespace CsmOperator

open Go

/-! ## Controller Deployment -/

/-- The status `getDeploymentStatus` returns without a Deployment. -/
def emptyStatus : PodStatus := { available := "0", desired := "0", failed := "0" }

/-- The replica counts of a Deployment's status, as texts. -/
def replicaStatus (d : Deployment) : PodStatus :=
  { available := itoa d.availableReplicas
    desired := itoa d.statusReplicas
    failed := itoa d.unavailableReplicas }

/-- The status made of the outcome of the controller lookup. -/
def lookupStatus : Except GoError Deployment → PodStatus
  | .ok d => replicaStatus d
  | .error _ => emptyStatus

def getDeploymentStatus (instance_ : ContainerStorageModule) : Op (PodStatus × Option GoError) := do
  if instance_.name = "" || isAuthorizationProxyServer instance_ then pure (emptyStatus, none)
  else
    match ← getDeployment ⟨instance_.namesp, instance_.getControllerName⟩ with
    | .error e => pure (emptyStatus, some e)
    | .ok deployment => pure (replicaStatus deployment, none)

/-! ## Node DaemonSet -/

def containerCreating : String := "ContainerCreating"

def pendingCreate : String := "Pending create"

def podStatusRemoveString : String :=
  "rpc error: code = Unknown desc = Error response from daemon:"

/-- What the loop over the pods has counted so far. -/
structure PodTally where
  totalRunning : Nat := 0
  failedCount : Nat := 0
  /-- reason and message of waiting containers, by reason -/
  errMap : List (String × String) := []
  deriving DecidableEq, Repr

/-- `errMap[reason] = message`, keeping the place of a reason that is already there. -/
def setReason (errMap : List (String × String)) (reason message : String) :
    List (String × String) :=
  if errMap.any (·.1 = reason) then
    errMap.map fun kv => if kv.1 = reason then (reason, message) else kv
  else errMap ++ [(reason, message)]

/-- What one waiting container of a pending pod adds to the message. -/
def noteWaiting (errMap : List (String × String)) : Option Waiting → List (String × String)
  | none => errMap
  | some w =>
    setReason errMap w.reason
      (if w.reason = containerCreating then pendingCreate
       else replace w.message podStatusRemoveString "" 1)

/-- The status of the last condition of type `Ready`. -/
def podReadyCondition (p : Pod) : ConditionStatus :=
  p.conditions.foldl (fun acc c => if c.type = "Ready" then c.status else acc) .false

/-- Running with its Ready condition true. -/
def Pod.isRunningAndReady (p : Pod) : Bool :=
  p.phase = .running && podReadyCondition p = .true

def tallyPod (t : PodTally) (p : Pod) : PodTally :=
  let t := if p.phase = .pending then
      { t with
        failedCount := t.failedCount + 1
        errMap := p.containerStatuses.foldl noteWaiting t.errMap }
    else t
  if p.isRunningAndReady then { t with totalRunning := t.totalRunning + 1 } else t

def tallyPods (pods : List Pod) : PodTally := pods.foldl tallyPod {}

/-- The text of the error for pending pods. -/
def pendingMessage (t : PodTally) : String :=
  t.errMap.foldl (fun msg kv => msg ++ kv.1 ++ "=" ++ kv.2)
    "error message for default-source-cluster \n"

/-- The number of pods expected, what is there, and an error if pods are pending. -/
def getDaemonSetStatus (instance_ : ContainerStorageModule) :
    Op (Int × PodStatus × Option GoError) := do
  match ← getDaemonSet ⟨instance_.namesp, instance_.getNodeName⟩ with
  | .error e => pure (0, {}, some e)
  | .ok ds =>
    match ← listPods instance_.namesp (instance_.name ++ "-node") with
    | .error e => pure (ds.desiredNumberScheduled, {}, some e)
    | .ok pods =>
      let t := tallyPods pods
      let status : PodStatus :=
        { available := itoa t.totalRunning
          desired := itoa ds.desiredNumberScheduled
          failed := itoa t.failedCount }
      let err := if t.failedCount > 0 then some (errorf (pendingMessage t)) else none
      pure (ds.desiredNumberScheduled, status, err)

/-! ## The verdict -/

/-- The loop over the modules: every enabled module that has a status check passes it. The error of
a check is only logged. -/
def modulesRunning (op : OperatorConfig) (cr : ContainerStorageModule) : List Module → Op Bool
  | [] => pure true
  | m :: ms => do
    match checkModuleStatus op cr m.name with
    | some check =>
      if m.enabled then
        let (running, _) ← check
        if running then modulesRunning op cr ms else pure false
      else modulesRunning op cr ms
    | none => modulesRunning op cr ms

/-- The key of the annotation `kubectl apply` keeps. -/
def kubectlLastApplied : String := "kubectl.kubernetes.io/last-applied-configuration"

/-- The key under which the configuration applied last is kept. -/
def previouslyApplied : String := "storage.dell.com/PreviouslyAppliedConfiguration"

/-- `delete(m, k)`. -/
def goDelete (m : Option StrMap) (k : String) : Option StrMap :=
  m.map fun f => Function.update f k none

/-- The configuration `calculateState` records for an authorization proxy server. When marshalling
fails the error is logged and the text is empty. -/
def proxyConfiguration (rt : Runtime) (cr : ContainerStorageModule) : String :=
  match rt.jsonMarshal
      { cr with annotations := goDelete cr.annotations kubectlLastApplied, status := {} } with
  | .ok out => out
  | .error _ => ""

/-- Does the CR have a node DaemonSet that counts for its state? -/
def checksNodes (cr : ContainerStorageModule) : Bool :=
  cr.name ≠ "" && !isAuthorizationProxyServer cr && cr.spec.driver.csiDriverType ≠ .cosi

/-- The controller status `calculateState` works with: the override if there is one, else a lookup
whose error is only logged. -/
def controllerStatusOf (instance_ : ContainerStorageModule) :
    Option PodStatus → Op PodStatus
  | some override_ => pure override_
  | none => do
    let (status, _) ← getDeploymentStatus instance_
    pure status

/-- The node part of `calculateState`: is the number of available pods the expected one? -/
def nodeStatusOf (instance_ : ContainerStorageModule) :
    Op (ContainerStorageModule × Bool × Option GoError) := do
  if checksNodes instance_ then
    let (expected, nodeStatus, err) ← getDaemonSetStatus instance_
    pure (instance_.setNodeStatus nodeStatus, itoa expected = nodeStatus.available, err)
  else pure (instance_, true, none)

/-- The module part of `calculateState`, reached only when controller and nodes are as expected. -/
def moduleVerdict (op : OperatorConfig) (cr : ContainerStorageModule) (podsGood : Bool) : Op Bool :=
  if podsGood then modulesRunning op cr cr.spec.modules else pure false

/-- The end of `calculateState`: the state for the verdict, and for a proxy server that is running
the configuration it runs with. -/
def settleState (rt : Runtime) (cr : ContainerStorageModule) (running : Bool) :
    ContainerStorageModule :=
  let cr := if running then cr else cr.setState .failed
  if isAuthorizationProxyServer cr && cr.status.state = .succeeded then
    cr.setLastSuccessfulConfiguration (proxyConfiguration rt cr)
  else cr

/-- The state is kept for a positive verdict. -/
theorem settleState_state (rt : Runtime) (cr : ContainerStorageModule) (running : Bool) :
    (settleState rt cr running).status.state = if running then cr.status.state else .failed := by
  have hfinish : ∀ cr : ContainerStorageModule,
      (if isAuthorizationProxyServer cr && cr.status.state = .succeeded then
        cr.setLastSuccessfulConfiguration (proxyConfiguration rt cr) else cr).status.state =
      cr.status.state := by
    intro cr
    split <;> rfl
  cases running <;> exact hfinish _

theorem settleState_controllerStatus (rt : Runtime) (cr : ContainerStorageModule) (running : Bool) :
    (settleState rt cr running).status.controllerStatus = cr.status.controllerStatus := by
  unfold settleState
  dsimp only
  split_ifs <;> rfl

/-- Only a proxy server gets its configuration recorded here. -/
theorem settleState_configuration {rt : Runtime} {cr : ContainerStorageModule}
    (h : isAuthorizationProxyServer cr = false) (running : Bool) :
    (settleState rt cr running).status.lastSuccessfulConfiguration =
      cr.status.lastSuccessfulConfiguration := by
  cases running <;> simp [settleState, h, ContainerStorageModule.setState]

/-- `calculateState`: the CR with its new status, whether it is running, and the error of the
DaemonSet lookup. -/
def calculateState (rt : Runtime) (instance_ : ContainerStorageModule)
    (deploymentStatusOverride : Option PodStatus) :
    Op (ContainerStorageModule × Bool × Option GoError) := do
  let cr := instance_.setState .succeeded
  let controllerStatus ← controllerStatusOf cr deploymentStatusOverride
  let (cr, nodeStatusGood, err) ← nodeStatusOf cr
  let cr := cr.setControllerStatus controllerStatus
  let running ← moduleVerdict rt.op cr
    (controllerStatus.desired = controllerStatus.available && nodeStatusGood)
  note (.calculated cr.key running err)
  pure (settleState rt cr running, running, err)

/-! ## Storing it -/

/-- `retry.RetryOnConflict` with a number of attempts: after a conflict the function is called again
while attempts are left, any other error is returned. -/
def retryOnConflict (fn : Op (Option GoError)) : Nat → Op (Option GoError)
  | 0 => pure none
  | attempts + 1 => do
    match ← fn with
    | none => pure none
    | some e =>
      if e.kind = .conflict ∧ attempts ≠ 0 then retryOnConflict fn attempts else pure (some e)

/-- One attempt of the status write: the CR is read afresh and its whole status replaced. -/
def writeStatus (instance_ : ContainerStorageModule) : Op (Option GoError) := do
  match ← getCSM instance_.key with
  | .error e => pure (some e)
  | .ok csm =>
    match ← updateCSMStatus (csm.withStatus instance_.status) with
    | .error e => pure (some e)
    | .ok _ => pure none

/-- The steps of `retry.DefaultRetry`. -/
def defaultRetrySteps : Nat := 5

/-- The last successful configuration is taken from the annotation when the controller has the
replicas the CR asks for and everything is running. -/
def recordConfiguration (cr : ContainerStorageModule) (running : Bool) : ContainerStorageModule :=
  if cr.status.controllerStatus.desired = itoa cr.spec.driver.replicas && running then
    let lastApplied := goLookup cr.annotations previouslyApplied
    if lastApplied ≠ "" then cr.setLastSuccessfulConfiguration lastApplied else cr
  else cr

/-- Only the configuration changes. -/
theorem recordConfiguration_eq (cr : ContainerStorageModule) (running : Bool) :
    ∃ c, recordConfiguration cr running = cr.setLastSuccessfulConfiguration c := by
  unfold recordConfiguration
  dsimp only
  split_ifs
  · exact ⟨_, rfl⟩
  · exact ⟨cr.status.lastSuccessfulConfiguration, rfl⟩
  · exact ⟨cr.status.lastSuccessfulConfiguration, rfl⟩

/-- The error `UpdateStatus` returns: that of the write, or that it is not running, or that of the
DaemonSet lookup. -/
def statusError (writeErr : Option GoError) (running : Bool) (merr : Option GoError) :
    Option GoError :=
  match writeErr with
  | some e => some e
  | none => if running then merr else some (errorf "calculateState returned CSM not running")

/-- `UpdateStatus`: the CR as it is left in memory, and the error returned. -/
def updateStatus (rt : Runtime) (instance_ : ContainerStorageModule)
    (deploymentStatusOverride : Option PodStatus) :
    Op (ContainerStorageModule × Option GoError) := do
  lock .status
  let (cr, running, merr) ← calculateState rt instance_ deploymentStatusOverride
  let cr := recordConfiguration cr running
  let err ← retryOnConflict (writeStatus cr) defaultRetrySteps
  unlock .status
  note (.statusUpdated cr.key (statusError err running merr))
  pure (cr, statusError err running merr)

/-- `HandleValidationError`: the failure is stored; an error of the write is only logged. -/
def handleValidationError (instance_ : ContainerStorageModule) (validationError : GoError) :
    Op (Result × Option GoError) := do
  lock .status
  let _ ← updateCSMStatus (instance_.setState .failed)
  unlock .status
  pure ({ requeue := false }, some validationError)

/-- `HandleSuccess`: the state is computed in memory; what is returned says whether to requeue. -/
def handleSuccess (rt : Runtime) (instance_ : ContainerStorageModule) :
    Op (ContainerStorageModule × Result) := do
  lock .status
  let (cr, running, err) ← calculateState rt instance_ none
  let cr := if err.isSome then cr.setState .failed else cr
  let cr := if running then cr.setState .succeeded else cr
  unlock .status
  pure (cr, { requeue := !running && !determineUnitTestRun rt })

end CsmOperator
