import CsmOperator.OperatorUtils.Status

/-!
# Content watches and their event handlers

After an install `Reconcile` starts a *content watch* for the CR: informers on DaemonSets,
Deployments and Pods that call `informerUpdate` on every update until their stop channel is closed.
`informerUpdate` looks at the labels of the old object to decide whether the update concerns the CR
of the watch, and hands it to one of three handlers, which recompute and store the status of the CR
named by the labels of the new object.
-/

namespace CsmOperator

open Go Interaction

def csmLabel : String := "csm"

def csmNamespaceLabel : String := "csmNamespace"

/-- Minutes between two resyncs of the informers: the environment variable, or 60. -/
def refreshMinutes (rt : Runtime) : Int :=
  let text := match getEnvironmentVariable rt "REFRESH_INTERVAL_MINUTES" with
    | .ok value => value
    | .error _ => "60"
  match atoi text with
  | (n, none) => n
  | (_, some _) => 60

/-- One `AddEventHandler` call of `ContentWatch`. -/
def addHandler (kind : InformerKind) (informer : String) : Op (Option GoError) := do
  let err ← addEventHandler kind
  pure (err.map fun e =>
    errorf ("ContentWatch failed adding event handler to " ++ informer ++ ": " ++ e.text))

/-- `ContentWatch`: the stop channel of the informers it has started. -/
def contentWatch (rt : Runtime) (csm : ContainerStorageModule) : Op (Except GoError Chan) := do
  let err ← orElse (addHandler .daemonSet "daemonsetInformer")
    (orElse (addHandler .deployment "deploymentInformer") (addHandler .pods "podsInformer"))
  match err with
  | some e => pure (.error e)
  | none =>
    let stopCh ← startInformers csm.name (refreshMinutes rt)
    if rt.getenv "UNIT_TEST" ≠ "true" then waitForCacheSync stopCh
    pure (.ok stopCh)

/-! ## Handlers -/

/-- Read the CR an event is about. An error is only logged, and the CR is then the empty one. -/
def readEventCSM (key : NamespacedName) : Op ContainerStorageModule := do
  match ← getCSM key with
  | .ok csm => pure csm
  | .error _ => pure {}

/-- The CR the labels name. -/
def labelledCSM (labels : Option StrMap) : NamespacedName :=
  ⟨goLookup labels csmNamespaceLabel, goLookup labels csmLabel⟩

def handleDeploymentUpdate (rt : Runtime) (d : Deployment) : Op Unit := do
  lock .handlers
  let key := labelledCSM d.templateLabels
  if key.namesp ≠ "" then
    let csm ← readEventCSM key
    -- the status of the event object stands in for that of the controller Deployment
    let (csm, err) ← updateStatus rt csm (some (replicaStatus d))
    if err.isNone then recordEvent csm .normal "Completed" "Driver deployment running OK"
  unlock .handlers

def handlePodsUpdate (rt : Runtime) (p : Pod) : Op Unit := do
  lock .handlers
  let key := labelledCSM p.labels
  if key.namesp ≠ "" && p.deletionTimestamp.isNone then
    let csm ← readEventCSM key
    let (csm, err) ← updateStatus rt csm none
    let stamp := "at " ++ itoa (← unixNano)
    match err with
    | some e =>
      if csm.status.state.text ≠ "0" then
        recordEvent csm .warning "Updated" (stamp ++ " Pod error details " ++ e.text)
      else recordEvent csm .normal "Completed" (stamp ++ " Driver pods running OK")
    | none => recordEvent csm .normal "Completed" (stamp ++ " Driver pods running OK")
  unlock .handlers

def handleDaemonsetUpdate (rt : Runtime) (d : DaemonSet) : Op Unit := do
  lock .handlers
  let key := labelledCSM d.templateLabels
  if key.namesp ≠ "" then
    let csm ← readEventCSM key
    let (csm, err) ← updateStatus rt csm none
    if err.isNone then recordEvent csm .normal "Completed" "Driver daemonset running OK"
  unlock .handlers

/-! ## Dispatch -/

/-- The labels by which an object names its CR. -/
def WatchedObject.csmLabels : WatchedObject → Option StrMap
  | daemonSet d => d.templateLabels
  | deployment d => d.templateLabels
  | pod p => p.labels

/-- The filter of `informerUpdate` for a watch of the CR called `csmName`: both labels are there and
not empty, and the name is that of the CR. The namespace is not compared. -/
def concerns (csmName : String) (oldObj : WatchedObject) : Bool :=
  match oldObj.csmLabels.bind (· csmLabel), oldObj.csmLabels.bind (· csmNamespaceLabel) with
  | some name, some namesp => name ≠ "" && namesp ≠ "" && name = csmName
  | _, _ => false

/-- An update as an informer delivers it: both versions are of one kind. -/
inductive UpdateEvent where
  | daemonSet (old new : DaemonSet)
  | deployment (old new : Deployment)
  | pod (old new : Pod)

def UpdateEvent.oldObj : UpdateEvent → WatchedObject
  | daemonSet old _ => .daemonSet old
  | deployment old _ => .deployment old
  | pod old _ => .pod old

/-- The handler for an update. -/
def UpdateEvent.handler (rt : Runtime) : UpdateEvent → Op Unit
  | daemonSet _ new => handleDaemonsetUpdate rt new
  | deployment _ new => handleDeploymentUpdate rt new
  | pod _ new => handlePodsUpdate rt new

/-- `informerUpdate`: the update function of a watch of the CR called `csmName`. -/
def informerUpdate (rt : Runtime) (csmName : String) (e : UpdateEvent) : Op Unit :=
  when (concerns csmName e.oldObj) (e.handler rt)

/-- A watch passes on the updates of objects labelled with the name of its CR, whatever namespace
they are labelled with. -/
theorem informerUpdate_eq_handler {rt : Runtime} {csmName namesp : String} {e : UpdateEvent}
    (hname : e.oldObj.csmLabels.bind (· csmLabel) = some csmName)
    (hnamesp : e.oldObj.csmLabels.bind (· csmNamespaceLabel) = some namesp)
    (hne : csmName ≠ "") (hne' : namesp ≠ "") :
    informerUpdate rt csmName e = e.handler rt := by
  have hconcerns : concerns csmName e.oldObj = true := by simp [concerns, hname, hnamesp, hne, hne']
  rw [informerUpdate, hconcerns]
  rfl

end CsmOperator
