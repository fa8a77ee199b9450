import CsmOperator.Api.V1
import CsmOperator.Interaction.Monitor

/-!
# What the operator asks of its surroundings

The Kubernetes objects the modelled functions read, the errors they handle, and the interface
through which the operator talks to the API server, to its own shared memory (mutexes and the stop
channels of the content watches) and to the parts of its code that stay abstract here.

* A *read* answers a value or an error; an *update* answers the object as the client library leaves
  it in memory after decoding the server's reply, or an error.
* The abstract parts are the functions named in `Action`; each answers the error it returned.
* `note` marks the return of a function. It asks nothing and changes nothing; properties that speak
  about what a call returned refer to it.
-/

namespace CsmOperator

open Interaction

/-! ## Errors -/

/-- What `k8serror.IsNotFound` and `retry.RetryOnConflict` tell apart. -/
inductive ErrorKind where
  | notFound
  | conflict
  | other
  deriving DecidableEq, Repr

/-- A Go error that is not nil. The type `error` itself is `Option GoError`. -/
structure GoError where
  kind : ErrorKind := .other
  text : String
  deriving DecidableEq, Repr

/-- `fmt.Errorf` with a message made of a fixed text and the text of a wrapped error. -/
def errorf (text : String) : GoError := { text }

/-! ## Objects -/

structure OwnerReference where
  name : String
  uid : String
  deriving DecidableEq, Repr

structure Deployment where
  name : String
  namesp : String
  /-- a pointer in the source: `none` is nil -/
  ownerReferences : Option (List OwnerReference) := none
  templateLabels : Option StrMap := none
  /-- `Spec.Replicas`, a pointer in the source -/
  replicas : Option Int := some 1
  statusReplicas : Int := 0
  readyReplicas : Int := 0
  availableReplicas : Int := 0
  unavailableReplicas : Int := 0

def Deployment.key (d : Deployment) : NamespacedName := ⟨d.namesp, d.name⟩

structure DaemonSet where
  name : String
  namesp : String
  templateLabels : Option StrMap := none
  desiredNumberScheduled : Int := 0

def DaemonSet.key (d : DaemonSet) : NamespacedName := ⟨d.namesp, d.name⟩

inductive PodPhase where
  | pending
  | running
  | succeeded
  | failed
  | unknown
  deriving DecidableEq, Repr

inductive ConditionStatus where
  | true
  | false
  | unknown
  deriving DecidableEq, Repr

structure PodCondition where
  type : String
  status : ConditionStatus
  deriving DecidableEq, Repr

/-- `State.Waiting` of a container status. -/
structure Waiting where
  reason : String
  message : String
  deriving DecidableEq, Repr

structure Pod where
  name : String
  namesp : String
  labels : Option StrMap := none
  deletionTimestamp : Option Nat := none
  phase : PodPhase := .running
  conditions : List PodCondition := []
  /-- one entry for each container; `none` when it is not waiting -/
  containerStatuses : List (Option Waiting) := []

/-- An object an informer reports an update of. -/
inductive WatchedObject where
  | daemonSet (d : DaemonSet)
  | deployment (d : Deployment)
  | pod (p : Pod)

/-! ## Requests -/

inductive Mutex where
  /-- `dMutex` of `operatorutils`, held by the status functions -/
  | status
  /-- `dMutex` of `controllers`, held by the event handlers -/
  | handlers
  /-- `ContentWatchLock` of the reconciler -/
  | contentWatch
  deriving DecidableEq, Repr

inductive InformerKind where
  | daemonSet
  | deployment
  | pods
  deriving DecidableEq, Repr

/-- A stop channel made by `ContentWatch`. -/
abbrev Chan := Nat

/-- The functions that stay abstract. Each is asked for with the CR it is called on and answers the
error it returns. -/
inductive Action where
  -- prechecks of drivers and modules
  | precheckDriver (driverType : DriverType)
  | zoneValidation
  | precheckModule (m : Module)
  -- what `SyncCSM` calls before it renders the driver
  | resolveVersionFromConfigMap
  | reconcileAuthorizationCRDS
  | reconcileAuthorization (isDeleting : Bool)
  | reconcileReverseProxyServer (isDeleting : Bool)
  | reconcileReplicationCRDS
  | getDriverConfig
  -- module cleanup and module objects
  | replicationManagerController (isDeleting : Bool)
  | deleteReplicationCrds
  | deleteReplicationConfigmap
  | createReplicationConfigmap
  | reconcileObservability (isDeleting : Bool) (components : List String)
  -- injection of module parts into the driver objects
  | reverseProxyStartService (isDeleting : Bool)
  | reverseProxyInjectDeployment
  | isHarvester
  | authInjectDeployment
  | authInjectDaemonset
  | resiliencyInjectDeployment
  | resiliencyInjectClusterRole (mode : String)
  | resiliencyInjectRole (mode : String)
  | resiliencyInjectDaemonset
  | replicationInjectDeployment
  | replicationInjectClusterRole
  -- the driver objects, in the order they are applied
  | syncServiceAccount (mode : String)
  | syncClusterRole (mode : String)
  | syncClusterRoleBindings (mode : String)
  | syncRole (mode : String)
  | syncRoleBindings (mode : String)
  | syncCSIDriver
  | syncConfigMap
  | syncDeployment
  | applyCSMDRCRD
  | syncDaemonset
  | syncMetricsResources (isDeleting : Bool)
  -- removal of a driver
  | removeDriverFromCluster
  | patchCSMDRCRDs
  deriving DecidableEq, Repr

inductive EventType where
  | normal
  | warning
  deriving DecidableEq, Repr

/-- `reconcile.Result`; no return of the operator sets the other fields. -/
structure Result where
  requeue : Bool := false
  deriving DecidableEq, Repr

/-- The returns that properties speak about. -/
inductive Note where
  | calculated (instanceKey : NamespacedName) (running : Bool) (err : Option GoError)
  | synced (cr : ContainerStorageModule) (err : Option GoError)
  | statusUpdated (instanceKey : NamespacedName) (err : Option GoError)
  | reconciled (key : NamespacedName) (result : Result) (err : Option GoError)

inductive Request where
  | getCSM (key : NamespacedName)
  | updateCSM (cr : ContainerStorageModule)
  | updateCSMStatus (cr : ContainerStorageModule)
  | getDeployment (key : NamespacedName)
  | updateDeployment (d : Deployment)
  | listDeployments (namesp : String)
  | getDaemonSet (key : NamespacedName)
  | listPods (namesp app : String)
  | action (a : Action) (cr : ContainerStorageModule)
  | isReverseProxySidecar
  | event (cr : ContainerStorageModule) (type : EventType) (reason message : String)
  | unixNano
  | lock (m : Mutex)
  | unlock (m : Mutex)
  | addEventHandler (kind : InformerKind)
  /-- make a stop channel and start the informers of a CR with it -/
  | startInformers (csmName : String) (refreshMinutes : Int)
  | waitForCacheSync (c : Chan)
  | loadChannel (name : String)
  | storeChannel (name : String) (c : Chan)
  | deleteChannel (name : String)
  | closeChannel (c : Chan)
  | note (n : Note)
  /-- a run-time panic: there is no answer -/
  | panic

/-- The type of the answer to each request. -/
def Request.Answer : Request → Type
  | getCSM _ => Except GoError ContainerStorageModule
  | updateCSM _ => Except GoError ContainerStorageModule
  | updateCSMStatus _ => Except GoError ContainerStorageModule
  | getDeployment _ => Except GoError Deployment
  | updateDeployment _ => Option GoError
  | listDeployments _ => Except GoError (List Deployment)
  | getDaemonSet _ => Except GoError DaemonSet
  | listPods _ _ => Except GoError (List Pod)
  | action _ _ => Option GoError
  | isReverseProxySidecar => Bool
  | unixNano => Int
  | addEventHandler _ => Option GoError
  | startInformers _ _ => Chan
  | loadChannel _ => Option Chan
  | panic => Empty
  | _ => Unit

/-- The interface between the operator and everything it talks to. -/
abbrev Api : Interface := ⟨Request, Request.Answer⟩

/-- A piece of the operator's code: it makes requests and returns an `α`. -/
abbrev Op (α : Type) := Prog Api α

/-- Make a request and wait for its answer. -/
def ask (q : Request) : Op q.Answer := Prog.ask (I := Api) q

/-! The single requests, each with the type its answer has. -/

def getCSM (key : NamespacedName) : Op (Except GoError ContainerStorageModule) :=
  ask (.getCSM key)

def updateCSM (cr : ContainerStorageModule) : Op (Except GoError ContainerStorageModule) :=
  ask (.updateCSM cr)

def updateCSMStatus (cr : ContainerStorageModule) : Op (Except GoError ContainerStorageModule) :=
  ask (.updateCSMStatus cr)

def getDeployment (key : NamespacedName) : Op (Except GoError Deployment) :=
  ask (.getDeployment key)

def updateDeployment (d : Deployment) : Op (Option GoError) := ask (.updateDeployment d)

def listDeployments (namesp : String) : Op (Except GoError (List Deployment)) :=
  ask (.listDeployments namesp)

def getDaemonSet (key : NamespacedName) : Op (Except GoError DaemonSet) := ask (.getDaemonSet key)

def listPods (namesp app : String) : Op (Except GoError (List Pod)) := ask (.listPods namesp app)

/-- Call an abstract part; its error is returned as it is. -/
def act (a : Action) (cr : ContainerStorageModule) : Op (Option GoError) := ask (.action a cr)

def isReverseProxySidecar : Op Bool := ask .isReverseProxySidecar

def recordEvent (cr : ContainerStorageModule) (type : EventType) (reason message : String) :
    Op Unit := ask (.event cr type reason message)

def unixNano : Op Int := ask .unixNano

def lock (m : Mutex) : Op Unit := ask (.lock m)

def unlock (m : Mutex) : Op Unit := ask (.unlock m)

def addEventHandler (kind : InformerKind) : Op (Option GoError) := ask (.addEventHandler kind)

def startInformers (csmName : String) (refreshMinutes : Int) : Op Chan :=
  ask (.startInformers csmName refreshMinutes)

def waitForCacheSync (c : Chan) : Op Unit := ask (.waitForCacheSync c)

def loadChannel (name : String) : Op (Option Chan) := ask (.loadChannel name)

def storeChannel (name : String) (c : Chan) : Op Unit := ask (.storeChannel name c)

def deleteChannel (name : String) : Op Unit := ask (.deleteChannel name)

def closeChannel (c : Chan) : Op Unit := ask (.closeChannel c)

def note (n : Note) : Op Unit := ask (.note n)

/-! ## Control flow -/

/-- Run `p` if `cond` holds. -/
def when (cond : Bool) (p : Op Unit) : Op Unit := if cond then p else pure ()

/-- Sequencing of calls that return an error: stop at the first one that is not nil. -/
def orElse (p : Op (Option GoError)) (q : Op (Option GoError)) : Op (Option GoError) := do
  match ← p with
  | some e => pure (some e)
  | none => q

/-- The pointer `p` is dereferenced. -/
def deref {α : Type} : Option α → Op α
  | some a => pure a
  | none => .call .panic nofun

end CsmOperator
