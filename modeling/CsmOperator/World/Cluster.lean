import CsmOperator.OperatorUtils.Status

/-!
# Reading from a cluster

The workload objects of a cluster, and how reads of them are answered. A read is answered truthfully
— the object, or `NotFound` when there is none — unless it fails: a *fault plan* says which of the
reads made by a computation fail, and with what error. Quantifying over clusters and fault plans is
quantifying over every outcome of every read.
-/

namespace CsmOperator

open Interaction

/-- The Deployments, DaemonSets and Pods of a cluster. -/
structure Cluster where
  deployments : List Deployment := []
  daemonSets : List DaemonSet := []
  pods : List Pod := []

namespace Cluster

variable (cl : Cluster)

/-- The error of a read of an object that is not there. -/
def notFound (key : NamespacedName) : GoError :=
  { kind := .notFound, text := "\"" ++ key.name ++ "\" not found" }

def getDeployment (key : NamespacedName) : Except GoError Deployment :=
  match cl.deployments.find? (·.key = key) with
  | some d => .ok d
  | none => .error (notFound key)

def getDaemonSet (key : NamespacedName) : Except GoError DaemonSet :=
  match cl.daemonSets.find? (·.key = key) with
  | some d => .ok d
  | none => .error (notFound key)

def listDeployments (namesp : String) : List Deployment :=
  cl.deployments.filter (·.namesp = namesp)

/-- The pods of a namespace whose label `app` has the given value. -/
def listPods (namesp app : String) : List Pod :=
  cl.pods.filter fun p => p.namesp = namesp && p.labels.bind (· "app") = some app

end Cluster

/-- The outcome of a read that may fail. -/
def orFault {α : Type} : Option GoError → Except GoError α → Except GoError α
  | some e, _ => .error e
  | none, r => r

@[simp] theorem orFault_none {α : Type} (r : Except GoError α) : orFault none r = r := rfl

@[simp] theorem orFault_some {α : Type} (e : GoError) (r : Except GoError α) :
    orFault (some e) r = .error e := rfl

/-- Which reads fail, numbered from 0 in the order they are made. -/
abbrev FaultPlan := Nat → Option GoError

/-- The reads of a cluster under a fault plan. The state counts the reads made so far; requests that
are not reads of workload objects are not served. -/
def Cluster.serve (cl : Cluster) (faults : FaultPlan) (n : Nat) :
    (q : Request) → Option (q.Answer × Nat)
  | .getDeployment key => some (orFault (faults n) (cl.getDeployment key), n + 1)
  | .getDaemonSet key => some (orFault (faults n) (cl.getDaemonSet key), n + 1)
  | .listDeployments namesp => some (orFault (faults n) (.ok (cl.listDeployments namesp)), n + 1)
  | .listPods namesp app => some (orFault (faults n) (.ok (cl.listPods namesp app)), n + 1)
  | .note _ => some ((), n)
  | _ => none

/-- Run a computation that only reads. -/
def readFrom {α : Type} (cl : Cluster) (faults : FaultPlan) (p : Op α) (n : Nat) :
    Option (α × Nat) :=
  p.exec (cl.serve faults) n

section readFrom

variable {α β : Type} {cl : Cluster} {faults : FaultPlan} {n : Nat}

@[simp] theorem readFrom_pure (a : α) : readFrom cl faults (pure a) n = some (a, n) := rfl

@[simp] theorem readFrom_ret (a : α) : readFrom cl faults (.ret a) n = some (a, n) := rfl

theorem readFrom_bind (p : Op α) (f : α → Op β) :
    readFrom cl faults (p >>= f) n =
      (readFrom cl faults p n).bind fun x => readFrom cl faults (f x.1) x.2 :=
  Prog.exec_bind p f n

@[simp] theorem readFrom_map (p : Op α) (f : α → β) :
    readFrom cl faults (f <$> p) n = (readFrom cl faults p n).map fun x => (f x.1, x.2) := by
  rw [map_eq_pure_bind, readFrom_bind]
  exact Option.map_eq_bind.symm

@[simp] theorem readFrom_getDeployment (key : NamespacedName) :
    readFrom cl faults (getDeployment key) n =
      some (orFault (faults n) (cl.getDeployment key), n + 1) := rfl

@[simp] theorem readFrom_getDaemonSet (key : NamespacedName) :
    readFrom cl faults (getDaemonSet key) n =
      some (orFault (faults n) (cl.getDaemonSet key), n + 1) := rfl

@[simp] theorem readFrom_listDeployments (namesp : String) :
    readFrom cl faults (listDeployments namesp) n =
      some (orFault (faults n) (.ok (cl.listDeployments namesp)), n + 1) := rfl

theorem readFrom_listDeployments_bind (namesp : String)
    (f : Except GoError (List Deployment) → Op β) :
    readFrom cl faults (listDeployments namesp >>= f) n =
      readFrom cl faults (f (orFault (faults n) (.ok (cl.listDeployments namesp)))) (n + 1) := rfl

@[simp] theorem readFrom_listPods (namesp app : String) :
    readFrom cl faults (listPods namesp app) n =
      some (orFault (faults n) (.ok (cl.listPods namesp app)), n + 1) := rfl

@[simp] theorem readFrom_deref_some (a : α) :
    readFrom cl faults (deref (some a)) n = some (a, n) := rfl

@[simp] theorem readFrom_deref_none :
    readFrom cl faults (deref (none : Option α)) n = none := rfl

@[simp] theorem readFrom_note (x : Note) : readFrom cl faults (note x) n = some ((), n) := rfl

end readFrom

/-- The read of a CR when one is stored. -/
def getStored (stored : ContainerStorageModule) (key : NamespacedName) :
    Except GoError ContainerStorageModule :=
  if stored.key = key then .ok stored else .error (Cluster.notFound key)

theorem key_of_getStored {stored cr : ContainerStorageModule} {key : NamespacedName}
    (h : getStored stored key = .ok cr) : cr.key = key := by
  unfold getStored at h
  split at h <;> cases h
  assumption

/-- Answers for a call of its own: the CR stored at first, a cluster that does not change, every update
accepted, and the abstract parts failing as `fails` says. -/
def obliging (stored : ContainerStorageModule) (cl : Cluster) (fails : Action → Option GoError) :
    (q : Request) → Option q.Answer
  | .getCSM key => some (getStored stored key)
  | .updateCSM cr => some (.ok cr)
  | .updateCSMStatus cr => some (.ok cr)
  | .getDeployment key => some (cl.getDeployment key)
  | .getDaemonSet key => some (cl.getDaemonSet key)
  | .listDeployments namesp => some (.ok (cl.listDeployments namesp))
  | .listPods namesp app => some (.ok (cl.listPods namesp app))
  | .updateDeployment _ => some none
  | .action a _ => some (fails a)
  | .isReverseProxySidecar => some false
  | .unixNano => some (0 : Int)
  | .addEventHandler _ => some none
  | .startInformers _ _ => some (0 : Nat)
  | .loadChannel _ => some none
  | .panic => none
  | .event _ _ _ _ | .lock _ | .unlock _ | .waitForCacheSync _ | .storeChannel _ _
  | .deleteChannel _ | .closeChannel _ | .note _ => some ()

/-! ## A configuration to run with

Part of the configuration directory the repository ships, and a process environment without any
variable set. Concrete runs use it. -/

/-- The `minUpgradePath` values of PowerScale and of the authorization module, by file. -/
def shippedUpgradePaths : List (String × String) :=
  [("operatorconfig/driverconfig/powerscale/v2.15.0/upgrade-path.yaml", "v2.13.0"),
    ("operatorconfig/driverconfig/powerscale/v2.15.1/upgrade-path.yaml", "v2.13.0"),
    ("operatorconfig/driverconfig/powerscale/v2.16.0/upgrade-path.yaml", "v2.14.0"),
    ("operatorconfig/driverconfig/powerscale/v2.17.0/upgrade-path.yaml", "v2.15.0"),
    ("operatorconfig/driverconfig/powerscale/v2.17.1/upgrade-path.yaml", "v2.15.0"),
    ("operatorconfig/moduleconfig/authorization/v2.3.0/upgrade-path.yaml", "v2.1.0"),
    ("operatorconfig/moduleconfig/authorization/v2.4.0/upgrade-path.yaml", "v2.2.0"),
    ("operatorconfig/moduleconfig/authorization/v2.5.0/upgrade-path.yaml", "v2.2.0")]

/-- The error of reading a file that is not there. -/
def noSuchFile (path : String) : FileError :=
  .read { text := "open " ++ path ++ ": no such file or directory" }

def shippedConfig : OperatorConfig where
  isOpenShift := false
  configDirectory := "operatorconfig"
  versionMapping _ := .ok
    [("powerscale", [("v1.17.1", "v2.17.1"), ("v1.16.0", "v2.16.0"), ("v1.15.0", "v2.15.0")])]
  upgradePath path :=
    match shippedUpgradePaths.lookup path with
    | some v => .ok v
    | none => .error (noSuchFile path)
  defaultModules _ := .ok
    [{ name := .observability, enabled := true, components :=
        [{ name := "topology", enabled := some true }, { name := "otel-collector", enabled := some true },
          { name := "cert-manager", enabled := some false },
          { name := "metrics-<CSI_DRIVER_TYPE>", enabled := some true }] }]

/-- A process with that configuration. Its JSON is the name and version of a CR: enough to tell the
configurations of a concrete run apart. -/
def shippedRuntime : Runtime where
  op := shippedConfig
  getenv _ := ""
  jsonMarshal cr := .ok (cr.namesp ++ "/" ++ cr.name ++ "@" ++ cr.spec.driver.configVersion)
  jsonUnmarshal _ := .ok {}
  urlParse _ := .ok ("http", "registry")

end CsmOperator
