import CsmOperator.Api.Cluster
import CsmOperator.Go.Json
import CsmOperator.Interaction.Versioned

/-!
# Creating, updating and deleting objects: `pkg/resources` and `operatorutils`

Every object of a driver or a module goes to the API server through one of these functions. Each of them looks the
object up and then creates, replaces or deletes it, in requests of their own: between the two, other reconciles
and other clients may write, and the lookup is answered from the cache of the manager. Each function is given
here as the source has it, with the transaction that it stands for.

The kinds differ in what a replacement says. `ApplyObject` reads the manifest into the object that was found and
sends it with the version of that object; `SyncConfigMap` and `SyncCSIDriver` send the manifest with the version;
the others send the manifest as it is, which the server takes for any version. A ServiceAccount is never replaced.
-/

namespace CsmOperator.Resources

open Go Interaction

/-! ## The API server -/

/-- An object, by the kind of its manifest. -/
structure ObjectId where
  kind : String
  key : NamespacedName
  deriving DecidableEq, Repr

/-- What `IsForbidden` and `IsInvalid` tell apart. -/
inductive Refusal where
  | forbidden
  | invalid
  deriving DecidableEq, Repr

/-- What an error of the API server says beside its reason. -/
structure ApiStatus where
  text : String
  refusal : Option Refusal := none
  deriving DecidableEq, Repr

abbrev ResourceApi : Interface := Versioned ObjectId Json (Option GoError) ApiStatus

abbrev ResourceOp (α : Type) := Prog ResourceApi α

def toGoError (e : Failure ApiStatus) : GoError where
  kind :=
    match e.reason with
    | .notFound => .notFound
    | .conflict => .conflict
    | _ => .other
  text := e.detail.text

def get (o : ObjectId) : ResourceOp (Except (Failure ApiStatus) (Json × Nat)) :=
  Prog.ask (I := ResourceApi) (.get o)

def create (o : ObjectId) (obj : Json) : ResourceOp (Option (Failure ApiStatus)) :=
  Prog.ask (I := ResourceApi) (.create o obj)

def update (o : ObjectId) (obj : Json) (version : Option Nat) : ResourceOp (Option (Failure ApiStatus)) :=
  Prog.ask (I := ResourceApi) (.update o obj version)

def delete (o : ObjectId) : ResourceOp (Option (Failure ApiStatus)) :=
  Prog.ask (I := ResourceApi) (.delete o)

/-! ## The functions -/

/-- What a lookup leads to. -/
def afterLookup (missing : ResourceOp (Option GoError)) (found : Json × Nat → ResourceOp (Option GoError)) :
    Except (Failure ApiStatus) (Json × Nat) → ResourceOp (Option GoError)
  | .ok x => found x
  | .error e => if e.reason = .notFound then missing else pure (some (toGoError e))

/-- The lookup that they all begin with. -/
def lookup (o : ObjectId) (missing : ResourceOp (Option GoError))
    (found : Json × Nat → ResourceOp (Option GoError)) : ResourceOp (Option GoError) := do
  let r ← get o
  afterLookup missing found r

/-- The error of a write is returned. -/
def returnError (write : ResourceOp (Option (Failure ApiStatus))) : ResourceOp (Option GoError) := do
  let err ← write
  pure (err.map toGoError)

/-- The error of a write is returned with a text in front. -/
def wrapError (text : String) (write : ResourceOp (Option (Failure ApiStatus))) :
    ResourceOp (Option GoError) := do
  let err ← write
  pure (err.map fun e => errorf (text ++ (toGoError e).text))

/-- `ApplyObject`. An update that is refused as forbidden or invalid is logged and counts as done. -/
def applyObject (o : ObjectId) (obj : Json) : ResourceOp (Option GoError) :=
  lookup o (returnError (create o obj)) fun (live, version) => do
    match ← update o (obj.onto live) (some version) with
    | none => pure none
    | some e => pure (if e.detail.refusal.isSome then none else some (toGoError e))

/-- `DeleteObject`. -/
def deleteObject (o : ObjectId) : ResourceOp (Option GoError) :=
  lookup o (pure none) fun _ => do
    match ← delete o with
    | none => pure none
    | some e => pure (if e.reason = .notFound then none else some (toGoError e))

/-- The manifest replaces the object of the version that was found. -/
def syncVersion (o : ObjectId) (obj : Json) (creating updating : String) : ResourceOp (Option GoError) :=
  lookup o (wrapError creating (create o obj)) fun (_, version) => wrapError updating (update o obj (some version))

def syncConfigMap (key : NamespacedName) (configMap : Json) : ResourceOp (Option GoError) :=
  syncVersion ⟨"ConfigMap", key⟩ configMap "creating configmap: " "updating configmap: "

def syncCSIDriver (name : String) (csi : Json) : ResourceOp (Option GoError) :=
  syncVersion ⟨"CSIDriver", ⟨"", name⟩⟩ csi "creating csidriver object: " "updating csidriver object: "

/-- The manifest replaces what is there. -/
def syncAny (o : ObjectId) (obj : Json) : ResourceOp (Option GoError) :=
  lookup o (returnError (create o obj)) fun _ => returnError (update o obj none)

def applyCTRLObject : ObjectId → Json → ResourceOp (Option GoError) := syncAny

def syncClusterRoleBindings (key : NamespacedName) (rb : Json) : ResourceOp (Option GoError) :=
  syncAny ⟨"ClusterRoleBinding", key⟩ rb

def syncRoleBindings (key : NamespacedName) (rb : Json) : ResourceOp (Option GoError) :=
  if key.name = "" then pure none else syncAny ⟨"RoleBinding", key⟩ rb

/-- A role that was created is looked up once more. -/
def createRole (o : ObjectId) (role : Json) : ResourceOp (Option GoError) := do
  match ← create o role with
  | some e => pure (some (toGoError e))
  | none =>
    match ← get o with
    | .ok _ => pure none
    | .error e => pure (some (toGoError e))

def syncClusterRole (key : NamespacedName) (clusterRole : Json) : ResourceOp (Option GoError) :=
  let o : ObjectId := ⟨"ClusterRole", key⟩
  lookup o (createRole o clusterRole) fun _ => returnError (update o clusterRole none)

def syncRole (key : NamespacedName) (role : Json) : ResourceOp (Option GoError) :=
  if key.name = "" then pure none
  else
    let o : ObjectId := ⟨"Role", key⟩
    lookup o (createRole o role) fun _ => returnError (update o role none)

/-- A ServiceAccount that is there stays as it is. -/
def syncServiceAccount (key : NamespacedName) (sa : Json) : ResourceOp (Option GoError) :=
  let o : ObjectId := ⟨"ServiceAccount", key⟩
  lookup o (wrapError "creating serviceaccount: " (create o sa)) fun _ => pure none

/-! ## Calls, one after the other -/

inductive Call where
  | applyObject (o : ObjectId) (obj : Json)
  | applyCTRLObject (o : ObjectId) (obj : Json)
  | deleteObject (o : ObjectId)
  | syncServiceAccount (key : NamespacedName) (sa : Json)
  | syncClusterRole (key : NamespacedName) (clusterRole : Json)
  | syncClusterRoleBindings (key : NamespacedName) (rb : Json)
  | syncRole (key : NamespacedName) (role : Json)
  | syncRoleBindings (key : NamespacedName) (rb : Json)
  | syncCSIDriver (name : String) (csi : Json)
  | syncConfigMap (key : NamespacedName) (configMap : Json)

def Call.prog : Call → ResourceOp (Option GoError)
  | applyObject o obj => Resources.applyObject o obj
  | applyCTRLObject o obj => Resources.applyCTRLObject o obj
  | deleteObject o => Resources.deleteObject o
  | syncServiceAccount key sa => Resources.syncServiceAccount key sa
  | syncClusterRole key clusterRole => Resources.syncClusterRole key clusterRole
  | syncClusterRoleBindings key rb => Resources.syncClusterRoleBindings key rb
  | syncRole key role => Resources.syncRole key role
  | syncRoleBindings key rb => Resources.syncRoleBindings key rb
  | syncCSIDriver name csi => Resources.syncCSIDriver name csi
  | syncConfigMap key configMap => Resources.syncConfigMap key configMap

/-- Up to the first error. -/
def eachCall : List Call → ResourceOp (Option GoError)
  | [] => pure none
  | c :: cs => do
    match ← c.prog with
    | some e => pure (some e)
    | none => eachCall cs

/-- A manifest, taken apart. -/
abbrev Manifest := List (ObjectId × Json)

/-- `applyDeleteObjects`, and the loop of `PatchCSMDRCRDs`. -/
def applyDeleteObjects (isDeleting : Bool) (ctrlObjects : Manifest) : List Call :=
  ctrlObjects.map fun x => if isDeleting then .deleteObject x.1 else .applyObject x.1 x.2

def patchCSMDRCRDs (isDeleting : Bool) (crdObjects : Manifest) : List Call := applyDeleteObjects isDeleting crdObjects

/-- `CommonCertManager`: the CRDs stay when the rest is deleted. -/
def commonCertManager (isDeleting : Bool) (crdObjects ctrlObjects : Manifest) : List Call :=
  (if isDeleting then [] else crdObjects.map fun x => .applyObject x.1 x.2) ++
    applyDeleteObjects isDeleting ctrlObjects

/-- The objects of `RbacYAML`. -/
structure RbacObjects where
  serviceAccount : NamespacedName × Json
  clusterRole : NamespacedName × Json
  clusterRoleBinding : NamespacedName × Json
  role : NamespacedName × Json
  roleBinding : NamespacedName × Json

/-- What `SyncCSM` has rendered, without the Deployment and the DaemonSet. -/
structure DriverObjects where
  driver : String × Json
  configMap : NamespacedName × Json
  node : RbacObjects
  controller : RbacObjects

/-- What `SyncCSM` does up to the Deployment for COSI. -/
def syncCosiObjects (objs : DriverObjects) : List Call :=
  [.syncServiceAccount objs.controller.serviceAccount.1 objs.controller.serviceAccount.2,
    .syncClusterRole objs.controller.clusterRole.1 objs.controller.clusterRole.2,
    .syncClusterRoleBindings objs.controller.clusterRoleBinding.1 objs.controller.clusterRoleBinding.2,
    .syncConfigMap objs.configMap.1 objs.configMap.2]

/-- For node and controller. -/
def syncBoth (objs : DriverObjects) (part : RbacObjects → NamespacedName × Json)
    (call : NamespacedName → Json → Call) : List Call :=
  [objs.node, objs.controller].map fun rbac => call (part rbac).1 (part rbac).2

/-- What it does for the other drivers. -/
def syncDriverObjects (objs : DriverObjects) : List Call :=
  syncBoth objs (·.serviceAccount) .syncServiceAccount ++ syncBoth objs (·.clusterRole) .syncClusterRole ++
    syncBoth objs (·.clusterRoleBinding) .syncClusterRoleBindings ++ syncBoth objs (·.role) .syncRole ++
    syncBoth objs (·.roleBinding) .syncRoleBindings ++
    [.syncCSIDriver objs.driver.1 objs.driver.2, .syncConfigMap objs.configMap.1 objs.configMap.2]

/-- A thread of the operator. The return is marked. -/
def thread (cs : List Call) : ResourceOp Unit := do
  let err ← eachCall cs
  Prog.ask (I := ResourceApi) (.report err)

end CsmOperator.Resources
