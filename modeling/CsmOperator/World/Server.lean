import CsmOperator.Controllers.Exits
import CsmOperator.Interaction.Pool
import CsmOperator.World.Cluster

/-!
# The world the operator's threads share

Reconciles and event handlers run as threads of one process. They share the API server — the stored
CRs with optimistic concurrency, and the workload objects — and the process' own mutexes and stop
channels. `respond` serves one request; whatever the operator did not do itself is *drift*: users edit,
create and delete CRs, and the cluster moves.

* Reads are linearizable: they answer what is stored, or fail. A failure is never `NotFound`, which
  is a truthful answer.
* An update names the version it is based on and conflicts if the stored CR has another one. The
  status is a subresource: an update leaves it alone, a status update changes nothing else.
* The client library decodes the server's reply into the CR in memory. Fields of the status that are
  empty are not part of the reply, and keep their value in memory.
* The cluster is kept with its past, since informers deliver objects as they were at some time.
-/

namespace CsmOperator

open Interaction

structure World where
  /-- the stored CRs -/
  crs : NamespacedName → Option ContainerStorageModule
  /-- the last resource version that was given out -/
  version : Nat
  /-- the states of the workload objects, the present one first -/
  history : List Cluster
  held : Mutex → Bool := fun _ => false
  /-- `ContentWatchChannels` of the reconciler -/
  channels : String → Option Chan := fun _ => none
  /-- for each stop channel the name its watch was started for, and whether it is still open -/
  watches : List (String × Bool) := []

namespace World

/-- The workload objects as they are now. -/
def cluster (w : World) : Cluster := w.history.headD {}

/-- What is left open about an answer. -/
structure Choice where
  fault : Option GoError := none
  flag : Bool := false
  time : Int := 0

/-- The outcome of a read that may fail, though not by claiming that an object is not there. -/
def truthful {α : Type} (w : World) (c : Choice) (r : Except GoError α) :
    Option (Except GoError α × World) :=
  match c.fault with
  | none => some (r, w)
  | some e => if e.kind = .notFound then none else some (.error e, w)

/-- The error of an update based on another version than the stored one. -/
def conflict (key : NamespacedName) : GoError :=
  { kind := .conflict, text := "\"" ++ key.name ++ "\": the object has been modified" }

def getCSM (w : World) (key : NamespacedName) : Except GoError ContainerStorageModule :=
  match w.crs key with
  | some cr => .ok cr
  | none => .error (Cluster.notFound key)

/-! ## Updates of CRs -/

/-- A text of the reply, or the one in memory when it is left out. -/
def decodeText (memory reply : String) : String := if reply = "" then memory else reply

def decodePodStatus (memory reply : PodStatus) : PodStatus :=
  { available := decodeText memory.available reply.available
    desired := decodeText memory.desired reply.desired
    failed := decodeText memory.failed reply.failed }

/-- The status in memory after the reply was decoded into it. -/
def decodeStatus (memory reply : ContainerStorageModuleStatus) : ContainerStorageModuleStatus :=
  { controllerStatus := decodePodStatus memory.controllerStatus reply.controllerStatus
    nodeStatus := decodePodStatus memory.nodeStatus reply.nodeStatus
    state := if reply.state = .noState then memory.state else reply.state
    lastSuccessfulConfiguration := decodeText memory.lastSuccessfulConfiguration
      reply.lastSuccessfulConfiguration }

/-- The stored CR after an update of it with `cr`. -/
def updated (w : World) (stored cr : ContainerStorageModule) : ContainerStorageModule :=
  { cr with
    uid := stored.uid
    deletionTimestamp := stored.deletionTimestamp
    status := stored.status
    resourceVersion := w.version + 1 }

/-- A CR that is being deleted goes away with its last finalizer. -/
def kept (cr : ContainerStorageModule) : Option ContainerStorageModule :=
  if cr.isBeingDeleted && cr.finalizers.isEmpty then none else some cr

/-- Store what becomes of a CR. -/
def put (w : World) (key : NamespacedName) (cr : Option ContainerStorageModule) : World :=
  { w with crs := Function.update w.crs key cr, version := w.version + 1 }

/-- The update of a CR. -/
def updateCSM (w : World) (cr : ContainerStorageModule) :
    Except GoError ContainerStorageModule × World :=
  match w.crs cr.key with
  | none => (.error (Cluster.notFound cr.key), w)
  | some stored =>
    if stored.resourceVersion = cr.resourceVersion then
      let new := w.updated stored cr
      (.ok (new.withStatus (decodeStatus cr.status new.status)), w.put cr.key (kept new))
    else (.error (conflict cr.key), w)

/-- The update of the status of a CR. -/
def updateCSMStatus (w : World) (cr : ContainerStorageModule) :
    Except GoError ContainerStorageModule × World :=
  match w.crs cr.key with
  | none => (.error (Cluster.notFound cr.key), w)
  | some stored =>
    if stored.resourceVersion = cr.resourceVersion then
      let new := { stored with status := cr.status, resourceVersion := w.version + 1 }
      (.ok new, w.put cr.key (some new))
    else (.error (conflict cr.key), w)

/-- The owner references of a Deployment are replaced; its status is a subresource. -/
def updateDeployment (w : World) (d : Deployment) : World :=
  let replaced := w.cluster.deployments.map fun d' =>
    if d'.key = d.key then { d' with ownerReferences := d.ownerReferences } else d'
  { w with history := { w.cluster with deployments := replaced } :: w.history }

/-! ## Locks and channels -/

def lock (w : World) (m : Mutex) : Option World :=
  if w.held m then none else some { w with held := Function.update w.held m true }

def unlock (w : World) (m : Mutex) : World :=
  { w with held := Function.update w.held m false }

/-- Closing a channel twice is a panic. -/
def closeChannel (w : World) (c : Chan) : Option World :=
  match w.watches[c]? with
  | some (name, true) => some { w with watches := w.watches.set c (name, false) }
  | _ => none

/-! ## All requests -/

def respond (w : World) : (q : Request) → Choice → Option (q.Answer × World)
  | .getCSM key, c => w.truthful c (w.getCSM key)
  | .updateCSM cr, c =>
    match c.fault with
    | none => some (w.updateCSM cr)
    | some e => some (.error e, w)
  | .updateCSMStatus cr, c =>
    match c.fault with
    | none => some (w.updateCSMStatus cr)
    | some e => some (.error e, w)
  | .getDeployment key, c => w.truthful c (w.cluster.getDeployment key)
  | .updateDeployment d, c =>
    match c.fault with
    | none => some (none, w.updateDeployment d)
    | some e => some (some e, w)
  | .listDeployments namesp, c => w.truthful c (.ok (w.cluster.listDeployments namesp))
  | .getDaemonSet key, c => w.truthful c (w.cluster.getDaemonSet key)
  | .listPods namesp app, c => w.truthful c (.ok (w.cluster.listPods namesp app))
  | .action _ _, c => some (c.fault, w)
  | .isReverseProxySidecar, c => some (c.flag, w)
  | .unixNano, c => some (c.time, w)
  | .lock m, _ => (w.lock m).map fun w => ((), w)
  | .unlock m, _ => some ((), w.unlock m)
  | .addEventHandler _, c => some (c.fault, w)
  | .startInformers name _, _ =>
    some (w.watches.length, { w with watches := w.watches ++ [(name, true)] })
  | .loadChannel name, _ => some (w.channels name, w)
  | .storeChannel name ch, _ =>
    some ((), { w with channels := Function.update w.channels name (some ch) })
  | .deleteChannel name, _ =>
    some ((), { w with channels := Function.update w.channels name none })
  | .closeChannel ch, _ => (w.closeChannel ch).map fun w => ((), w)
  | .event _ _ _ _, _ => some ((), w)
  | .waitForCacheSync _, _ => some ((), w)
  | .note _, _ => some ((), w)
  | .panic, _ => none

end World

/-! ## Drift

What a key stands for does not change: users may edit the spec of a CR, but not its CSI driver type
and not whether it lists an authorization proxy server. They do not touch the status, nor the
annotations the operator keeps for itself. -/

/-- What a CR is. -/
structure Kind where
  driverType : DriverType
  proxy : Bool
  deriving DecidableEq

def ContainerStorageModule.kind (cr : ContainerStorageModule) : Kind :=
  ⟨cr.spec.driver.csiDriverType, isAuthorizationProxyServer cr⟩

variable {kinds : NamespacedName → Kind} {key : NamespacedName} {cr : ContainerStorageModule}

/-- A CR that can be stored under a key. -/
structure FitsKey (kinds : NamespacedName → Kind) (key : NamespacedName)
    (cr : ContainerStorageModule) : Prop where
  key_eq : cr.key = key
  name_ne : cr.name ≠ ""
  kind_eq : cr.kind = kinds key

theorem FitsKey.congr {a b : ContainerStorageModule} (h : FitsKey kinds a.key a)
    (hkey : b.key = a.key) (hkind : b.kind = a.kind) : FitsKey kinds b.key b where
  key_eq := rfl
  name_ne := by
    have hname : b.name = a.name := congrArg NamespacedName.name hkey
    rw [hname]
    exact h.name_ne
  kind_eq := by rw [hkind, h.kind_eq, hkey]

/-- What a CR is shows in its spec. -/
theorem kind_of_spec {a b : ContainerStorageModule} (h : b.spec = a.spec) : b.kind = a.kind := by
  rw [ContainerStorageModule.kind, ContainerStorageModule.kind, isAuthorizationProxyServer,
    isAuthorizationProxyServer, ContainerStorageModule.hasModule, ContainerStorageModule.hasModule, h]

/-- The annotations that are the operator's. -/
def ownedAnnotations : List String := [configVersionKey, csmVersionKey, previouslyApplied]

def ContainerStorageModule.lookup (cr : ContainerStorageModule) (k : String) : Option String :=
  cr.annotations.bind (· k)

/-- What becomes of the annotations when the versions are recorded: the version of the operator goes
into the map there is, or both versions into a new one. -/
theorem applyConfigVersionAnnotations_cases (op : OperatorConfig) (csm : ContainerStorageModule) :
    ((applyConfigVersionAnnotations op csm).2 = false ∧
      (∀ k, (applyConfigVersionAnnotations op csm).1.lookup k =
        if k = csmVersionKey then csm.annotations.map fun _ => csmVersion else csm.lookup k) ∧
      ∀ v, getVersion op csm = .ok v → (csm.lookup configVersionKey).getD "" = v) ∨
    ∃ v, (applyConfigVersionAnnotations op csm).2 = true ∧ getVersion op csm = .ok v ∧
      ∀ k, (applyConfigVersionAnnotations op csm).1.lookup k =
        if k = configVersionKey then some v
        else if k = csmVersionKey then some csmVersion else csm.lookup k := by
  have hold : ∀ k, (csm.annotations.getD fun _ => none) k = csm.lookup k := by
    intro k
    unfold ContainerStorageModule.lookup
    cases csm.annotations <;> rfl
  have hshared : ∀ k, (csm.annotations.map fun _ => Function.update
      (csm.annotations.getD fun _ => none) csmVersionKey (some csmVersion)).bind (· k) =
      if k = csmVersionKey then csm.annotations.map fun _ => csmVersion else csm.lookup k := by
    intro k
    unfold ContainerStorageModule.lookup
    cases csm.annotations with
    | none => exact (ite_self none).symm
    | some f => exact Function.update_apply ..
  unfold applyConfigVersionAnnotations
  dsimp only
  split
  next e hversion =>
    refine .inl ⟨rfl, hshared, fun v h => ?_⟩
    rw [hversion] at h
    cases h
  next v hversion =>
    split
    next =>
      refine .inr ⟨v, rfl, hversion, fun k => ?_⟩
      rw [← hold k, ← Function.update_apply, ← Function.update_apply]
      rfl
    next hsame =>
      refine .inl ⟨rfl, hshared, fun v' h => ?_⟩
      rw [hversion] at h
      cases h
      rw [← hold]
      exact not_not.mp hsame

/-- What can happen to the CR stored under a key without the operator. -/
inductive Edit (kinds : NamespacedName → Kind) (key : NamespacedName) (version : Nat) :
    Option ContainerStorageModule → Option ContainerStorageModule → Prop
  | untouched (o : Option ContainerStorageModule) : Edit kinds key version o o
  | edited {s s' : ContainerStorageModule} : FitsKey kinds key s' → s'.uid = s.uid →
      s'.status = s.status → (∀ k ∈ ownedAnnotations, s'.lookup k = s.lookup k) →
      version < s'.resourceVersion → Edit kinds key version (some s) (some s')
  | created {s : ContainerStorageModule} : FitsKey kinds key s → s.status = {} →
      (∀ k ∈ ownedAnnotations, s.lookup k = none) → s.isBeingDeleted = false →
      version < s.resourceVersion → Edit kinds key version none (some s)
  | removed {s : ContainerStorageModule} : s.finalizers = [] → Edit kinds key version (some s) none

/-- What can happen to the world without the operator. -/
structure Drift (kinds : NamespacedName → Kind) (w w' : World) : Prop where
  crs : ∀ key, Edit kinds key w.version (w.crs key) (w'.crs key)
  version : w.version ≤ w'.version
  bounded : ∀ key cr, w'.crs key = some cr → cr.resourceVersion ≤ w'.version
  history : w.history <:+ w'.history
  held : w'.held = w.held
  channels : w'.channels = w.channels
  watches : w'.watches = w.watches

/-- The world as the environment of a pool. -/
def environment (kinds : NamespacedName → Kind) : Env Api World World.Choice where
  respond := World.respond
  drift := Drift kinds

/-- What a thread is started for. -/
inductive Entry where
  | reconcile (key : NamespacedName)
  /-- an update seen by a content watch of the CR called `csmName` -/
  | update (csmName : String) (e : UpdateEvent)

/-- The code of a thread. The return of `Reconcile` is marked. -/
def Entry.program (rt : Runtime) : Entry → Op Unit
  | reconcile key => do
    let (result, err) ← CsmOperator.reconcile rt key
    note (.reconciled key result err)
  | update csmName e => informerUpdate rt csmName e

/-- A pool of the operator's threads. -/
abbrev Threads := Pool Api World Entry

/-- The versions of an update that come from the cluster's past. -/
def UpdateEvent.Seen (w : World) : UpdateEvent → Prop
  | .daemonSet _ new => ∃ cl ∈ w.history, cl.getDaemonSet new.key = .ok new
  | .deployment _ new => ∃ cl ∈ w.history, cl.getDeployment new.key = .ok new
  | .pod _ new => ∃ cl ∈ w.history, new ∈ cl.pods

/-- An update is seen by a watch that is running, and of an object there was. -/
def Entry.Possible (w : World) : Entry → Prop
  | reconcile _ => True
  | update csmName e => (csmName, true) ∈ w.watches ∧ e.Seen w

/-! ## What preparing a CR in memory keeps -/

/-- The names of the module entries. -/
def ContainerStorageModule.moduleNames (cr : ContainerStorageModule) : List ModuleType :=
  cr.spec.modules.map (·.name)

theorem kind_eq_of_moduleNames {a b : ContainerStorageModule}
    (hdriver : a.spec.driver.csiDriverType = b.spec.driver.csiDriverType)
    (hnames : a.moduleNames = b.moduleNames) : a.kind = b.kind := by
  have hproxy : ∀ cr : ContainerStorageModule, isAuthorizationProxyServer cr =
      cr.moduleNames.any fun name => name = ModuleType.authorizationServer := by
    intro cr
    simp only [isAuthorizationProxyServer, ContainerStorageModule.hasModule,
      ContainerStorageModule.moduleNames, List.any_map, Function.comp_def]
  rw [ContainerStorageModule.kind, ContainerStorageModule.kind, hdriver, hproxy a, hproxy b, hnames]

theorem kind_addModuleComponent (mod : ModuleType) (component : ContainerTemplate) :
    (addModuleComponent cr mod component).kind = cr.kind := by
  refine kind_eq_of_moduleNames rfl ?_
  simp only [addModuleComponent, ContainerStorageModule.moduleNames, List.map_map]
  refine List.map_congr_left fun m _ => ?_
  rw [Function.comp_apply]
  split <;> rfl

theorem kind_loadDefaultComponents {op : OperatorConfig} {cr' : ContainerStorageModule}
    (h : loadDefaultComponents op cr = .ok cr') : cr'.kind = cr.kind := by
  have hfold : ∀ (comps : List ContainerTemplate) (cr : ContainerStorageModule),
      (comps.foldl (fun cr comp => if hasModuleComponent cr .observability comp.name then cr
        else addModuleComponent cr .observability comp) cr).kind = cr.kind := by
    intro comps
    induction comps with
    | nil => exact fun _ => rfl
    | cons comp comps ih =>
        intro cr
        rw [List.foldl_cons, ih]
        split
        · rfl
        · exact kind_addModuleComponent _ _
  unfold loadDefaultComponents at h
  split at h
  · split at h
    · cases h
    · split at h
      · cases h
        exact hfold _ cr
      · cases h
        rfl
  · cases h
    rfl

theorem names_setAuthVersion (v : String) (ms : List Module) :
    (setAuthVersion v ms).map (·.name) = ms.map (·.name) := by
  induction ms with
  | nil => rfl
  | cons m ms ih =>
      rw [setAuthVersion]
      split
      · rfl
      · rw [List.map_cons, List.map_cons, ih]

theorem names_enableReverseProxy (ms : List Module) :
    (enableReverseProxy ms).map (·.name) = ms.map (·.name) := by
  induction ms with
  | nil => rfl
  | cons m ms ih =>
      rw [enableReverseProxy]
      split
      · rfl
      · rw [List.map_cons, List.map_cons, ih]

/-- Up to the prechecks, a CR stays what it is. -/
theorem kind_prepare {op : OperatorConfig} {cr' : ContainerStorageModule}
    (h : prepare op cr = .ok cr') : cr'.kind = cr.kind := by
  unfold prepare at h
  split at h
  · cases h
  · next cr₁ hload =>
      have hkind : cr₁.kind = cr.kind := (kind_loadDefaultComponents hload).trans rfl
      unfold resolveAuthVersion at h
      split at h
      · split at h
        · cases h
        · cases h
          rw [← hkind]
          exact kind_eq_of_moduleNames rfl (names_setAuthVersion _ _)
      · cases h
        exact hkind

theorem kind_afterDriverPrecheck (cr : ContainerStorageModule) :
    (afterDriverPrecheck cr).kind = cr.kind := by
  unfold afterDriverPrecheck
  split
  · exact kind_eq_of_moduleNames rfl (names_enableReverseProxy _)
  · rfl

/-! ## The stored CRs -/

namespace World

variable {w w' : World} {c : Choice}

/-- Every stored CR fits its key. -/
def WellStored (kinds : NamespacedName → Kind) (w : World) : Prop :=
  ∀ key cr, w.crs key = some cr → FitsKey kinds key cr

/-- A read changes nothing, and what it answers is true. -/
theorem of_truthful {α : Type} {x r : Except GoError α} (h : w.truthful c x = some (r, w')) :
    w' = w ∧ (r = x ∨ ∃ e, r = .error e ∧ e.kind ≠ .notFound) := by
  unfold truthful at h
  split at h
  · cases h
    exact ⟨rfl, .inl rfl⟩
  · split at h
    · cases h
    · next hkind =>
        cases h
        exact ⟨rfl, .inr ⟨_, rfl, hkind⟩⟩

theorem of_getCSM {r : Except GoError ContainerStorageModule}
    (h : w.respond (.getCSM key) c = some (r, w')) :
    w' = w ∧ ∀ cr, r = .ok cr → w.crs key = some cr := by
  obtain ⟨hw, hr⟩ := of_truthful h
  refine ⟨hw, fun cr hcr => ?_⟩
  rcases hr with rfl | ⟨e, rfl, -⟩
  · unfold getCSM at hcr
    split at hcr <;> cases hcr
    assumption
  · cases hcr

theorem of_updateCSM {r : Except GoError ContainerStorageModule}
    (h : w.respond (.updateCSM cr) c = some (r, w')) :
    (w' = w ∧ ∃ e, r = .error e) ∨
      ∃ stored, w.crs cr.key = some stored ∧ stored.resourceVersion = cr.resourceVersion ∧
        r = .ok ((w.updated stored cr).withStatus (decodeStatus cr.status stored.status)) ∧
        w' = w.put cr.key (kept (w.updated stored cr)) := by
  simp only [respond] at h
  split at h
  · unfold updateCSM at h
    split at h
    · cases h
      exact .inl ⟨rfl, _, rfl⟩
    · next stored hstored =>
        split at h
        · next hversion =>
            cases h
            exact .inr ⟨stored, hstored, hversion, rfl, rfl⟩
        · cases h
          exact .inl ⟨rfl, _, rfl⟩
  · cases h
    exact .inl ⟨rfl, _, rfl⟩

/-- The stored CR with another status. -/
def restated (w : World) (stored cr : ContainerStorageModule) : ContainerStorageModule :=
  { stored with status := cr.status, resourceVersion := w.version + 1 }

theorem of_updateCSMStatus {r : Except GoError ContainerStorageModule}
    (h : w.respond (.updateCSMStatus cr) c = some (r, w')) :
    (w' = w ∧ ∃ e, r = .error e) ∨
      ∃ stored, w.crs cr.key = some stored ∧ stored.resourceVersion = cr.resourceVersion ∧
        r = .ok (w.restated stored cr) ∧ w' = w.put cr.key (some (w.restated stored cr)) := by
  simp only [respond] at h
  split at h
  · unfold updateCSMStatus at h
    split at h
    · cases h
      exact .inl ⟨rfl, _, rfl⟩
    · next stored hstored =>
        split at h
        · next hversion =>
            cases h
            exact .inr ⟨stored, hstored, hversion, rfl, rfl⟩
        · cases h
          exact .inl ⟨rfl, _, rfl⟩
  · cases h
    exact .inl ⟨rfl, _, rfl⟩

/-- The requests that can change what is stored. -/
def Writes : Request → Prop
  | .updateCSM _ | .updateCSMStatus _ => True
  | _ => False

/-- Other requests leave the stored CRs alone. -/
theorem crs_of_respond {q : Request} {r : q.Answer} (hq : ¬ Writes q)
    (h : w.respond q c = some (r, w')) : w'.crs = w.crs ∧ w'.version = w.version := by
  have hread : w' = w → w'.crs = w.crs ∧ w'.version = w.version := by
    rintro rfl
    exact ⟨rfl, rfl⟩
  cases q with
  | updateCSM => exact absurd trivial hq
  | updateCSMStatus => exact absurd trivial hq
  | updateDeployment d =>
      simp only [respond] at h
      split at h <;> cases h <;> exact ⟨rfl, rfl⟩
  | lock m =>
      simp only [respond, lock] at h
      split at h <;> cases h
      exact ⟨rfl, rfl⟩
  | closeChannel ch =>
      simp only [respond, closeChannel] at h
      split at h <;> cases h
      exact ⟨rfl, rfl⟩
  | panic => cases h
  | getCSM => exact hread (of_truthful h).1
  | getDeployment => exact hread (of_truthful h).1
  | listDeployments => exact hread (of_truthful h).1
  | getDaemonSet => exact hread (of_truthful h).1
  | listPods => exact hread (of_truthful h).1
  | _ => cases h; exact ⟨rfl, rfl⟩

/-- What a served request preserves of the stored CRs: one update and one status update have to be
looked at. -/
theorem stored_of_respond {Φ : NamespacedName → ContainerStorageModule → Prop} {q : Request}
    {r : q.Answer} (hΦ : ∀ key cr, w.crs key = some cr → Φ key cr)
    (hupdate : ∀ cr stored, q = .updateCSM cr → w.crs cr.key = some stored → Φ cr.key stored →
      Φ cr.key (w.updated stored cr))
    (hstatus : ∀ cr stored, q = .updateCSMStatus cr → w.crs cr.key = some stored →
      Φ cr.key stored → Φ cr.key (w.restated stored cr))
    (h : w.respond q c = some (r, w')) (key : NamespacedName) (cr : ContainerStorageModule)
    (hcr : w'.crs key = some cr) : Φ key cr := by
  -- a new CR under one key, and the others as they were
  have hput : ∀ k new, (∀ cr', new = some cr' → Φ k cr') → w' = w.put k new → Φ key cr := by
    rintro k new hnew rfl
    have hcr' : Function.update w.crs k new key = some cr := hcr
    by_cases hk : key = k
    · subst hk
      rw [Function.update_self] at hcr'
      exact hnew cr hcr'
    · rw [Function.update_of_ne hk] at hcr'
      exact hΦ key cr hcr'
  by_cases hq : Writes q
  · cases q with
    | updateCSM new =>
        rcases of_updateCSM h with ⟨rfl, -⟩ | ⟨stored, hstored, -, -, hw⟩
        · exact hΦ key cr hcr
        · refine hput _ _ (fun cr' hcr' => ?_) hw
          unfold kept at hcr'
          split at hcr' <;> cases hcr'
          exact hupdate new stored rfl hstored (hΦ _ _ hstored)
    | updateCSMStatus new =>
        rcases of_updateCSMStatus h with ⟨rfl, -⟩ | ⟨stored, hstored, -, -, hw⟩
        · exact hΦ key cr hcr
        · refine hput _ _ (fun cr' hcr' => ?_) hw
          cases hcr'
          exact hstatus new stored rfl hstored (hΦ _ _ hstored)
    | _ => exact hq.elim
  · rw [(crs_of_respond hq h).1] at hcr
    exact hΦ key cr hcr

/-- The CR under a key that is not updated changes at most in its status. -/
theorem stored_of_respond_other {q : Request} {r : q.Answer}
    (hq : ∀ cr, q = .updateCSM cr → cr.key ≠ key) (h : w.respond q c = some (r, w')) :
    w'.crs key = w.crs key ∨ ∃ s status resourceVersion, w.crs key = some s ∧
      w'.crs key = some { s with status, resourceVersion } := by
  by_cases hw : Writes q
  · cases q with
    | updateCSM new =>
        rcases of_updateCSM h with ⟨rfl, -⟩ | ⟨stored, -, -, -, rfl⟩
        · exact .inl rfl
        · exact .inl (Function.update_of_ne (hq new rfl).symm _ _)
    | updateCSMStatus new =>
        rcases of_updateCSMStatus h with ⟨rfl, -⟩ | ⟨stored, hstored, -, -, rfl⟩
        · exact .inl rfl
        · by_cases hk : key = new.key
          · subst hk
            exact .inr ⟨stored, _, _, hstored, Function.update_self ..⟩
          · exact .inl (Function.update_of_ne hk _ _)
    | _ => exact hw.elim
  · rw [(crs_of_respond hw h).1]
    exact .inl rfl

/-- What drift preserves of the stored CRs. -/
theorem stored_of_drift {Φ : NamespacedName → ContainerStorageModule → Prop}
    (hΦ : ∀ key cr, w.crs key = some cr → Φ key cr)
    (hedited : ∀ key s s', FitsKey kinds key s' → s'.status = s.status →
      (∀ k ∈ ownedAnnotations, s'.lookup k = s.lookup k) → Φ key s → Φ key s')
    (hcreated : ∀ key s, FitsKey kinds key s → s.status = {} →
      (∀ k ∈ ownedAnnotations, s.lookup k = none) → Φ key s)
    (h : Drift kinds w w') (key : NamespacedName) (cr : ContainerStorageModule)
    (hcr : w'.crs key = some cr) : Φ key cr := by
  have hedit := h.crs key
  rw [hcr] at hedit
  generalize ho : w.crs key = o at hedit
  cases hedit with
  | untouched => exact hΦ key cr ho
  | edited hfits _ hstatus hann _ => exact hedited key _ cr hfits hstatus hann (hΦ key _ ho)
  | created hfits hstatus hann _ _ => exact hcreated key cr hfits hstatus hann

/-- The past of the cluster is never forgotten. -/
theorem history_of_respond {q : Request} {r : q.Answer} (h : w.respond q c = some (r, w')) :
    w.history <:+ w'.history := by
  cases q with
  | updateCSM cr =>
      rcases of_updateCSM h with ⟨rfl, -⟩ | ⟨_, -, -, -, rfl⟩ <;> exact List.suffix_refl _
  | updateCSMStatus cr =>
      rcases of_updateCSMStatus h with ⟨rfl, -⟩ | ⟨_, -, -, -, rfl⟩ <;> exact List.suffix_refl _
  | updateDeployment d =>
      simp only [respond] at h
      split at h
      · cases h
        exact List.suffix_cons _ _
      · cases h
        exact List.suffix_refl _
  | lock m =>
      simp only [respond, lock] at h
      split at h <;> cases h
      exact List.suffix_refl _
  | closeChannel ch =>
      simp only [respond, closeChannel] at h
      split at h <;> cases h
      exact List.suffix_refl _
  | panic => cases h
  | getCSM => exact (of_truthful h).1 ▸ List.suffix_refl _
  | getDeployment => exact (of_truthful h).1 ▸ List.suffix_refl _
  | listDeployments => exact (of_truthful h).1 ▸ List.suffix_refl _
  | getDaemonSet => exact (of_truthful h).1 ▸ List.suffix_refl _
  | listPods => exact (of_truthful h).1 ▸ List.suffix_refl _
  | _ =>
      cases h
      exact List.suffix_refl _

/-- A CR is stored only under a key it fits, if updates only store such CRs. -/
theorem wellStored_of_respond {q : Request} {r : q.Answer} (hw : w.WellStored kinds)
    (hq : ∀ cr, q = .updateCSM cr → FitsKey kinds cr.key cr)
    (h : w.respond q c = some (r, w')) : w'.WellStored kinds := by
  refine stored_of_respond hw (fun cr stored heq _ _ => ?_) (fun cr stored _ _ hfits => ?_) h
  · have hfits := hq cr heq
    exact ⟨rfl, hfits.name_ne, hfits.kind_eq⟩
  · exact ⟨hfits.key_eq, hfits.name_ne, hfits.kind_eq⟩

theorem wellStored_of_drift (hw : w.WellStored kinds) (h : Drift kinds w w') :
    w'.WellStored kinds :=
  stored_of_drift hw (fun _ _ _ hfits _ _ _ => hfits) (fun _ _ hfits _ _ => hfits) h

/-- No stored CR has a version that was not given out. -/
def Bounded (w : World) : Prop := ∀ key cr, w.crs key = some cr → cr.resourceVersion ≤ w.version

theorem Bounded.put (hw : w.Bounded) {o : Option ContainerStorageModule}
    (ho : ∀ cr, o = some cr → cr.resourceVersion = w.version + 1) : (w.put key o).Bounded := by
  intro k cr hcr
  have hcr' : Function.update w.crs key o k = some cr := hcr
  show cr.resourceVersion ≤ w.version + 1
  by_cases hk : k = key
  · subst hk
    rw [Function.update_self] at hcr'
    exact Nat.le_of_eq (ho cr hcr')
  · rw [Function.update_of_ne hk] at hcr'
    exact Nat.le_trans (hw k cr hcr') (Nat.le_succ _)

theorem bounded_of_respond {q : Request} {r : q.Answer} (hw : w.Bounded)
    (h : w.respond q c = some (r, w')) : w'.Bounded := by
  by_cases hq : Writes q
  · cases q with
    | updateCSM cr =>
        rcases of_updateCSM h with ⟨rfl, -⟩ | ⟨stored, -, -, -, rfl⟩
        · exact hw
        · refine hw.put fun cr' hcr' => ?_
          unfold kept at hcr'
          split at hcr' <;> cases hcr'
          rfl
    | updateCSMStatus cr =>
        rcases of_updateCSMStatus h with ⟨rfl, -⟩ | ⟨stored, -, -, -, rfl⟩
        · exact hw
        · refine hw.put fun cr' hcr' => ?_
          cases hcr'
          rfl
    | _ => exact hq.elim
  · obtain ⟨hcrs, hversion⟩ := crs_of_respond hq h
    intro key cr hcr
    rw [hversion]
    exact hw key cr (hcrs ▸ hcr)

/-- What is stored under a key is as it was, or has a version that was not given out before. -/
theorem newer_of_respond {q : Request} {r : q.Answer} (h : w.respond q c = some (r, w'))
    (key : NamespacedName) : w.version ≤ w'.version ∧ (w'.crs key = w.crs key ∨
      ∀ s, w'.crs key = some s → w.version < s.resourceVersion) := by
  have hput : ∀ k o, (∀ s, o = some s → w.version < s.resourceVersion) → w' = w.put k o →
      w.version ≤ w'.version ∧ (w'.crs key = w.crs key ∨
        ∀ s, w'.crs key = some s → w.version < s.resourceVersion) := by
    rintro k o ho rfl
    refine ⟨Nat.le_succ _, ?_⟩
    by_cases hk : key = k
    · subst hk
      refine .inr fun s hs => ho s ?_
      have hs : Function.update w.crs key o key = some s := hs
      rwa [Function.update_self] at hs
    · exact .inl (Function.update_of_ne hk _ _)
  by_cases hq : Writes q
  · cases q with
    | updateCSM cr =>
        rcases of_updateCSM h with ⟨rfl, -⟩ | ⟨stored, -, -, -, hw⟩
        · exact ⟨Nat.le_refl _, .inl rfl⟩
        · refine hput _ _ (fun s hs => ?_) hw
          unfold kept at hs
          split at hs <;> cases hs
          exact Nat.lt_succ_self _
    | updateCSMStatus cr =>
        rcases of_updateCSMStatus h with ⟨rfl, -⟩ | ⟨stored, -, -, -, hw⟩
        · exact ⟨Nat.le_refl _, .inl rfl⟩
        · refine hput _ _ (fun s hs => ?_) hw
          cases hs
          exact Nat.lt_succ_self _
    | _ => exact hq.elim
  · obtain ⟨hcrs, hversion⟩ := crs_of_respond hq h
    exact ⟨Nat.le_of_eq hversion.symm, .inl (congrFun hcrs key)⟩

theorem newer_of_drift (h : Drift kinds w w') (key : NamespacedName) :
    w.version ≤ w'.version ∧ (w'.crs key = w.crs key ∨
      ∀ s, w'.crs key = some s → w.version < s.resourceVersion) := by
  refine ⟨h.version, ?_⟩
  have hedit := h.crs key
  generalize w.crs key = o, w'.crs key = o' at hedit
  cases hedit with
  | untouched => exact .inl rfl
  | edited _ _ _ _ hnew =>
      refine .inr fun s hs => ?_
      cases hs
      exact hnew
  | created _ _ _ _ hnew =>
      refine .inr fun s hs => ?_
      cases hs
      exact hnew
  | removed _ => exact .inr fun _ hs => (Option.some_ne_none _ hs.symm).elim

/-- The requests that can change the map of the stop channels or the watches. -/
def Rewires : Request → Prop
  | .startInformers _ _ | .storeChannel _ _ | .deleteChannel _ | .closeChannel _ => True
  | _ => False

/-- Other requests leave the watches alone. -/
theorem wiring_of_respond {q : Request} {r : q.Answer} (hq : ¬ Rewires q)
    (h : w.respond q c = some (r, w')) : w'.channels = w.channels ∧ w'.watches = w.watches := by
  have hread : w' = w → w'.channels = w.channels ∧ w'.watches = w.watches := by
    rintro rfl
    exact ⟨rfl, rfl⟩
  cases q with
  | startInformers => exact absurd trivial hq
  | storeChannel => exact absurd trivial hq
  | deleteChannel => exact absurd trivial hq
  | closeChannel => exact absurd trivial hq
  | updateCSM cr =>
      rcases of_updateCSM h with ⟨rfl, -⟩ | ⟨_, -, -, -, rfl⟩ <;> exact ⟨rfl, rfl⟩
  | updateCSMStatus cr =>
      rcases of_updateCSMStatus h with ⟨rfl, -⟩ | ⟨_, -, -, -, rfl⟩ <;> exact ⟨rfl, rfl⟩
  | updateDeployment d =>
      simp only [respond] at h
      split at h <;> cases h <;> exact ⟨rfl, rfl⟩
  | lock m =>
      simp only [respond, lock] at h
      split at h <;> cases h
      exact ⟨rfl, rfl⟩
  | panic => cases h
  | getCSM => exact hread (of_truthful h).1
  | getDeployment => exact hread (of_truthful h).1
  | listDeployments => exact hread (of_truthful h).1
  | getDaemonSet => exact hread (of_truthful h).1
  | listPods => exact hread (of_truthful h).1
  | _ => cases h; exact ⟨rfl, rfl⟩

/-- The mutexes after a request. -/
def locked (held : Mutex → Bool) : Request → Mutex → Bool
  | .lock m => Function.update held m true
  | .unlock m => Function.update held m false
  | _ => held

theorem of_lock {m : Mutex} {r : Unit} (h : w.respond (.lock m) c = some (r, w')) :
    w.held m = false ∧ w' = { w with held := Function.update w.held m true } := by
  simp only [respond, lock] at h
  split at h
  next => cases h
  next hfree =>
    cases h
    exact ⟨Bool.eq_false_iff.mpr hfree, rfl⟩

theorem held_of_respond {q : Request} {r : q.Answer} (h : w.respond q c = some (r, w')) :
    w'.held = locked w.held q := by
  have hread : w' = w → w'.held = w.held := fun heq => heq ▸ rfl
  cases q with
  | updateCSM cr => rcases of_updateCSM h with ⟨rfl, -⟩ | ⟨_, -, -, -, rfl⟩ <;> rfl
  | updateCSMStatus cr => rcases of_updateCSMStatus h with ⟨rfl, -⟩ | ⟨_, -, -, -, rfl⟩ <;> rfl
  | updateDeployment d =>
      simp only [respond] at h
      split at h <;> cases h <;> rfl
  | lock m =>
      obtain ⟨-, rfl⟩ := of_lock h
      rfl
  | closeChannel ch =>
      simp only [respond, closeChannel] at h
      split at h <;> cases h
      rfl
  | panic => cases h
  | getCSM => exact hread (of_truthful h).1
  | getDeployment => exact hread (of_truthful h).1
  | listDeployments => exact hread (of_truthful h).1
  | getDaemonSet => exact hread (of_truthful h).1
  | listPods => exact hread (of_truthful h).1
  | _ => cases h; rfl

/-- A channel that is closed was open. -/
theorem of_closeChannel {ch : Chan} {r : Unit} (h : w.respond (.closeChannel ch) c = some (r, w')) :
    ∃ name, w.watches[ch]? = some (name, true) ∧
      w' = { w with watches := w.watches.set ch (name, false) } := by
  simp only [respond, closeChannel] at h
  split at h
  next name hopen =>
    cases h
    exact ⟨name, hopen, rfl⟩
  next => cases h

/-- Every stored CR has the key it is stored under. -/
def KeyStored (w : World) : Prop := ∀ key cr, w.crs key = some cr → cr.key = key

theorem keyStored_of_respond {q : Request} {r : q.Answer} (hw : w.KeyStored)
    (h : w.respond q c = some (r, w')) : w'.KeyStored :=
  stored_of_respond hw (fun _ _ _ _ _ => rfl) (fun _ _ _ _ hkey => hkey) h

theorem keyStored_of_drift (hw : w.KeyStored) (h : Drift kinds w w') : w'.KeyStored :=
  stored_of_drift hw (fun _ _ _ hfits _ _ _ => hfits.key_eq) (fun _ _ hfits _ _ => hfits.key_eq) h

end World

end CsmOperator
