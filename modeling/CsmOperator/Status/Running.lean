import Mathlib
import CsmOperator.World.Cluster

/-!
# When `calculateState` reports a driver as running

The verdict is put together from counts that travel as texts: an error or a missing object becomes a
default text, and the texts are compared. Followed through all three functions, `calculateState`
reports a driver CR as running exactly when

* the controller lookup failed, or its `status.replicas` and `status.availableReplicas` agree,
* the node DaemonSet and its pods were read and as many pods are running and ready as are desired
  (`nodeStatusOf_good_iff`; not asked of COSI), and
* the enabled modules that have a status check pass it.

The node side is sound: a failed read leaves an empty text, which no count is equal to. The
controller side is not. A failed or empty lookup leaves `0` of `0`, and `spec.replicas` is not looked
at, so a driver can be reported as running without a controller Deployment.
-/

namespace Go

theorem itoa_inj {m n : Int} : itoa m = itoa n ↔ m = n := Int.repr_inj

theorem itoa_ne_empty (n : Int) : itoa n ≠ "" := by
  cases n with
  | ofNat n => exact Nat.repr_ne_empty
  | negSucc n =>
      intro h
      have hlist := congrArg String.toList h
      simp [itoa, toString, Int.repr] at hlist

end Go

namespace CsmOperator

open Go

variable {cl : Cluster} {faults : FaultPlan} {cr : ContainerStorageModule} {n : Nat} {rt : Runtime}

/-! ## The two objects a driver is judged by -/

/-- The controller Deployment exists and as many replicas are available as its spec asks for. -/
def ControllerAvailable (cl : Cluster) (cr : ContainerStorageModule) : Prop :=
  ∃ d, cl.getDeployment ⟨cr.namesp, cr.getControllerName⟩ = .ok d ∧
    d.replicas = some d.availableReplicas

/-- The number of node pods that are running and ready. -/
def readyNodePods (cl : Cluster) (cr : ContainerStorageModule) : Nat :=
  (cl.listPods cr.namesp cr.getNodeName).countP Pod.isRunningAndReady

/-- The node DaemonSet exists and as many of its pods are running and ready as are scheduled. -/
def NodesReady (cl : Cluster) (cr : ContainerStorageModule) : Prop :=
  ∃ ds, cl.getDaemonSet ⟨cr.namesp, cr.getNodeName⟩ = .ok ds ∧
    (readyNodePods cl cr : Int) = ds.desiredNumberScheduled

/-! ## The controller lookup -/

theorem readFrom_controllerStatusOf (h : IsDriverCR cr) :
    readFrom cl faults (controllerStatusOf cr none) n =
      some (lookupStatus (orFault (faults n)
        (cl.getDeployment ⟨cr.namesp, cr.getControllerName⟩)), n + 1) := by
  have hcond : (cr.name = "" || isAuthorizationProxyServer cr) = false := by
    simp [h.name_ne, h.not_proxy]
  simp only [controllerStatusOf, getDeploymentStatus, hcond, Bool.false_eq_true, if_false,
    readFrom_bind, readFrom_getDeployment, Option.bind_some]
  cases orFault (faults n) (cl.getDeployment ⟨cr.namesp, cr.getControllerName⟩) <;> rfl

/-- Desired and available agree when the lookup failed, and when the Deployment's own status counts
only the replicas that are available. -/
theorem lookupStatus_agrees_iff {r : Except GoError Deployment} :
    (lookupStatus r).desired = (lookupStatus r).available ↔
      ∀ d, r = .ok d → d.statusReplicas = d.availableReplicas := by
  cases r with
  | error e => simp [lookupStatus, emptyStatus]
  | ok d =>
      simp only [lookupStatus, replicaStatus, Except.ok.injEq, forall_eq']
      exact itoa_inj

/-! ## The node side -/

theorem totalRunning_tallyPod (t : PodTally) (p : Pod) :
    (tallyPod t p).totalRunning = t.totalRunning + if p.isRunningAndReady then 1 else 0 := by
  unfold tallyPod
  split_ifs <;> rfl

/-- The loop counts the pods that are running and ready. -/
theorem totalRunning_tallyPods (pods : List Pod) :
    (tallyPods pods).totalRunning = pods.countP Pod.isRunningAndReady := by
  suffices h : ∀ t, (pods.foldl tallyPod t).totalRunning =
      t.totalRunning + pods.countP Pod.isRunningAndReady by
    simpa [tallyPods] using h {}
  induction pods with
  | nil => simp
  | cons p pods ih =>
      intro t
      rw [List.foldl_cons, ih, totalRunning_tallyPod, List.countP_cons]
      omega

/-- What the node part of `calculateState` comes to for a driver with nodes: it always returns, and
its verdict is positive exactly when both reads went through and the nodes are ready. -/
theorem nodeStatusOf_good_iff (cl : Cluster) (faults : FaultPlan) (n : Nat)
    (hdrv : checksNodes cr = true) :
    ∃ x m, readFrom cl faults (nodeStatusOf cr) n = some (x, m) ∧
      (∃ st, x.1 = cr.setNodeStatus st) ∧
      (x.2.1 = true ↔ faults n = none ∧ faults (n + 1) = none ∧ NodesReady cl cr) ∧
      (x.2.1 = true → m = n + 2) := by
  have hempty : ∀ m : Int, itoa m ≠ ({} : PodStatus).available := itoa_ne_empty
  simp only [nodeStatusOf, hdrv, if_true, getDaemonSetStatus, readFrom_bind, readFrom_getDaemonSet,
    Option.bind_some]
  cases hf : faults n with
  | some e => exact ⟨_, _, rfl, ⟨_, rfl⟩, by simp [hempty], by simp [hempty]⟩
  | none =>
      cases hds : cl.getDaemonSet ⟨cr.namesp, cr.getNodeName⟩ with
      | error e =>
          exact ⟨_, _, rfl, ⟨_, rfl⟩, by simp [hempty, NodesReady, hds], by simp [hempty]⟩
      | ok ds =>
          simp only [orFault_none, readFrom_bind, readFrom_listPods, Option.bind_some]
          cases hf' : faults (n + 1) with
          | some e => exact ⟨_, _, rfl, ⟨_, rfl⟩, by simp [hempty], by simp [hempty]⟩
          | none =>
              refine ⟨_, _, rfl, ⟨_, rfl⟩, ?_, fun _ => rfl⟩
              simp only [totalRunning_tallyPods, itoa_inj, NodesReady, hds, decide_eq_true_eq,
                Except.ok.injEq, exists_eq_left', true_and]
              exact eq_comm

/-- The reads of the node part went through and found the nodes ready, if there are nodes. -/
def NodesCounted (cl : Cluster) (faults : FaultPlan) (cr : ContainerStorageModule) : Prop :=
  checksNodes cr = true → faults 1 = none ∧ faults 2 = none ∧ NodesReady cl cr

/-- How many reads are made before the modules are checked. -/
def readsBeforeModules (cr : ContainerStorageModule) : Nat := if checksNodes cr then 3 else 1

/-- The node part of `calculateState` after the controller lookup, with or without nodes. -/
theorem nodeStatusOf_spec (cl : Cluster) (faults : FaultPlan) (cr : ContainerStorageModule)
    (st : ContainerStorageModuleStatus) :
    ∃ st' good err m, readFrom cl faults (nodeStatusOf (cr.withStatus st)) 1 =
        some ((cr.withStatus st', good, err), m) ∧
      st'.state = st.state ∧ (good = true ↔ NodesCounted cl faults cr) ∧
      (good = true → m = readsBeforeModules cr) := by
  by_cases hn : checksNodes cr = true
  · obtain ⟨⟨_, good, err⟩, m, hx, ⟨ps, rfl⟩, hgood, hm⟩ :=
      @nodeStatusOf_good_iff (cr.withStatus st) cl faults 1 hn
    refine ⟨_, good, err, m, hx, rfl, ?_, fun h => ?_⟩
    · rw [NodesCounted, forall_prop_of_true hn]
      exact hgood
    · rw [hm h, readsBeforeModules, if_pos hn]
  · have hn' : checksNodes (cr.withStatus st) = false := Bool.eq_false_iff.mpr hn
    refine ⟨st, true, none, 1, ?_, rfl, ?_, fun _ => ?_⟩
    · rw [nodeStatusOf, if_neg (by simp [hn'])]
      rfl
    · simp [NodesCounted, hn]
    · rw [readsBeforeModules, if_neg hn]

/-! ## The verdict -/

/-- The module checks look at the identity and the spec of the CR only. -/
theorem modulesRunning_congr {a b : ContainerStorageModule} (hkey : a.key = b.key)
    (hspec : a.spec = b.spec) (op : OperatorConfig) (ms : List Module) :
    modulesRunning op a ms = modulesRunning op b ms := by
  obtain ⟨hnamesp, hname⟩ := NamespacedName.mk.inj hkey
  have hcheck : ∀ name, checkModuleStatus op a name = checkModuleStatus op b name := by
    intro name
    cases a
    cases b
    simp only at hnamesp hname hspec
    subst hnamesp hname hspec
    cases name <;> rfl
  induction ms with
  | nil => rfl
  | cons m ms ih => simp only [modulesRunning, hcheck, ih]

/-- Every enabled module that has a status check passes it. -/
def ModulesPass (rt : Runtime) (cl : Cluster) (faults : FaultPlan) (cr : ContainerStorageModule) :
    Prop :=
  ∃ m, readFrom cl faults (modulesRunning rt.op cr cr.spec.modules) (readsBeforeModules cr) =
    some (true, m)

/-- `calculateState` without an override returns `running = true` and sets the state `Succeeded`. -/
def ReportsRunning (rt : Runtime) (cl : Cluster) (faults : FaultPlan)
    (cr : ContainerStorageModule) : Prop :=
  ∃ cr' err m, readFrom cl faults (calculateState rt cr none) 0 = some ((cr', true, err), m) ∧
    cr'.status.state = .succeeded

/-- What the controller lookup of `calculateState` comes back with. -/
def controllerLookup (cl : Cluster) (faults : FaultPlan) (cr : ContainerStorageModule) :
    Except GoError Deployment :=
  orFault (faults 0) (cl.getDeployment ⟨cr.namesp, cr.getControllerName⟩)

/-- The checks `calculateState` makes of a driver, in terms of the cluster: the controller lookup
failed or shows as many replicas as are available, the nodes are counted as ready, and the modules
pass. -/
def PassesChecks (rt : Runtime) (cl : Cluster) (faults : FaultPlan)
    (cr : ContainerStorageModule) : Prop :=
  (∀ d, controllerLookup cl faults cr = .ok d → d.statusReplicas = d.availableReplicas) ∧
    NodesCounted cl faults cr ∧ ModulesPass rt cl faults cr

theorem passesChecks_congr {a b : ContainerStorageModule} (hkey : a.key = b.key)
    (hspec : a.spec = b.spec) : PassesChecks rt cl faults a ↔ PassesChecks rt cl faults b := by
  have hmod : ∀ op ms, modulesRunning op a ms = modulesRunning op b ms :=
    modulesRunning_congr hkey hspec
  obtain ⟨hnamesp, hname⟩ := NamespacedName.mk.inj hkey
  cases a
  cases b
  simp only at hnamesp hname hspec
  subst hnamesp hname hspec
  unfold PassesChecks ModulesPass
  simp only [hmod]
  rfl

open Classical in
/-- `calculateState` on a driver CR: the modules are asked when controller and nodes are fine, and
their answer is the verdict. -/
theorem readFrom_calculateState (h : IsDriverCR cr) :
    ∃ cr' err n, cr'.status.state = .succeeded ∧
      readFrom cl faults (calculateState rt cr none) 0 =
        (if (∀ d, controllerLookup cl faults cr = .ok d → d.statusReplicas = d.availableReplicas) ∧
            NodesCounted cl faults cr then
          readFrom cl faults (modulesRunning rt.op cr cr.spec.modules) (readsBeforeModules cr)
        else some (false, n)).map fun x => ((settleState rt cr' x.1, x.1, err), x.2) := by
  have h' : IsDriverCR (cr.setState .succeeded) := ⟨h.name_ne, h.not_proxy⟩
  obtain ⟨st, good, err, n, hnode, hstate, hgood, hn⟩ :=
    nodeStatusOf_spec cl faults cr { cr.status with state := .succeeded }
  have hnode' : readFrom cl faults (nodeStatusOf (cr.setState .succeeded)) 1 =
      some ((cr.withStatus st, good, err), n) := hnode
  have hlookup : readFrom cl faults (controllerStatusOf (cr.setState .succeeded) none) 0 =
      some (lookupStatus (controllerLookup cl faults cr), 1) := readFrom_controllerStatusOf h'
  rw [← lookupStatus_agrees_iff, ← hgood]
  generalize lookupStatus (controllerLookup cl faults cr) = status at hlookup ⊢
  set cr' := cr.withStatus { st with controllerStatus := status } with hcr'
  have hmod : ∀ ms, modulesRunning rt.op cr' ms = modulesRunning rt.op cr ms :=
    @modulesRunning_congr cr' cr rfl rfl rt.op
  refine ⟨cr', err, n, hstate, ?_⟩
  simp only [calculateState, readFrom_bind, hlookup, hnode', Option.bind_some, moduleVerdict,
    ContainerStorageModule.setControllerStatus, ContainerStorageModule.withStatus_withStatus,
    ContainerStorageModule.withStatus_status, ← hcr', hmod, Bool.and_eq_true, decide_eq_true_eq,
    readFrom_note, readFrom_pure]
  split_ifs with hpods
  · rw [hn hpods.2, Option.map_eq_bind]
    rfl
  · rfl

/-- **The verdict of `calculateState`.** -/
theorem calculateState_verdict (h : IsDriverCR cr) {cr' : ContainerStorageModule} {running : Bool}
    {err : Option GoError}
    (hread : readFrom cl faults (calculateState rt cr none) 0 = some ((cr', running, err), n)) :
    running = true ↔ PassesChecks rt cl faults cr := by
  obtain ⟨cr₁, err₁, n₁, hstate, heq⟩ := @readFrom_calculateState cl faults cr rt h
  rw [hread] at heq
  unfold PassesChecks
  split_ifs at heq with hpods
  · obtain ⟨⟨verdict, k⟩, hmod, hret⟩ := Option.map_eq_some_iff.mp heq.symm
    simp only [Prod.mk.injEq] at hret
    obtain ⟨⟨-, rfl, -⟩, -⟩ := hret
    rw [← and_assoc, and_iff_right hpods, ModulesPass, hmod]
    simp
  · simp only [Option.map_some, Option.some.injEq, Prod.mk.injEq] at heq
    obtain ⟨⟨-, rfl, -⟩, -⟩ := heq
    rw [← and_assoc, iff_false_right fun hall => hpods hall.1]
    decide

theorem reportsRunning_iff (h : IsDriverCR cr) :
    ReportsRunning rt cl faults cr ↔ PassesChecks rt cl faults cr := by
  constructor
  · rintro ⟨cr', err, m, hread, -⟩
    exact (calculateState_verdict h hread).mp rfl
  · intro hpass
    obtain ⟨cr₁, err₁, n₁, hstate, heq⟩ := @readFrom_calculateState cl faults cr rt h
    rw [if_pos ⟨hpass.1, hpass.2.1⟩] at heq
    obtain ⟨m, hmod⟩ := hpass.2.2
    rw [hmod] at heq
    exact ⟨_, _, _, heq, by rw [settleState_state, if_pos rfl, hstate]⟩

/-! ## Where the verdict goes wrong -/

/-- The controller is not available and the lookup does not show it: the Deployment is missing, or
its read fails, or its status counts no other replicas than the available ones. -/
def ControllerUnseen (cl : Cluster) (faults : FaultPlan) (cr : ContainerStorageModule) : Prop :=
  match cl.getDeployment ⟨cr.namesp, cr.getControllerName⟩ with
  | .error _ => True
  | .ok d => d.replicas ≠ some d.availableReplicas ∧
      (faults 0 ≠ none ∨ d.statusReplicas = d.availableReplicas)

theorem controllerUnseen_iff :
    ControllerUnseen cl faults cr ↔ ¬ ControllerAvailable cl cr ∧
      ∀ d, controllerLookup cl faults cr = .ok d → d.statusReplicas = d.availableReplicas := by
  unfold ControllerUnseen ControllerAvailable controllerLookup
  cases cl.getDeployment ⟨cr.namesp, cr.getControllerName⟩ with
  | error e => cases faults 0 <;> simp
  | ok d => cases faults 0 <;> simp

/-- A driver CR that `calculateState` reports as running has its controller available and its nodes
ready, exactly unless the controller is unavailable without the lookup showing it while the nodes
and the modules are as they should be. -/
theorem reported_running_iff_available (h : IsDriverCR cr) :
    (ReportsRunning rt cl faults cr →
      ControllerAvailable cl cr ∧ (cr.spec.driver.csiDriverType ≠ .cosi → NodesReady cl cr)) ↔
    ¬ (ControllerUnseen cl faults cr ∧ NodesCounted cl faults cr ∧ ModulesPass rt cl faults cr) := by
  rw [reportsRunning_iff h, PassesChecks, controllerUnseen_iff]
  have hnodes : NodesCounted cl faults cr → cr.spec.driver.csiDriverType ≠ .cosi →
      NodesReady cl cr := fun hn hcosi =>
    (hn (by simp [checksNodes, h.name_ne, h.not_proxy, hcosi])).2.2
  tauto

/-- A PowerScale CR. -/
def isilonCR : ContainerStorageModule :=
  { name := "isilon", namesp := "dell", spec := { driver := { csiDriverType := .powerScale } } }

/-- A cluster with the node pod of that CR up and no controller Deployment. -/
def nodesOnlyCluster : Cluster :=
  { daemonSets := [{ name := "isilon-node", namesp := "dell", desiredNumberScheduled := 1 }]
    pods := [{ name := "isilon-node-x7k2p", namesp := "dell"
               labels := some fun k => if k = "app" then some "isilon-node" else none
               conditions := [⟨"Ready", .true⟩] }] }

/-- The theorem at a cluster where the controller is down and the lookup shows it. -/
theorem reported_running_iff_available_scaled_down :
    let cl : Cluster := { nodesOnlyCluster with deployments :=
      [{ name := "isilon-controller", namesp := "dell", replicas := some 2, statusReplicas := 2 }] }
    IsDriverCR isilonCR ∧
    (ReportsRunning shippedRuntime cl (fun _ => none) isilonCR →
      ControllerAvailable cl isilonCR ∧
        (isilonCR.spec.driver.csiDriverType ≠ .cosi → NodesReady cl isilonCR)) :=
  ⟨⟨by decide, by decide⟩, (reported_running_iff_available ⟨by decide, by decide⟩).mpr fun h => by
    rcases h.1.2 with h0 | h0
    · exact h0 rfl
    · exact absurd h0 (by decide)⟩

/-- Without a controller Deployment the driver is reported as running. -/
theorem reports_running_without_controller :
    IsDriverCR isilonCR ∧
    ReportsRunning shippedRuntime nodesOnlyCluster (fun _ => none) isilonCR ∧
    ¬ ControllerAvailable nodesOnlyCluster isilonCR := by
  refine ⟨⟨by decide, by decide⟩, ⟨_, _, _, rfl, rfl⟩, ?_⟩
  rintro ⟨d, hd, -⟩
  cases hd

end CsmOperator
