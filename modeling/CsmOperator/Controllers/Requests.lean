import CsmOperator.Controllers.Reconcile

/-!
# What the parts of the operator can ask

Most of the operator's requests read workload objects or call abstract parts. For properties about
the CR, the locks and the watches they are noise: a request is *inert* if it is of that kind. The
first half of this module shows which functions make only inert requests, and what they return.

The second half turns that into rules for monitors: for a monitor that tolerates inert requests, what
is left to check of the larger functions are the few requests that are not inert.
-/

namespace CsmOperator

open Interaction

/-- Reads of workload objects. A nil pointer that is followed on the way stops the program. -/
def WorkloadRead : Request → Prop
  | .getDeployment _ | .listDeployments _ | .getDaemonSet _ | .listPods _ _ | .panic => True
  | _ => False

/-- Requests that neither touch a CR, a lock or a watch, nor report anything. -/
def Inert : Request → Prop
  | .updateDeployment _ | .action _ _ | .isReverseProxySidecar | .unixNano => True
  | q => WorkloadRead q

theorem WorkloadRead.inert {q : Request} (h : WorkloadRead q) : Inert q := by
  cases q <;> first | exact h | exact h.elim

/-- The actions that may create something: those that only `SyncCSM` calls, to install. -/
def Action.installs : Action → Bool
  | .precheckDriver _ | .zoneValidation | .precheckModule _ => false
  | .resolveVersionFromConfigMap | .getDriverConfig | .isHarvester => false
  | .deleteReplicationCrds | .deleteReplicationConfigmap | .removeDriverFromCluster
  | .patchCSMDRCRDs => false
  | .reconcileAuthorization isDeleting | .reconcileReverseProxyServer isDeleting
  | .replicationManagerController isDeleting | .reconcileObservability isDeleting _
  | .reverseProxyStartService isDeleting | .syncMetricsResources isDeleting => !isDeleting
  | _ => true

/-- Inert requests that install nothing. -/
def Quiet : Request → Prop
  | .action a _ => a.installs = false
  | q => Inert q

/-- The actions of the prechecks. -/
def Action.checks : Action → Bool
  | .precheckDriver _ | .zoneValidation | .precheckModule _ => true
  | _ => false

/-- What the prechecks ask. -/
def Checking : Request → Prop
  | .action a _ => a.checks = true
  | q => WorkloadRead q

/-- Inert requests, with every action for the CR. -/
def InertFor (cr : ContainerStorageModule) : Request → Prop
  | .action _ cr' => cr' = cr
  | q => Inert q

@[simp] theorem quiet_action {a : Action} {cr : ContainerStorageModule} :
    Quiet (.action a cr) ↔ a.installs = false := Iff.rfl

@[simp] theorem inertFor_action {a : Action} {cr cr' : ContainerStorageModule} :
    InertFor cr (.action a cr') ↔ cr' = cr := Iff.rfl

theorem Checking.quiet {q : Request} (h : Checking q) : Quiet q := by
  cases q with
  | action a cr =>
      have hchecks : a.checks = true := h
      cases a <;> first | rfl | cases hchecks
  | _ => first | exact h | exact h.elim

theorem Quiet.inert {q : Request} (h : Quiet q) : Inert q := by
  cases q <;> first | exact h | trivial

theorem InertFor.inert {cr : ContainerStorageModule} {q : Request} (h : InertFor cr q) : Inert q := by
  cases q <;> first | exact h | trivial

/-- The program makes only requests in `P` and returns only values in `φ`. -/
abbrev Asks {α : Type} (P : Request → Prop) (φ : α → Prop) (p : Op α) : Prop :=
  Sat (I := Api) P φ p

namespace Asks

variable {α β : Type} {P P' : Request → Prop} {φ : α → Prop} {χ : β → Prop}

theorem mono {p : Op α} (h : Asks P φ p) (hP : ∀ q, P q → P' q) : Asks P' φ p :=
  Sat.mono h hP fun _ ha => ha

theorem weaken {p : Op α} (h : Asks P φ p) : Asks P (fun _ => True) p :=
  Sat.mono h (fun _ hq => hq) fun _ _ => trivial

theorem inert {p : Op α} (h : Asks WorkloadRead φ p) : Asks Inert φ p :=
  h.mono fun _ => WorkloadRead.inert

theorem checking {p : Op α} (h : Asks WorkloadRead φ p) : Asks Checking φ p :=
  h.mono fun q hq => by cases q <;> first | exact hq | exact hq.elim

theorem quiet {p : Op α} (h : Asks WorkloadRead φ p) : Asks Quiet φ p :=
  h.mono fun q hq => by cases q <;> first | exact hq | exact hq.elim

theorem pure {a : α} (h : φ a) : Asks P φ (pure a : Op α) := Sat.pure_iff.mpr h

theorem bind {p : Op α} {f : α → Op β} (hp : Asks P (fun _ => True) p)
    (hf : ∀ a, Asks P χ (f a)) : Asks P χ (p >>= f) := Sat.bind hp fun a _ => hf a

/-- Sequencing, when the second part depends on what the first returned. -/
theorem bind_of {p : Op α} {f : α → Op β} (hp : Asks P φ p)
    (hf : ∀ a, φ a → Asks P χ (f a)) : Asks P χ (p >>= f) := Sat.bind hp hf

theorem ite {c : Prop} [Decidable c] {p q : Op α} (hp : Asks P φ p) (hq : Asks P φ q) :
    Asks P φ (if c then p else q) := by
  split
  · exact hp
  · exact hq

theorem ask (q : Request) (h : P q) : Asks P (fun _ => True) (CsmOperator.ask q) :=
  Sat.call_iff.mpr ⟨h, fun _ => Sat.ret_iff.mpr trivial⟩

theorem getDeployment (key : NamespacedName) :
    Asks WorkloadRead (fun _ => True) (CsmOperator.getDeployment key) :=
  ask (.getDeployment key) trivial

theorem listDeployments (namesp : String) :
    Asks WorkloadRead (fun _ => True) (CsmOperator.listDeployments namesp) :=
  ask (.listDeployments namesp) trivial

theorem getDaemonSet (key : NamespacedName) :
    Asks WorkloadRead (fun _ => True) (CsmOperator.getDaemonSet key) :=
  ask (.getDaemonSet key) trivial

theorem listPods (namesp app : String) :
    Asks WorkloadRead (fun _ => True) (CsmOperator.listPods namesp app) :=
  ask (.listPods namesp app) trivial

theorem deref {o : Option α} : Asks WorkloadRead (fun _ => True) (CsmOperator.deref o) := by
  cases o with
  | some a => exact .pure trivial
  | none => exact Sat.call_iff.mpr ⟨trivial, nofun⟩

theorem isReverseProxySidecar (h : P .isReverseProxySidecar) :
    Asks P (fun _ => True) CsmOperator.isReverseProxySidecar := ask .isReverseProxySidecar h

/-! ### Calls that return an error -/

variable {p q : Op (Option GoError)} {ps : List (Op (Option GoError))}

theorem act {a : Action} {cr : ContainerStorageModule} (h : P (.action a cr)) :
    Asks P (fun _ => True) (CsmOperator.act a cr) := ask (.action a cr) h

theorem wrapAction {text : String} {a : Action} {cr : ContainerStorageModule}
    (h : P (.action a cr)) : Asks P (fun _ => True) (CsmOperator.wrapAction text a cr) :=
  .bind (.act h) fun _ => .pure trivial

theorem orElse (hp : Asks P (fun _ => True) p) (hq : Asks P (fun _ => True) q) :
    Asks P (fun _ => True) (CsmOperator.orElse p q) := by
  refine .bind hp fun err => ?_
  cases err with
  | some e => exact .pure trivial
  | none => exact hq

theorem firstError (h : ∀ p ∈ ps, Asks P (fun _ => True) p) :
    Asks P (fun _ => True) (CsmOperator.firstError ps) := by
  induction ps with
  | nil => exact .pure trivial
  | cons p ps ih =>
      rw [List.forall_mem_cons] at h
      exact .orElse h.1 (ih h.2)

theorem guarded {c : Bool} (h : ∀ p ∈ ps, Asks P (fun _ => True) p) :
    Asks P (fun _ => True) (CsmOperator.guarded c ps) :=
  .ite (.firstError h) (.pure trivial)

theorem logError (hp : Asks P (fun _ => True) p) :
    Asks P (fun _ => True) (CsmOperator.logError p) :=
  .bind hp fun _ => .pure trivial

end Asks

/-! ## Status -/

theorem reads_controllerStatusOf (cr : ContainerStorageModule) (override_ : Option PodStatus) :
    Asks WorkloadRead (fun st => ∀ o, override_ = some o → st = o) (controllerStatusOf cr override_) := by
  cases override_ with
  | some o => exact .pure fun _ h => Option.some.inj h
  | none =>
      refine .bind ?_ fun _ => .pure nofun
      unfold getDeploymentStatus
      refine .ite (.pure trivial) (.bind (.getDeployment _) fun r => ?_)
      cases r <;> exact .pure trivial

theorem reads_getDaemonSetStatus (cr : ContainerStorageModule) :
    Asks WorkloadRead (fun _ => True) (getDaemonSetStatus cr) := by
  refine .bind (.getDaemonSet _) fun r => ?_
  cases r with
  | error e => exact .pure trivial
  | ok ds =>
      refine .bind (.listPods _ _) fun r => ?_
      cases r <;> exact .pure trivial

/-- The node part only sets the node status, and fails only for CRs with nodes. -/
theorem reads_nodeStatusOf (cr : ContainerStorageModule) :
    Asks WorkloadRead (fun x => (∃ ps, x.1 = cr.setNodeStatus ps) ∧
      (checksNodes cr = false → x.2.2 = none)) (nodeStatusOf cr) := by
  unfold nodeStatusOf
  split
  next h =>
    refine .bind (reads_getDaemonSetStatus cr) fun _ => .pure ⟨⟨_, rfl⟩, fun h' => ?_⟩
    rw [h] at h'
    cases h'
  next => exact .pure ⟨⟨cr.status.nodeStatus, rfl⟩, fun _ => rfl⟩

theorem reads_scanDeployments (table : List WatchedName) (ds : List Deployment) :
    Asks WorkloadRead (fun _ => True) (scanDeployments table ds) := by
  induction ds with
  | nil => exact .pure trivial
  | cons d ds ih => exact .ite (.bind .deref fun _ => .ite ih (.pure trivial)) ih

theorem reads_anyComponent (name : String → Bool) (cs : List ContainerTemplate) :
    Asks WorkloadRead (fun _ => True) (anyComponent name cs) := by
  induction cs with
  | nil => exact .pure trivial
  | cons c cs ih =>
      have hrest : ∀ here, Asks WorkloadRead (fun _ => True)
          (do let later ← anyComponent name cs; pure (here || later)) :=
        fun _ => .bind ih fun _ => .pure trivial
      exact .ite (.bind .deref hrest) (hrest _)

theorem reads_observabilityStatusCheck (op : OperatorConfig) (cr : ContainerStorageModule) :
    Asks WorkloadRead (fun _ => True) (observabilityStatusCheck op cr) := by
  refine .bind (reads_anyComponent _ _) fun _ => .bind (reads_anyComponent _ _) fun _ =>
    .bind (reads_anyComponent _ _) fun _ => .bind (reads_anyComponent _ _) fun _ => ?_
  cases getVersion op cr with
  | error e => exact .pure trivial
  | ok v =>
      refine .bind (.listDeployments _) fun r => ?_
      cases r with
      | error e => exact .pure trivial
      | ok ds =>
          refine .bind (reads_scanDeployments _ _) fun _ =>
            .ite (.bind (.listDeployments _) fun r => ?_)
            (.pure trivial)
          cases r with
          | error e => exact .pure trivial
          | ok ds => exact .bind (reads_scanDeployments _ _) fun _ => .pure trivial

theorem reads_authProxyStatusCheck (cr : ContainerStorageModule) :
    Asks WorkloadRead (fun _ => True) (authProxyStatusCheck cr) := by
  refine .bind (reads_anyComponent _ _) fun _ => .bind (reads_anyComponent _ _) fun _ =>
    .bind (reads_anyComponent _ _) fun _ => .bind (.listDeployments _) fun r => ?_
  cases r with
  | error e => exact .pure trivial
  | ok ds => exact .bind (reads_scanDeployments _ _) fun _ => .pure trivial

theorem reads_modulesRunning (op : OperatorConfig) (cr : ContainerStorageModule) (ms : List Module) :
    Asks WorkloadRead (fun _ => True) (modulesRunning op cr ms) := by
  induction ms with
  | nil => exact .pure trivial
  | cons m ms ih =>
      rw [modulesRunning]
      cases hcheck : checkModuleStatus op cr m.name with
      | none => exact ih
      | some check =>
          have hreads : Asks WorkloadRead (fun _ => True) check := by
            cases hm : m.name <;> rw [hm] at hcheck <;> simp [checkModuleStatus] at hcheck
            · exact hcheck ▸ reads_observabilityStatusCheck op cr
            · exact hcheck ▸ reads_authProxyStatusCheck cr
          exact .ite (.bind hreads fun _ => .ite ih (.pure trivial)) ih

theorem reads_moduleVerdict (op : OperatorConfig) (cr : ContainerStorageModule) (good : Bool) :
    Asks WorkloadRead (fun _ => True) (moduleVerdict op cr good) :=
  .ite (reads_modulesRunning op cr _) (.pure trivial)

/-- The end of `calculateState` only changes the status. -/
theorem settleState_eq_withStatus (rt : Runtime) (cr : ContainerStorageModule) (running : Bool) :
    ∃ st, settleState rt cr running = cr.withStatus st := by
  have hfinish : ∀ cr₁ st₁, cr₁ = cr.withStatus st₁ → ∃ st,
      (if isAuthorizationProxyServer cr₁ && cr₁.status.state = .succeeded then
        cr₁.setLastSuccessfulConfiguration (proxyConfiguration rt cr₁) else cr₁) =
      cr.withStatus st := by
    rintro cr₁ st₁ rfl
    split
    · exact ⟨_, rfl⟩
    · exact ⟨_, rfl⟩
  unfold settleState
  split
  · exact hfinish cr cr.status rfl
  · exact hfinish _ _ rfl

/-- The reads and the report of `calculateState`. -/
def Calculation : Request → Prop
  | .note (.calculated _ _ _) => True
  | q => WorkloadRead q

theorem Asks.calculation {α : Type} {φ : α → Prop} {p : Op α} (h : Asks WorkloadRead φ p) :
    Asks Calculation φ p :=
  h.mono fun q hq => by cases q <;> first | exact hq | exact hq.elim

/-- The statuses `calculateState` can come to from that of `cr`, before the verdict is settled. -/
structure Recalculated (cr : ContainerStorageModule) (st : ContainerStorageModuleStatus) : Prop where
  state : st.state = .succeeded
  configuration : st.lastSuccessfulConfiguration = cr.status.lastSuccessfulConfiguration

theorem calculation_calculateState (rt : Runtime) (cr : ContainerStorageModule)
    (override_ : Option PodStatus) :
    Asks Calculation (fun x =>
      (∃ st, Recalculated cr st ∧ x.1 = settleState rt (cr.withStatus st) x.2.1) ∧
        (checksNodes cr = false → x.2.2 = none)) (calculateState rt cr override_) := by
  refine .bind_of (reads_controllerStatusOf _ _).calculation fun status _ => ?_
  refine .bind_of (reads_nodeStatusOf _).calculation fun ⟨cr₁, good, err⟩ ⟨⟨ps, hps⟩, herr⟩ => ?_
  refine .bind_of (reads_moduleVerdict _ _ _).calculation fun running _ => ?_
  refine .bind (.ask (.note (.calculated _ _ _)) trivial) fun _ => .pure ⟨?_, herr⟩
  subst hps
  exact ⟨{ cr.status with state := .succeeded, nodeStatus := ps, controllerStatus := status },
    ⟨rfl, rfl⟩, rfl⟩

/-! ## Prechecks -/

theorem checking_precheckDriver (cr : ContainerStorageModule) :
    Asks Checking (fun _ => True) (precheckDriver cr) := by
  unfold precheckDriver
  dsimp only
  split
  · refine .orElse (.wrapAction rfl) ?_
    exact .ite (.wrapAction rfl) (.pure trivial)
  · split <;> exact .pure trivial

theorem checking_checkOwnerReference (cr : ContainerStorageModule) :
    Asks Checking (fun _ => True) (checkOwnerReference cr) := by
  refine .bind (Asks.getDeployment _).checking fun r => ?_
  cases r with
  | error e => exact .pure trivial
  | ok d =>
      dsimp only
      cases d.ownerReferences with
      | none => exact .pure trivial
      | some refs =>
          dsimp only
          split <;> exact .pure trivial

theorem checking_precheckModules (cr : ContainerStorageModule) (ms : List Module) :
    Asks Checking (fun _ => True) (precheckModules cr ms) := by
  induction ms with
  | nil => exact .pure trivial
  | cons m ms ih =>
      refine .ite (.orElse ?_ ih) ih
      unfold precheckModule
      cases modulePrecheckName m.name with
      | some name => exact .wrapAction rfl
      | none => exact .pure trivial

theorem checking_checkRegistryOwnerModules (rt : Runtime) (cr : ContainerStorageModule) :
    Asks Checking (fun _ => True) (checkRegistryOwnerModules rt cr) := by
  unfold checkRegistryOwnerModules
  cases validateCustomRegistry rt cr.spec.customRegistry with
  | some e => exact .pure trivial
  | none => exact .orElse (checking_checkOwnerReference cr) (checking_precheckModules cr _)

/-- A CR passes the prechecks only with an upgrade check that returned no error. -/
theorem checking_preChecks (rt : Runtime) (cr : ContainerStorageModule) :
    Asks Checking (fun x => (x.1 = cr ∨ x.1 = afterDriverPrecheck cr) ∧
        (x.2 = none → x.1 = afterDriverPrecheck cr ∧ (checkUpgrade rt.op x.1).2 = none))
      (preChecks rt cr) := by
  refine .bind (checking_precheckDriver cr) fun err => ?_
  cases err with
  | some e => exact .pure ⟨.inl rfl, nofun⟩
  | none =>
      dsimp only
      split
      next e hup => exact .pure ⟨.inr rfl, nofun⟩
      next hup => exact .pure ⟨.inr rfl, fun _ => ⟨rfl, congrArg Prod.snd hup⟩⟩
      next hup =>
        refine .bind (checking_checkRegistryOwnerModules rt _) fun err => ?_
        exact .pure ⟨.inr rfl, fun _ => ⟨rfl, congrArg Prod.snd hup⟩⟩

theorem quiet_preChecks (rt : Runtime) (cr : ContainerStorageModule) :
    Asks Quiet (fun x => (x.1 = cr ∨ x.1 = afterDriverPrecheck cr) ∧
        (x.2 = none → x.1 = afterDriverPrecheck cr ∧ (checkUpgrade rt.op x.1).2 = none))
      (preChecks rt cr) :=
  (checking_preChecks rt cr).mono fun _ => Checking.quiet

/-! ## Installation and removal -/

/-- There is nothing to go on with only for a proxy server or without a driver. -/
def SyncedEarly (cr : ContainerStorageModule) : Prop :=
  (isModuleEnabled cr .authorizationServer).isSome = true ∨ cr.spec.driver.csiDriverType = .unset

/-- The end of `syncModules`, once it is known whether the reverse proxy stands alone. -/
theorem inertFor_syncModules_end (cr : ContainerStorageModule) (standalone : Bool) :
    Asks (InertFor cr) (fun x => x = .ok false → SyncedEarly cr) (do
      match ← firstError
          [guarded standalone [wrapAction "failed to deploy reverseproxy proxy server: "
              (.reconcileReverseProxyServer false) cr],
            guarded (isModuleEnabled cr .replication).isSome
              [wrapAction "failed to deploy replication CRDs: " .reconcileReplicationCRDS cr],
            guarded (cr.spec.driver.csiDriverType ≠ .unset) [act .getDriverConfig cr]] with
      | some e => pure (Except.error e)
      | none => pure (.ok (decide (cr.spec.driver.csiDriverType ≠ .unset)))) := by
  refine .bind (.firstError (by simp [Asks.guarded, Asks.wrapAction, Asks.act])) fun err => ?_
  cases err with
  | some e => exact .pure nofun
  | none =>
      refine .pure fun h => .inr ?_
      simpa using Except.ok.inj h

theorem inertFor_syncModules (cr : ContainerStorageModule) :
    Asks (InertFor cr) (fun x => x = .ok false → SyncedEarly cr) (syncModules cr) := by
  refine .bind (.guarded (by simp [Asks.act])) fun err => ?_
  cases err with
  | some e => exact .pure nofun
  | none =>
      dsimp only
      split
      next hauth =>
        refine .bind (.firstError (by simp [Asks.wrapAction])) fun err => ?_
        cases err with
        | some e => exact .pure nofun
        | none => exact .pure fun _ => .inl hauth
      next =>
        exact .ite (.bind (.isReverseProxySidecar trivial) fun _ => inertFor_syncModules_end cr _)
          (inertFor_syncModules_end cr _)

theorem quiet_isModuleComponentEnabled (cr : ContainerStorageModule) (mod : ModuleType)
    (name : String) : Asks Quiet (fun _ => True) (isModuleComponentEnabled cr mod name) := by
  have hgo : ∀ cs, Asks Quiet (fun _ => True) (isModuleComponentEnabled.go name cs) := by
    intro cs
    induction cs with
    | nil => exact .pure trivial
    | cons c cs ih => exact .ite (.bind Asks.deref.quiet fun _ => .ite (.pure trivial) ih) ih
  unfold isModuleComponentEnabled
  split
  · exact hgo _
  · exact .pure trivial

theorem quiet_droppedComponents (oldCR newCR : ContainerStorageModule)
    (comps : List ContainerTemplate) :
    Asks Quiet (fun _ => True) (droppedComponents oldCR newCR comps) := by
  induction comps with
  | nil => exact .pure trivial
  | cons comp comps ih =>
      exact .bind (quiet_isModuleComponentEnabled _ _ _) fun _ =>
        .bind (quiet_isModuleComponentEnabled _ _ _) fun _ => .bind ih fun _ => .pure trivial

theorem quiet_cleanupOldModules (oldCR newCR : ContainerStorageModule) :
    Asks Quiet (fun _ => True) (cleanupOldModules oldCR newCR) := by
  refine .bind (.guarded (by simp [Asks.act, Asks.logError, Action.installs])) fun err => ?_
  cases err with
  | some e => exact .pure trivial
  | none =>
      dsimp only
      split
      · exact .pure trivial
      · refine .ite (.bind (quiet_droppedComponents _ _ _) fun _ => ?_) (.act rfl)
        exact .guarded (by simp [Asks.act, Action.installs])

theorem inertFor_syncPowerMaxProxy (cr : ContainerStorageModule) :
    Asks (InertFor cr) (fun _ => True) (syncPowerMaxProxy cr) := by
  refine .ite (.bind (.isReverseProxySidecar trivial) fun _ => ?_) (.pure trivial)
  exact .guarded (by simp [Asks.wrapAction])

theorem inertFor_injectModule (cr : ContainerStorageModule) (m : Module) :
    Asks (InertFor cr) (fun _ => True) (injectModule cr m) := by
  unfold injectModule
  split
  · exact .firstError (by simp [Asks.wrapAction])
  · exact .firstError (by simp [Asks.wrapAction])
  · exact .firstError (by simp [Asks.wrapAction])
  · exact .pure trivial

theorem inertFor_acts (as : List Action) (cr : ContainerStorageModule) :
    Asks (InertFor cr) (fun _ => True) (firstError (as.map (act · cr))) :=
  .firstError (by simp [Asks.act])

/-- Once the configuration is recorded, nothing `SyncCSM` does touches the CR. -/
theorem inertFor_syncDriver (cr : ContainerStorageModule) : Asks (InertFor cr) (fun _ => True) (syncDriver cr) := by
  refine .firstError ?_
  simp only [List.forall_mem_cons, List.not_mem_nil, false_imp_iff, implies_true, and_true]
  refine ⟨inertFor_syncPowerMaxProxy cr, .wrapAction rfl, .firstError ?_,
    .ite (inertFor_acts _ _) (.firstError ?_)⟩
  · intro p hp
    obtain ⟨m, -, rfl⟩ := List.mem_map.mp hp
    exact inertFor_injectModule cr m
  · simp [inertFor_acts, Asks.guarded, Asks.act, Asks.wrapAction]

theorem quiet_removeDriver (cr : ContainerStorageModule) : Asks Quiet (fun _ => True) (removeDriver cr) := by
  refine .guarded ?_
  simp only [List.forall_mem_cons, List.not_mem_nil, false_imp_iff, implies_true, and_true]
  refine ⟨.act rfl, .act rfl, .guarded ?_, .guarded ?_, ?_, .guarded ?_, .guarded ?_⟩
  · simp [Asks.act, Asks.logError, Action.installs]
  · simp [Asks.act, Action.installs]
  · refine .ite (.bind (.isReverseProxySidecar trivial) fun _ => ?_) (.pure trivial)
    exact .guarded (by simp [Asks.wrapAction, Action.installs])
  · simp [Asks.wrapAction, Action.installs]
  · simp [Asks.act, Action.installs]

theorem quiet_removeDeploymentOwnerRef (cr : ContainerStorageModule) :
    Asks Quiet (fun _ => True) (removeDeploymentOwnerRef cr) := by
  refine .bind (Asks.getDeployment _).quiet fun r => ?_
  cases r with
  | error e => exact .pure trivial
  | ok d =>
      dsimp only
      split
      · exact .pure trivial
      · exact .ask (.updateDeployment _) trivial

theorem quiet_removeModule (cr : ContainerStorageModule) : Asks Quiet (fun _ => True) (removeModule cr) := by
  refine .firstError ?_
  simp only [List.forall_mem_cons, List.not_mem_nil, false_imp_iff, implies_true, and_true]
  refine ⟨.guarded (by simp [Asks.act, Action.installs]), ?_⟩
  refine .ite (.bind (.isReverseProxySidecar trivial) fun _ => ?_) (.pure trivial)
  exact .guarded (by simp [Asks.act, Action.installs])

/-! ## Rules for monitors -/

section

variable {L : Type} {M : Monitor Api L} {R : L → L → Prop} {l : L} {rt : Runtime}
  {cr : ContainerStorageModule}

/-- A request followed by the rest of a program. -/
theorem obeys_ask_bind {β : Type} {Q : β → L → Prop} (q : Request) {f : q.Answer → Op β}
    (hguard : M.guard l q)
    (h : ∀ r, M.assume l q r → M.Obeys (f r) (M.next l q r) Q) : M.Obeys (ask q >>= f) l Q :=
  Monitor.Obeys.bind_iff.mpr
    (Monitor.Obeys.call_iff.mpr ⟨hguard, fun r hr => Monitor.Obeys.ret_iff.mpr (h r hr)⟩)

/-- `calculateState` for a monitor that follows the controller lookup. -/
theorem obeys_calculateState' (hM : M.Frames R Inert) {override_ : Option PodStatus}
    {Q : ContainerStorageModule × Bool × Option GoError → L → Prop}
    (h : M.Obeys (controllerStatusOf (cr.setState .succeeded) override_) l fun status l₁ =>
      ∀ st running err l₂, Recalculated cr st → st.controllerStatus = status → R l₁ l₂ →
        M.Obeys (note (.calculated cr.key running err)) l₂ fun _ l₃ =>
          Q (settleState rt (cr.withStatus st) running, running, err) l₃) :
    M.Obeys (calculateState rt cr override_) l Q := by
  refine h.bind fun status l₁ hQ => ?_
  refine hM.obeys_bind (reads_nodeStatusOf _).inert fun ⟨cr₁, good, err⟩ l₂ ⟨⟨ps, hps⟩, _⟩ h₁₂ => ?_
  refine hM.obeys_bind (reads_moduleVerdict _ _ _).inert fun running l₃ _ h₂₃ => ?_
  subst hps
  refine (hQ { cr.status with state := .succeeded, nodeStatus := ps, controllerStatus := status }
    running err l₃ ⟨rfl, rfl⟩ rfl (hM.trans _ _ _ h₁₂ h₂₃)).bind fun _ _ h => ?_
  exact Monitor.Obeys.pure_iff.mpr h

/-- `calculateState` for a monitor that does not follow its reads. -/
theorem obeys_calculateState (hM : M.Frames R Inert) {override_ : Option PodStatus}
    {Q : ContainerStorageModule × Bool × Option GoError → L → Prop}
    (h : ∀ st running err l', Recalculated cr st →
        (∀ o, override_ = some o → st.controllerStatus = o) → R l l' →
        M.Obeys (note (.calculated cr.key running err)) l' fun _ l'' =>
          Q (settleState rt (cr.withStatus st) running, running, err) l'') :
    M.Obeys (calculateState rt cr override_) l Q := by
  refine obeys_calculateState' hM (hM.obeys (reads_controllerStatusOf _ _).inert fun status l₁ hover h₁ => ?_)
  intro st running err l₂ hst hctrl h₂
  exact h st running err l₂ hst (fun o ho => hctrl ▸ hover o ho) (hM.trans _ _ _ h₁ h₂)

end

/-- A function called again on conflicts, with an invariant that failed attempts keep. -/
theorem obeys_retryOnConflict {L : Type} {M : Monitor Api L} {fn : Op (Option GoError)}
    {J : L → Prop} {Q : Option GoError → L → Prop}
    (hfn : ∀ l, J l → M.Obeys fn l fun err l' => Q err l' ∧ (err.isSome = true → J l'))
    (attempts : Nat) {l : L} (hl : J l) :
    M.Obeys (retryOnConflict fn (attempts + 1)) l Q := by
  induction attempts generalizing l with
  | zero =>
      refine (hfn l hl).bind fun err l' ⟨hQ, _⟩ => ?_
      cases err with
      | none => exact Monitor.Obeys.pure_iff.mpr hQ
      | some e => simpa using hQ
  | succ attempts ih =>
      refine (hfn l hl).bind fun err l' ⟨hQ, hinv⟩ => ?_
      cases err with
      | none => exact Monitor.Obeys.pure_iff.mpr hQ
      | some e =>
          dsimp only
          split
          · exact ih (hinv rfl)
          · exact Monitor.Obeys.pure_iff.mpr hQ

end CsmOperator
