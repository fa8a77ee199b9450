import CsmOperator.Controllers.Runs
import CsmOperator.Interaction.Implement
import CsmOperator.World.Cluster

/-!
# The removal of a driver, object by object

Two actions of `removeDriver` are opened here: `getDriverConfig`, for the objects it names, and
`removeDriverFromCluster`, which reads and deletes them one after the other. `reconcileObjects` is
`Reconcile` with these two carried out; everything else it asks is passed on as it is.
-/

namespace CsmOperator

open Interaction

/-! ## The objects of a driver -/

inductive ObjectKind where
  | serviceAccount
  | clusterRole
  | clusterRoleBinding
  | role
  | roleBinding
  | configMap
  | csiDriver
  | daemonSet
  | deployment
  | service
  | secret
  | issuer
  | certificate
  deriving DecidableEq, Repr

structure ObjectRef where
  kind : ObjectKind
  key : NamespacedName
  deriving DecidableEq, Repr

/-- The names of `RbacYAML`. -/
structure Rbac where
  serviceAccount : NamespacedName
  clusterRole : NamespacedName
  clusterRoleBinding : NamespacedName
  role : NamespacedName
  roleBinding : NamespacedName
  deriving DecidableEq, Repr

/-- In the order in which `removeDriverFromCluster` deletes them. -/
def Rbac.objects (r : Rbac) : List ObjectRef :=
  [⟨.serviceAccount, r.serviceAccount⟩, ⟨.clusterRole, r.clusterRole⟩,
    ⟨.clusterRoleBinding, r.clusterRoleBinding⟩, ⟨.role, r.role⟩, ⟨.roleBinding, r.roleBinding⟩]

structure NodeYAML where
  rbac : Rbac
  daemonSet : NamespacedName
  deriving DecidableEq, Repr

structure ControllerYAML where
  rbac : Rbac
  deployment : NamespacedName
  deriving DecidableEq, Repr

/-- What `getDriverConfig` returns; the fields are pointers in the source, and `none` is nil. -/
structure DriverConfig where
  driver : Option NamespacedName := none
  configMap : Option NamespacedName := none
  node : Option NodeYAML := none
  controller : Option ControllerYAML := none
  deriving DecidableEq, Repr

namespace DriverConfig

variable (cfg : DriverConfig)

/-- The objects `DeleteObject` is called for. -/
def accounts : List ObjectRef :=
  (cfg.node.map (·.rbac.objects)).getD [] ++ (cfg.controller.map (·.rbac.objects)).getD [] ++
    (cfg.configMap.map (⟨.configMap, ·⟩)).toList ++ (cfg.driver.map (⟨.csiDriver, ·⟩)).toList

/-- The objects that are read and deleted in place. -/
def workloads : List ObjectRef :=
  (cfg.node.map (⟨.daemonSet, ·.daemonSet⟩)).toList ++
    (cfg.controller.map (⟨.deployment, ·.deployment⟩)).toList

def objects : List ObjectRef := cfg.accounts ++ cfg.workloads

end DriverConfig

/-! ## Requests -/

inductive ObjectRequest where
  /-- everything that is not opened here -/
  | api (q : Request)
  | getDriverConfig (cr : ContainerStorageModule)
  | get (o : ObjectRef)
  | delete (o : ObjectRef)

def ObjectRequest.Answer : ObjectRequest → Type
  | api q => q.Answer
  | getDriverConfig _ => Except GoError DriverConfig
  | get _ => Option GoError
  | delete _ => Option GoError

abbrev ObjectApi : Interface := ⟨ObjectRequest, ObjectRequest.Answer⟩

abbrev ObjectOp (α : Type) := Prog ObjectApi α

def objectAsk (q : ObjectRequest) : ObjectOp q.Answer := Prog.ask (I := ObjectApi) q

/-! ## Deleting -/

/-- `Delete`, where an object that is gone counts as deleted. -/
def deleteFound (o : ObjectRef) : ObjectOp (Option GoError) := do
  let err : Option GoError ← objectAsk (.delete o)
  pure (err.filter (·.kind ≠ .notFound))

/-- `DeleteObject`. -/
def deleteObject (o : ObjectRef) : ObjectOp (Option GoError) := do
  let err : Option GoError ← objectAsk (.get o)
  match err with
  | none => deleteFound o
  | some e => pure (if e.kind = .notFound then none else some e)

/-- How the DaemonSet and the Deployment are deleted: an error of the read, whatever it is, is only
logged. -/
def deleteWorkload (o : ObjectRef) : ObjectOp (Option GoError) := do
  let err : Option GoError ← objectAsk (.get o)
  match err with
  | none => deleteFound o
  | some _ => pure none

/-- One object after the other, up to the first error. -/
def eachObject (f : ObjectRef → ObjectOp (Option GoError)) : List ObjectRef → ObjectOp (Option GoError)
  | [] => pure none
  | o :: os => do
    match ← f o with
    | some e => pure (some e)
    | none => eachObject f os

/-- `removeDriverFromCluster`. -/
def removeDriverFromCluster (cfg : DriverConfig) : ObjectOp (Option GoError) := do
  match ← eachObject deleteObject cfg.accounts with
  | some e => pure (some e)
  | none => eachObject deleteWorkload cfg.workloads

/-! ## `Reconcile` with the removal opened -/

/-- The two opened actions; the state is the local variable `driverConfig` of `removeDriver`. -/
def openRemoval : Implementation Api ObjectApi (Option DriverConfig)
  | cfg, .action .getDriverConfig cr => do
    let r : Except GoError DriverConfig ← objectAsk (.getDriverConfig cr)
    match r with
    | .error e => pure (some e, cfg)
    | .ok cfg => pure (none, some cfg)
  | some cfg, .action .removeDriverFromCluster _ => do
    let err ← removeDriverFromCluster cfg
    pure (err, some cfg)
  -- a nil pointer is followed
  | none, .action .removeDriverFromCluster _ => .call (.api .panic) nofun
  | cfg, q => do
    let r ← objectAsk (.api q)
    pure (r, cfg)

def reconcileObjects (rt : Runtime) (key : NamespacedName) :
    ObjectOp ((Result × Option GoError) × Option DriverConfig) :=
  (reconcile rt key).implement openRemoval none

/-! ## Runs of the deletions -/

variable {rt : Runtime} {key : NamespacedName} {csm : ContainerStorageModule} {cfg : DriverConfig}
  {o : ObjectRef} {u : List (Event ObjectApi)}

/-- The API server said that there is no such object. -/
inductive ReportedMissing (o : ObjectRef) : Event ObjectApi → Prop
  | get {e : GoError} : e.kind = .notFound → ReportedMissing o ⟨.get o, some e⟩
  | delete {e : GoError} : e.kind = .notFound → ReportedMissing o ⟨.delete o, some e⟩
  | getDeployment {k : NamespacedName} {e : GoError} : o = ⟨.deployment, k⟩ → e.kind = .notFound →
      ReportedMissing o ⟨.api (.getDeployment k), .error e⟩
  | getDaemonSet {k : NamespacedName} {e : GoError} : o = ⟨.daemonSet, k⟩ → e.kind = .notFound →
      ReportedMissing o ⟨.api (.getDaemonSet k), .error e⟩

/-- The object was reported missing, or its deletion was accepted. -/
def Accounted (o : ObjectRef) (u : List (Event ObjectApi)) : Prop :=
  (∃ e ∈ u, ReportedMissing o e) ∨ ⟨.delete o, none⟩ ∈ u

theorem Accounted.mono {u' : List (Event ObjectApi)} (h : Accounted o u) (hu : u ⊆ u') :
    Accounted o u' := by
  obtain ⟨e, he, hmissing⟩ | hdeleted := h
  · exact .inl ⟨e, hu he, hmissing⟩
  · exact .inr (hu hdeleted)

/-- The calls for one object, when they end without error: a read that fails, or one that finds the
object and its deletion. -/
def Deletion (o : ObjectRef) (u : List (Event ObjectApi)) : Prop :=
  (∃ e, u = [⟨.get o, some e⟩]) ∨
    ∃ err, u = [⟨.get o, none⟩, ⟨.delete o, err⟩] ∧ ∀ e, err = some e → e.kind = .notFound

theorem Deletion.accounted (h : Deletion o u) {o' : ObjectRef} (hget : ⟨.get o', none⟩ ∈ u) :
    Accounted o' u := by
  obtain ⟨e, rfl⟩ | ⟨err, rfl, herr⟩ := h
  · cases List.mem_singleton.mp hget
  · rcases List.mem_cons.mp hget with heq | hmem
    · cases heq
      cases err with
      | none => exact .inr (by simp)
      | some e => exact .inl ⟨⟨.delete o, some e⟩, by simp, .delete (herr e rfl)⟩
    · cases List.mem_singleton.mp hmem

theorem Deletion.found (h : Deletion o u) {o' : ObjectRef} {err : Option GoError}
    (hdelete : ⟨.delete o', err⟩ ∈ u) : ⟨.get o', none⟩ ∈ u := by
  obtain ⟨e, rfl⟩ | ⟨err, rfl, -⟩ := h
  · cases List.mem_singleton.mp hdelete
  · rcases List.mem_cons.mp hdelete with heq | hmem
    · cases heq
    · cases List.mem_singleton.mp hmem
      exact List.mem_cons_self

theorem run_deleteFound_none (h : Run (deleteFound o) u none) :
    ∃ err, u = [⟨.delete o, err⟩] ∧ ∀ e, err = some e → e.kind = .notFound := by
  obtain ⟨u₁, u₂, err, rfl, hask, hret⟩ := Run.bind_iff.mp h
  obtain ⟨err', u', rfl, hret'⟩ := Run.call_iff.mp hask
  obtain ⟨rfl, rfl⟩ := Run.ret_iff.mp hret'
  obtain ⟨rfl, hfilter⟩ := Run.ret_iff.mp hret
  refine ⟨err, rfl, fun e he => ?_⟩
  subst he
  simpa [Option.filter] using hfilter

/-- How `DeleteObject` can return nil. -/
theorem run_deleteObject_none (h : Run (deleteObject o) u none) : Deletion o u ∧ Accounted o u := by
  obtain ⟨u₁, u₂, err, rfl, hask, hrest⟩ := Run.bind_iff.mp h
  obtain ⟨err', u', rfl, hret⟩ := Run.call_iff.mp hask
  obtain ⟨rfl, rfl⟩ := Run.ret_iff.mp hret
  match err with
  | none =>
      obtain ⟨err, rfl, herr⟩ := run_deleteFound_none hrest
      have hdeletion : Deletion o ([⟨.get o, none⟩] ++ [⟨.delete o, err⟩]) := .inr ⟨err, rfl, herr⟩
      exact ⟨hdeletion, hdeletion.accounted List.mem_cons_self⟩
  | some e =>
      obtain ⟨rfl, hnone⟩ := Run.ret_iff.mp hrest
      have hkind : e.kind = .notFound := by
        by_contra hkind
        rw [if_neg hkind] at hnone
        cases hnone
      exact ⟨.inl ⟨e, rfl⟩, .inl ⟨⟨.get o, some e⟩, List.mem_cons_self, .get hkind⟩⟩

theorem run_deleteWorkload_none (h : Run (deleteWorkload o) u none) : Deletion o u := by
  obtain ⟨u₁, u₂, err, rfl, hask, hrest⟩ := Run.bind_iff.mp h
  obtain ⟨err', u', rfl, hret⟩ := Run.call_iff.mp hask
  obtain ⟨rfl, rfl⟩ := Run.ret_iff.mp hret
  match err with
  | none =>
      obtain ⟨err, rfl, herr⟩ := run_deleteFound_none hrest
      exact .inr ⟨err, rfl, herr⟩
  | some e =>
      obtain ⟨rfl, -⟩ := Run.ret_iff.mp hrest
      exact .inl ⟨e, rfl⟩

/-- A loop without error goes through all objects, and its calls are those for the single objects. -/
theorem run_eachObject_none {f : ObjectRef → ObjectOp (Option GoError)} {os : List ObjectRef}
    (h : Run (eachObject f os) u none) :
    (∀ o ∈ os, ∃ t ⊆ u, Run (f o) t none) ∧ ∀ e ∈ u, ∃ o, ∃ t ⊆ u, e ∈ t ∧ Run (f o) t none := by
  induction os generalizing u with
  | nil =>
      obtain ⟨rfl, -⟩ := Run.ret_iff.mp h
      exact ⟨fun o ho => (List.not_mem_nil ho).elim, fun e he => (List.not_mem_nil he).elim⟩
  | cons o os ih =>
      obtain ⟨u₁, u₂, err, rfl, hobject, hrest⟩ := Run.bind_iff.mp h
      cases err with
      | some e => cases (Run.ret_iff.mp hrest).2
      | none =>
          obtain ⟨hobjects, hcalls⟩ := ih hrest
          constructor
          · intro o' ho'
            rcases List.mem_cons.mp ho' with rfl | ho'
            · exact ⟨u₁, List.subset_append_left .., hobject⟩
            · obtain ⟨t, ht, hrun⟩ := hobjects o' ho'
              exact ⟨t, List.Subset.trans ht (List.subset_append_right ..), hrun⟩
          · intro e he
            rcases List.mem_append.mp he with he | he
            · exact ⟨o, u₁, List.subset_append_left .., he, hobject⟩
            · obtain ⟨o', t, ht, het, hrun⟩ := hcalls e he
              exact ⟨o', t, List.Subset.trans ht (List.subset_append_right ..), het, hrun⟩

/-- What a removal without error has done: each object that went through `DeleteObject` is accounted
for, and so is each object a read has found; only found objects are deleted. -/
theorem run_removeDriverFromCluster_none (h : Run (removeDriverFromCluster cfg) u none) :
    (∀ o ∈ cfg.accounts, Accounted o u) ∧ (∀ o, ⟨.get o, none⟩ ∈ u → Accounted o u) ∧
      ∀ o err, ⟨.delete o, err⟩ ∈ u → ⟨.get o, none⟩ ∈ u := by
  obtain ⟨u₁, u₂, err, rfl, haccounts, hrest⟩ := Run.bind_iff.mp h
  cases err with
  | some e => cases (Run.ret_iff.mp hrest).2
  | none =>
      obtain ⟨hobjects, hcalls₁⟩ := run_eachObject_none haccounts
      obtain ⟨-, hcalls₂⟩ := run_eachObject_none hrest
      have hdeletion : ∀ e ∈ u₁ ++ u₂, ∃ o, ∃ t ⊆ u₁ ++ u₂, e ∈ t ∧ Deletion o t := by
        intro e he
        rcases List.mem_append.mp he with he | he
        · obtain ⟨o, t, ht, het, hrun⟩ := hcalls₁ e he
          exact ⟨o, t, List.Subset.trans ht (List.subset_append_left ..), het, (run_deleteObject_none hrun).1⟩
        · obtain ⟨o, t, ht, het, hrun⟩ := hcalls₂ e he
          exact ⟨o, t, List.Subset.trans ht (List.subset_append_right ..), het, run_deleteWorkload_none hrun⟩
      refine ⟨fun o ho => ?_, fun o hget => ?_, fun o err hdelete => ?_⟩
      · obtain ⟨t, ht, hrun⟩ := hobjects o ho
        exact (run_deleteObject_none hrun).2.mono (List.Subset.trans ht (List.subset_append_left ..))
      · obtain ⟨o', t, ht, het, hdel⟩ := hdeletion _ hget
        exact (hdel.accounted het).mono ht
      · obtain ⟨o', t, ht, het, hdel⟩ := hdeletion _ hdelete
        exact ht (hdel.found het)

/-! ## The two levels -/

/-- Requests that are passed on as they are. -/
def Passed : Request → Prop
  | .action a _ => a ≠ .getDriverConfig ∧ a ≠ .removeDriverFromCluster
  | _ => True

@[simp] theorem passed_action {a : Action} {cr : ContainerStorageModule} :
    Passed (.action a cr) ↔ a ≠ .getDriverConfig ∧ a ≠ .removeDriverFromCluster := Iff.rfl

/-- A call that is passed on, as the object level sees it. -/
def pass (e : Event Api) : Event ObjectApi := ⟨.api e.req, e.resp⟩

theorem openRemoval_passed {q : Request} (h : Passed q) (s : Option DriverConfig) :
    openRemoval s q = (do
      let r ← objectAsk (.api q)
      pure (r, s)) := by
  cases q with
  | action a cr =>
      obtain ⟨hconfig, hremoval⟩ := h
      cases a <;> first | rfl | exact (hconfig rfl).elim | exact (hremoval rfl).elim
  | _ => rfl

theorem run_openRemoval_passed {q : Request} {r : q.Answer} {s s' : Option DriverConfig} (h : Passed q)
    (hrun : Run (openRemoval s q) u (r, s')) : u = [pass ⟨q, r⟩] ∧ s' = s := by
  rw [openRemoval_passed h] at hrun
  obtain ⟨u₁, u₂, r', rfl, hask, hret⟩ := Run.bind_iff.mp hrun
  obtain ⟨r'', u', rfl, hret'⟩ := Run.call_iff.mp hask
  obtain ⟨rfl, rfl⟩ := Run.ret_iff.mp hret'
  obtain ⟨rfl, heq⟩ := Run.ret_iff.mp hret
  cases heq
  exact ⟨rfl, rfl⟩

theorem run_openRemoval_getDriverConfig {s s' : Option DriverConfig}
    (h : Run (openRemoval s (.action .getDriverConfig csm)) u ((none : Option GoError), s')) :
    ∃ cfg, u = [⟨.getDriverConfig csm, .ok cfg⟩] ∧ s' = some cfg := by
  obtain ⟨u₁, u₂, r, rfl, hask, hret⟩ := Run.bind_iff.mp h
  obtain ⟨r', u', rfl, hret'⟩ := Run.call_iff.mp hask
  obtain ⟨rfl, rfl⟩ := Run.ret_iff.mp hret'
  match r with
  | .error e => cases (Run.ret_iff.mp hret).2
  | .ok cfg =>
      obtain ⟨rfl, heq⟩ := Run.ret_iff.mp hret
      exact ⟨cfg, rfl, (Prod.mk.inj heq).2⟩

theorem run_openRemoval_removeDriverFromCluster {s' : Option DriverConfig} {err : Option GoError}
    (h : Run (openRemoval (some cfg) (.action .removeDriverFromCluster csm)) u (err, s')) :
    Run (removeDriverFromCluster cfg) u err ∧ s' = some cfg := by
  obtain ⟨u₁, u₂, err', rfl, hremoval, hret⟩ := Run.bind_iff.mp h
  obtain ⟨rfl, heq⟩ := Run.ret_iff.mp hret
  cases heq
  rw [List.append_nil]
  exact ⟨hremoval, rfl⟩

/-- A part of a `Reconcile` that has nothing to do with the driver's objects is the same at both
levels. -/
theorem eq_map_pass {tr : List (Event Api)} {s s' : Option DriverConfig}
    (hpassed : ∀ e ∈ tr, Passed e.req) (h : CarriedOut openRemoval s tr u s') : u = tr.map pass ∧ s' = s :=
  h.eq_map fun e he _ _ _ hrun => run_openRemoval_passed (hpassed e he) hrun

/-- The requests about single objects. -/
def AboutObject : ObjectRequest → Prop
  | .get _ | .delete _ => True
  | _ => False

theorem sat_objectAsk {q : ObjectRequest} (h : AboutObject q) :
    Sat AboutObject (fun _ => True) (objectAsk q) :=
  Sat.call_iff.mpr ⟨h, fun _ => Sat.ret_iff.mpr trivial⟩

theorem sat_deleteFound (o : ObjectRef) : Sat AboutObject (fun _ => True) (deleteFound o) :=
  .bind (sat_objectAsk (q := .delete o) trivial) fun _ _ => Sat.pure_iff.mpr trivial

theorem sat_eachObject {f : ObjectRef → ObjectOp (Option GoError)}
    (h : ∀ o, Sat AboutObject (fun _ => True) (f o)) (os : List ObjectRef) :
    Sat AboutObject (fun _ => True) (eachObject f os) := by
  induction os with
  | nil => exact Sat.pure_iff.mpr trivial
  | cons o os ih =>
      refine .bind (h o) fun err _ => ?_
      cases err with
      | some e => exact Sat.pure_iff.mpr trivial
      | none => exact ih

/-- The removal deals with objects only. -/
theorem sat_removeDriverFromCluster (cfg : DriverConfig) :
    Sat AboutObject (fun _ => True) (removeDriverFromCluster cfg) := by
  have hread : ∀ o (f : GoError → Option GoError), Sat AboutObject (fun _ => True) (do
      let err : Option GoError ← objectAsk (.get o)
      match err with
      | none => deleteFound o
      | some e => pure (f e)) := by
    intro o f
    refine .bind (sat_objectAsk (q := .get o) trivial) fun err _ => ?_
    match err with
    | none => exact sat_deleteFound o
    | some e => exact Sat.pure_iff.mpr trivial
  refine .bind (sat_eachObject (fun o => hread o _) _) fun err _ => ?_
  cases err with
  | some e => exact Sat.pure_iff.mpr trivial
  | none => exact sat_eachObject (fun o => hread o _) _

/-- A call that the object level passes on is a call of the level above. -/
theorem mem_of_pass {tr : List (Event Api)} {s s' : Option DriverConfig} {e : Event Api}
    (h : CarriedOut openRemoval s tr u s') (he : pass e ∈ u) : e ∈ tr := by
  obtain ⟨⟨q, r⟩, he', s₁, s₂, t, het, hrun⟩ := h.exists_of_mem he
  by_cases hpassed : Passed q
  · obtain ⟨rfl, -⟩ := run_openRemoval_passed hpassed hrun
    cases List.mem_singleton.mp het
    exact he'
  -- the implementations of the two opened actions pass nothing on
  · have hopened : ∃ cr, q = .action .getDriverConfig cr ∨ q = .action .removeDriverFromCluster cr := by
      cases q with
      | action a cr =>
          refine ⟨cr, ?_⟩
          by_contra hnot
          rw [not_or] at hnot
          exact hpassed ⟨fun ha => hnot.1 (by rw [ha]), fun ha => hnot.2 (by rw [ha])⟩
      | _ => exact (hpassed trivial).elim
    obtain ⟨cr, rfl | rfl⟩ := hopened
    · obtain ⟨t₁, t₂, r', rfl, hask, hret⟩ := Run.bind_iff.mp hrun
      obtain ⟨r'', t', rfl, hret'⟩ := Run.call_iff.mp hask
      obtain ⟨rfl, rfl⟩ := Run.ret_iff.mp hret'
      obtain rfl : t₂ = [] := by
        match r' with
        | .error _ => exact (Run.ret_iff.mp hret).1
        | .ok _ => exact (Run.ret_iff.mp hret).1
      cases List.mem_singleton.mp het
    · cases s₁ with
      | none =>
          obtain ⟨r, -⟩ := Run.call_iff.mp hrun
          exact nomatch r
      | some cfg =>
          obtain ⟨t₁, t₂, err, rfl, hremoval, hret⟩ := Run.bind_iff.mp hrun
          obtain ⟨rfl, -⟩ := Run.ret_iff.mp hret
          rw [List.append_nil] at het
          exact (((sat_removeDriverFromCluster cfg).of_run hremoval).1 _ het).elim

/-- `removeDriver` renders the driver, removes its objects, and has nothing to do with them any more. -/
theorem run_removeDriver_none {tr : List (Event Api)} (h : Run (removeDriver csm) tr none)
    (hdriver : csm.spec.driver.csiDriverType ≠ .unset) :
    ∃ tr', tr = ⟨.action .getDriverConfig csm, none⟩ ::
        ⟨.action .removeDriverFromCluster csm, none⟩ :: tr' ∧ ∀ e ∈ tr', Passed e.req := by
  unfold removeDriver guarded at h
  rw [if_pos (decide_eq_true hdriver)] at h
  obtain ⟨trs, rfl, hall⟩ := run_firstError_none.mp h
  cases hall with
  | cons hconfig hall =>
    cases hall with
    | cons hremoval hrest =>
      obtain ⟨r₁, t₁, rfl, hret₁⟩ := Run.call_iff.mp hconfig
      obtain ⟨r₂, t₂, rfl, hret₂⟩ := Run.call_iff.mp hremoval
      obtain ⟨rfl, rfl⟩ := Run.ret_iff.mp hret₁
      obtain ⟨rfl, rfl⟩ := Run.ret_iff.mp hret₂
      refine ⟨_, rfl, fun e he => ?_⟩
      refine ((Asks.firstError (P := Passed) ?_).of_run (run_firstError_none.mpr ⟨_, rfl, hrest⟩)).1 e he
      simp only [List.forall_mem_cons, List.not_mem_nil, false_imp_iff, implies_true, and_true]
      refine ⟨.guarded ?_, .guarded ?_, ?_, .guarded ?_, .guarded ?_⟩
      · simp [Asks.act, Asks.logError]
      · simp [Asks.act]
      · refine .ite (.bind (.isReverseProxySidecar trivial) fun _ => ?_) (.pure trivial)
        exact .guarded (by simp [Asks.wrapAction])
      · simp [Asks.wrapAction]
      · simp [Asks.act]

theorem passed_removeModules : Asks Passed (fun _ => True) (removeModules csm) := by
  refine .firstError fun p hp => ?_
  obtain ⟨m, -, rfl⟩ := List.mem_map.mp hp
  refine .firstError ?_
  simp only [List.forall_mem_cons, List.not_mem_nil, false_imp_iff, implies_true, and_true]
  refine ⟨.guarded (by simp [Asks.act]), ?_⟩
  refine .ite (.bind (.isReverseProxySidecar trivial) fun _ => ?_) (.pure trivial)
  exact .guarded (by simp [Asks.act])

theorem Checking.passed {q : Request} (h : Checking q) : Passed q := by
  cases q with
  | action a cr =>
      have hchecks : a.checks = true := h
      constructor <;> rintro rfl <;> cases hchecks
  | _ => trivial

theorem Finishing.passed {q : Request} (h : Finishing q) : Passed q := by
  cases q with
  | action a cr => exact h.elim
  | _ => trivial

/-! ## The finalizer and the driver's objects -/

/-- An update of the CR that takes the finalizer away was accepted. -/
def FinalizerRemoved (u : List (Event ObjectApi)) : Prop :=
  ∃ cr cr', pass ⟨.updateCSM cr, .ok cr'⟩ ∈ u ∧ cr.hasFinalizer csmFinalizerName = false

/-- A read has found the object, or it was reported missing. -/
def Readable (o : ObjectRef) (u : List (Event ObjectApi)) : Prop :=
  ⟨.get o, none⟩ ∈ u ∨ ∃ e ∈ u, ReportedMissing o e

/-- A `Reconcile` that removes the finalizer of a driver to be removed, seen from the driver's
objects. -/
theorem run_reconcileObjects {x : (Result × Option GoError) × Option DriverConfig}
    (h : Run (reconcileObjects rt key) (pass ⟨.getCSM key, .ok csm⟩ :: u) x)
    (hdeleting : csm.isBeingDeleted = true) (hdriver : csm.spec.driver.csiDriverType ≠ .unset)
    (hforce : csm.spec.driver.forceRemoveDriver.getD true = true) (hfinalizer : FinalizerRemoved u) :
    ∃ (cr : ContainerStorageModule) (cfg : DriverConfig) (tr₀ tr₁ : List (Event Api))
      (t : List (Event ObjectApi)),
      u = tr₀.map pass ++ ⟨.getDriverConfig cr, .ok cfg⟩ :: (t ++ tr₁.map pass) ∧
      Run (removeDriverFromCluster cfg) t none := by
  obtain ⟨tr, hrun, hcarries⟩ := run_implement_iff.mp h
  obtain ⟨cr₀, cr₁, hmem, -⟩ := hfinalizer
  have hupdate : ⟨.updateCSM cr₀, .ok cr₁⟩ ∈ tr := mem_of_pass hcarries (List.mem_cons_of_mem _ hmem)
  obtain ⟨e, rfl, -⟩ | ⟨csm', tr', rfl, -⟩ := run_reconcile hrun
  · cases List.mem_singleton.mp hupdate
  obtain ⟨u₁, u₂, s₁, hu, hread, hrest⟩ := CarriedOut.cons_iff.mp hcarries
  obtain ⟨rfl, rfl⟩ := run_openRemoval_passed (q := .getCSM key) trivial hread
  obtain ⟨hhead, rfl⟩ := List.cons.inj hu
  cases hhead
  have hupdate : ⟨.updateCSM cr₀, .ok cr₁⟩ ∈ tr' := (List.mem_cons.mp hupdate).resolve_left nofun
  obtain ⟨hreject, -⟩ | ⟨cr, tr₀, tr₁, hprepare, rfl, hchecks, hdeletion⟩ :=
    run_reconcile_deleting hrun hdeleting
  · exact (hreject _ hupdate).elim
  obtain ⟨tr₂, tr₃, y, rfl, hcontent, hfailed, hfinishing⟩ := run_reconcileDeletion_cleanup hdeletion
  have hchecking := ((checking_preChecks rt cr).of_run hchecks).1
  obtain rfl : y = none := by
    by_contra hy
    rw [hfailed hy, List.append_nil] at hupdate
    rcases List.mem_append.mp hupdate with hmem | hmem
    · exact hchecking _ hmem
    · exact ((calm_removeContent _).of_run hcontent).1 _ hmem
  obtain ⟨force, tr₄, tr₅, hforce', rfl, hcases⟩ := run_removeContent hcontent
  have hsame := driver_of_prepare hprepare
  obtain rfl : force = true := by
    rw [hsame] at hforce'
    exact (Option.some.inj hforce').symm.trans hforce
  obtain ⟨e, -, -, -, hnone⟩ | ⟨hdone, tr₆, tr₇, err, rfl, hmodules, -, -, hend⟩ := hcases
  · exact (hnone rfl).elim
  obtain rfl := hend rfl
  obtain ⟨tr₈, rfl, hpassed⟩ := run_removeDriver_none hdone (by rw [hsame]; exact hdriver)
  -- the two opened actions, and what is around them
  obtain ⟨u₀, u', s₀, rfl, hbefore, hrest⟩ := CarriedOut.append_iff.mp hrest
  obtain ⟨rfl, rfl⟩ := eq_map_pass (fun e he => (hchecking e he).passed) hbefore
  rw [List.append_assoc, List.cons_append, List.cons_append] at hrest
  obtain ⟨u₁, u₂, s₁, rfl, hconfig, hrest⟩ := CarriedOut.cons_iff.mp hrest
  obtain ⟨u₃, u₄, s₂, rfl, hremoval, hrest⟩ := CarriedOut.cons_iff.mp hrest
  obtain ⟨cfg, rfl, rfl⟩ := run_openRemoval_getDriverConfig hconfig
  obtain ⟨hobjects, rfl⟩ := run_openRemoval_removeDriverFromCluster hremoval
  have hafter : ∀ e ∈ tr₈ ++ (tr₆ ++ [] ++ tr₃), Passed e.req := by
    rw [List.append_nil]
    intro e he
    rcases List.mem_append.mp he with he | he
    · exact hpassed e he
    · rcases List.mem_append.mp he with he | he
      · exact (passed_removeModules.of_run hmodules).1 e he
      · exact (hfinishing e he).passed
  obtain ⟨rfl, -⟩ := eq_map_pass hafter hrest
  exact ⟨_, cfg, tr₀, _, u₃, rfl, hobjects⟩

/-- **A removed driver is accounted for** exactly when its DaemonSet and its Deployment could be read:
the reads of all other objects stop the removal if they fail. -/
theorem driver_accounted_iff {x : (Result × Option GoError) × Option DriverConfig}
    (h : Run (reconcileObjects rt key) (pass ⟨.getCSM key, .ok csm⟩ :: u) x)
    (hdeleting : csm.isBeingDeleted = true) (hdriver : csm.spec.driver.csiDriverType ≠ .unset)
    (hforce : csm.spec.driver.forceRemoveDriver.getD true = true) (hfinalizer : FinalizerRemoved u) :
    (∃ cr cfg, ⟨.getDriverConfig cr, .ok cfg⟩ ∈ u) ∧
      ∀ cr cfg, ⟨.getDriverConfig cr, .ok cfg⟩ ∈ u →
        ((∀ o ∈ cfg.objects, Accounted o u) ↔ ∀ o ∈ cfg.workloads, Readable o u) := by
  obtain ⟨cr₀, cfg₀, tr₀, tr₁, t, rfl, hremoval⟩ :=
    run_reconcileObjects h hdeleting hdriver hforce hfinalizer
  refine ⟨⟨cr₀, cfg₀, by simp⟩, fun cr cfg hrendered => ?_⟩
  have hcall : ∀ e ∈ tr₀.map pass ++ ⟨.getDriverConfig cr₀, .ok cfg₀⟩ :: (t ++ tr₁.map pass),
      (∃ e', pass e' = e) ∨ e = ⟨.getDriverConfig cr₀, .ok cfg₀⟩ ∨ e ∈ t := by
    intro e he
    simp only [List.mem_append, List.mem_map, List.mem_cons] at he
    obtain ⟨e', -, he⟩ | he | he | ⟨e', -, he⟩ := he
    · exact .inl ⟨e', he⟩
    · exact .inr (.inl he)
    · exact .inr (.inr he)
    · exact .inl ⟨e', he⟩
  -- there is one rendering, and the calls about objects are those of the removal
  obtain rfl : cfg = cfg₀ := by
    obtain ⟨e', heq⟩ | heq | hmem := hcall _ hrendered
    · cases heq
    · cases heq
      rfl
    · exact (((sat_removeDriverFromCluster cfg₀).of_run hremoval).1 _ hmem).elim
  have hremoval_of : ∀ e ∈ tr₀.map pass ++ ⟨.getDriverConfig cr₀, .ok cfg⟩ :: (t ++ tr₁.map pass),
      AboutObject e.req → e ∈ t := by
    intro e he hobject
    obtain ⟨e', rfl⟩ | rfl | hmem := hcall e he
    · exact hobject.elim
    · exact hobject.elim
    · exact hmem
  have hsubset : t ⊆ tr₀.map pass ++ ⟨.getDriverConfig cr₀, .ok cfg⟩ :: (t ++ tr₁.map pass) :=
    fun e he => by simp [he]
  obtain ⟨haccounts, hfound, hdeleted⟩ := run_removeDriverFromCluster_none hremoval
  constructor
  · intro haccounted o ho
    obtain hmissing | hmem := haccounted o (List.mem_append_right _ ho)
    · exact .inr hmissing
    · exact .inl (hsubset (hdeleted o none (hremoval_of _ hmem trivial)))
  · intro hreadable o ho
    rcases List.mem_append.mp ho with ho | ho
    · exact (haccounts o ho).mono hsubset
    · obtain hmem | hmissing := hreadable o ho
      · exact (hfound o (hremoval_of _ hmem trivial)).mono hsubset
      · exact .inl hmissing

/-! ### The deletion of a PowerScale CR -/

/-- Is the event a report about the object, or an accepted deletion of it? -/
def accounts (o : ObjectRef) : Event ObjectApi → Bool
  | ⟨.get o', some e⟩ => o' = o && e.kind = .notFound
  | ⟨.delete o', some e⟩ => o' = o && e.kind = .notFound
  | ⟨.delete o', none⟩ => o' = o
  | ⟨.api (.getDeployment k), .error e⟩ => o = ⟨.deployment, k⟩ && e.kind = .notFound
  | ⟨.api (.getDaemonSet k), .error e⟩ => o = ⟨.daemonSet, k⟩ && e.kind = .notFound
  | _ => false

theorem Accounted.any (h : Accounted o u) : u.any (accounts o) = true := by
  rw [List.any_eq_true]
  obtain ⟨e, he, hmissing⟩ | hdeleted := h
  · refine ⟨e, he, ?_⟩
    cases hmissing with
    | get hkind => simp [accounts, hkind]
    | delete hkind => simp [accounts, hkind]
    | getDeployment ho hkind => simp [accounts, ho, hkind]
    | getDaemonSet ho hkind => simp [accounts, ho, hkind]
  · exact ⟨_, hdeleted, decide_eq_true rfl⟩

def removesFinalizer : Event ObjectApi → Bool
  | ⟨.api (.updateCSM cr), .ok _⟩ => !cr.hasFinalizer csmFinalizerName
  | _ => false

theorem finalizerRemoved_of_any (h : u.any removesFinalizer = true) : FinalizerRemoved u := by
  obtain ⟨e, he, htest⟩ := List.any_eq_true.mp h
  unfold removesFinalizer at htest
  split at htest
  next cr cr' =>
    rw [Bool.not_eq_true'] at htest
    exact ⟨cr, cr', he, htest⟩
  next => cases htest

/-- A CR that a user has deleted. -/
def deletedIsilon : ContainerStorageModule :=
  { name := "isilon", namesp := "dell", finalizers := [csmFinalizerName], deletionTimestamp := some 1
    spec := { driver := { csiDriverType := .powerScale, configVersion := "v2.17.1" } } }

def isilonRbac (name : String) : Rbac where
  serviceAccount := ⟨"dell", name⟩
  clusterRole := ⟨"", name⟩
  clusterRoleBinding := ⟨"", name⟩
  role := ⟨"dell", name⟩
  roleBinding := ⟨"dell", name⟩

/-- The objects of its driver. -/
def isilonConfig : DriverConfig where
  driver := some ⟨"", "csi-isilon.dellemc.com"⟩
  configMap := some ⟨"dell", "isilon-config-params"⟩
  node := some { rbac := isilonRbac "isilon-node", daemonSet := ⟨"dell", "isilon-node"⟩ }
  controller := some
    { rbac := isilonRbac "isilon-controller", deployment := ⟨"dell", "isilon-controller"⟩ }

/-- A cluster with all objects of that driver, where reads of DaemonSets fail as `read` says. -/
def isilonAnswer (read : Option GoError) : (q : ObjectRequest) → Option q.Answer
  | .api q => obliging deletedIsilon {} (fun _ => none) q
  | .getDriverConfig _ => some (.ok isilonConfig)
  | .get o => some (if o.kind = .daemonSet then read else none)
  | .delete _ => some none

def rendersIsilon : Event ObjectApi → Bool
  | ⟨.getDriverConfig _, .ok cfg⟩ => cfg = isilonConfig
  | _ => false

theorem exists_rendered_of_any (h : u.any rendersIsilon = true) :
    ∃ cr, ⟨.getDriverConfig cr, .ok isilonConfig⟩ ∈ u := by
  obtain ⟨e, he, htest⟩ := List.any_eq_true.mp h
  unfold rendersIsilon at htest
  split at htest
  next cr cfg =>
    obtain rfl := of_decide_eq_true htest
    exact ⟨cr, he⟩
  next => cases htest

def reads (o : ObjectRef) : Event ObjectApi → Bool
  | ⟨.get o', none⟩ => o' = o
  | _ => false

theorem mem_of_reads (h : u.any (reads o) = true) : ⟨.get o, none⟩ ∈ u := by
  obtain ⟨e, he, htest⟩ := List.any_eq_true.mp h
  unfold reads at htest
  split at htest
  next o' =>
    obtain rfl := of_decide_eq_true htest
    exact he
  next => cases htest

/-- The `Reconcile` of the deleted CR in such a cluster. -/
theorem exists_deletion (read : Option GoError) (test : List (Event ObjectApi) → Bool)
    (h : (Monitor.replay (fun _ => isilonAnswer read)
      ((reconcileRead shippedRuntime deletedIsilon).implement openRemoval none)).any
        (fun x => x.2.any removesFinalizer && x.2.any rendersIsilon && test x.2) = true) :
    ∃ u x cr, Run (reconcileObjects shippedRuntime deletedIsilon.key)
        (pass ⟨.getCSM deletedIsilon.key, .ok deletedIsilon⟩ :: u) x ∧ FinalizerRemoved u ∧
      ⟨.getDriverConfig cr, .ok isilonConfig⟩ ∈ u ∧ test u = true := by
  obtain ⟨x, u, hrun, hprops⟩ := Monitor.exists_run_of_replay h
  simp only [Bool.and_eq_true] at hprops
  obtain ⟨cr, hcr⟩ := exists_rendered_of_any hprops.1.2
  have hread : Run (reconcileObjects shippedRuntime deletedIsilon.key)
      (pass ⟨.getCSM deletedIsilon.key, .ok deletedIsilon⟩ :: u) x := .call hrun
  exact ⟨u, x, cr, hread, finalizerRemoved_of_any hprops.1.1, hcr, hprops.2⟩

/-- The theorem at a deletion that reads everything. -/
theorem driver_accounted_iff_isilon :
    ∃ u, FinalizerRemoved u ∧ ∀ o ∈ isilonConfig.objects, Accounted o u := by
  obtain ⟨u, x, cr, hrun, hfinalizer, hcr, htest⟩ := exists_deletion none
    (fun u => isilonConfig.workloads.all fun o => u.any (reads o)) (by decide +kernel)
  refine ⟨u, hfinalizer, ((driver_accounted_iff hrun rfl (by decide) rfl hfinalizer).2 cr isilonConfig
    hcr).mpr fun o ho => .inl ?_⟩
  exact mem_of_reads (List.all_eq_true.mp htest o ho)

/-- A read of the DaemonSet that times out is passed over: the DaemonSet stays, and the finalizer is
removed. -/
theorem daemonSet_left_behind :
    ∃ u x cr, Run (reconcileObjects shippedRuntime deletedIsilon.key)
        (pass ⟨.getCSM deletedIsilon.key, .ok deletedIsilon⟩ :: u) x ∧
      deletedIsilon.isBeingDeleted = true ∧ deletedIsilon.spec.driver.csiDriverType ≠ .unset ∧
      deletedIsilon.spec.driver.forceRemoveDriver.getD true = true ∧ FinalizerRemoved u ∧
      ⟨.getDriverConfig cr, .ok isilonConfig⟩ ∈ u ∧ ¬ ∀ o ∈ isilonConfig.objects, Accounted o u := by
  obtain ⟨u, x, cr, hrun, hfinalizer, hcr, htest⟩ := exists_deletion (some (errorf "timeout"))
    (fun u => !u.any (accounts ⟨.daemonSet, ⟨"dell", "isilon-node"⟩⟩)) (by decide +kernel)
  refine ⟨u, x, cr, hrun, rfl, by decide, rfl, hfinalizer, hcr, fun haccounted => ?_⟩
  have hany := (haccounted ⟨.daemonSet, ⟨"dell", "isilon-node"⟩⟩ (by decide)).any
  rw [hany] at htest
  cases htest

end CsmOperator
