import CsmOperator.Controllers.Runs
import CsmOperator.Status.Running
import CsmOperator.World.Threads

/-!
# What `PreChecks` vouches for

`PreChecks` is a sequence of checks, and returning no error should mean that every one of them was
made and passed. There is one exit where it does not: `checkUpgrade` reports a switch of an
authorization server between v1 and v2 as "not valid" without an error, and `PreChecks` logs this and
returns nil, before the registry, the owner reference and the modules were looked at. `Reconcile` takes
the nil for a pass and goes on to install the other major version.

On all other CRs a nil error vouches for all the checks.
-/

namespace CsmOperator

open Go Interaction

variable {rt : Runtime} {cr cr' : ContainerStorageModule} {tr : List (Event Api)}

/-! ## The checks that passed -/

/-- The precheck of a module was made and returned nil. -/
def ModulePassed (cr : ContainerStorageModule) (tr : List (Event Api)) (m : Module) : Prop :=
  (⟨.action (.precheckModule m) cr, none⟩ : Event Api) ∈ tr

theorem run_precheckModule {m : Module} (h : Run (precheckModule cr m) tr none) :
    ModulePassed cr tr m := by
  unfold precheckModule at h
  split at h
  next name _ =>
    rw [run_wrapAction_none h]
    exact List.mem_singleton_self _
  next => cases (Run.ret_iff.mp h).2

/-- The loop over the modules leaves out no enabled one. -/
theorem run_precheckModules {ms : List Module} (h : Run (precheckModules cr ms) tr none) :
    ∀ m ∈ ms, m.enabled = true → ModulePassed cr tr m := by
  induction ms generalizing tr with
  | nil => exact fun _ hm => nomatch hm
  | cons m ms ih =>
      intro m' hm' henabled
      unfold precheckModules at h
      split at h
      next =>
        obtain ⟨tr₁, tr₂, rfl, hfirst, hrest⟩ := run_orElse_none.mp h
        rcases List.mem_cons.mp hm' with rfl | hm'
        · exact List.mem_append_left _ (run_precheckModule hfirst)
        · exact List.mem_append_right _ (ih hrest m' hm' henabled)
      next hdisabled =>
        rcases List.mem_cons.mp hm' with rfl | hm'
        · exact absurd henabled hdisabled
        · exact ih h m' hm' henabled

/-! ## The verdict -/

/-- Every check was made and passed. -/
structure ChecksPassed (rt : Runtime) (cr : ContainerStorageModule) (tr : List (Event Api)) : Prop where
  upgrade : (checkUpgrade rt.op cr).1 = true
  registry : validateCustomRegistry rt cr.spec.customRegistry = none
  modules : ∀ m ∈ cr.spec.modules, m.enabled = true → ModulePassed cr tr m

/-- The CR asks an authorization server that was installed as v1 to become v2, or the other way
round. -/
def SwitchesAuthorization (op : OperatorConfig) (cr : ContainerStorageModule) : Prop :=
  ∃ oldVersion newVersion, cr.lookup configVersionKey = some oldVersion ∧
    cr.hasModule .authorizationServer = true ∧ newAuthorizationVersion op cr = .ok newVersion ∧
    switchesMajor oldVersion newVersion = true

/-- The upgrade check is negative without an error for a switch, and only then. -/
theorem checkUpgrade_eq_false_iff {op : OperatorConfig} :
    checkUpgrade op cr = (false, none) ↔ SwitchesAuthorization op cr := by
  -- a verdict of `IsValidUpgrade` is never negative without an error
  have hvalid : ∀ {old new : String} {t : CSMComponentType},
      isValidUpgrade op old new t ≠ (false, none) := by
    intro old new t heq
    have hfst := isValidUpgrade_fst_iff.mpr (congrArg Prod.snd heq)
    rw [heq] at hfst
    cases hfst
  constructor
  · intro h
    unfold checkUpgrade at h
    split at h
    next oldVersion hold =>
      split at h
      next hserver =>
        split at h
        next => cases h
        next newVersion hnew =>
          split at h
          next hswitch => exact ⟨oldVersion, newVersion, hold, hserver, hnew, hswitch⟩
          next => exact absurd h hvalid
      next =>
        split at h
        next => cases h
        next => exact absurd h hvalid
    next => cases h
  · rintro ⟨oldVersion, newVersion, hold, hserver, hnew, hswitch⟩
    have hold : cr.annotations.bind (· configVersionKey) = some oldVersion := hold
    simp only [checkUpgrade, hold, hserver, hnew, hswitch, if_true]

/-- What a run of `PreChecks` without an error has checked. -/
theorem run_preChecks_none (h : Run (preChecks rt cr) tr (cr', none)) :
    cr' = afterDriverPrecheck cr ∧
      (checkUpgrade rt.op cr' = (false, none) ∨ ChecksPassed rt cr' tr) := by
  obtain ⟨tr₁, tr₂, err, rfl, -, hrest⟩ := Run.bind_iff.mp h
  cases err with
  | some e => cases (Run.ret_iff.mp hrest).2
  | none =>
      dsimp only at hrest
      split at hrest
      next => cases (Run.ret_iff.mp hrest).2
      next hup =>
        cases (Run.ret_iff.mp hrest).2
        exact ⟨rfl, .inl hup⟩
      next hup =>
        obtain ⟨tr₃, tr₄, err, rfl, hchecks, hret⟩ := Run.bind_iff.mp hrest
        obtain ⟨rfl, heq⟩ := Run.ret_iff.mp hret
        cases heq
        refine ⟨rfl, .inr ?_⟩
        unfold checkRegistryOwnerModules at hchecks
        split at hchecks
        next => cases (Run.ret_iff.mp hchecks).2
        next hregistry =>
          obtain ⟨tr₅, tr₆, rfl, -, hmodules⟩ := run_orElse_none.mp hchecks
          refine ⟨congrArg Prod.fst hup, hregistry, fun m hm henabled => ?_⟩
          have hpassed := run_precheckModules hmodules m hm henabled
          exact List.mem_append_right _ (List.mem_append_left _ (List.mem_append_right _ hpassed))

/-- The precheck of a driver touches reverse proxy entries only. -/
theorem find?_enableReverseProxy (ms : List Module) :
    (enableReverseProxy ms).find? (·.name = .authorizationServer) =
      ms.find? (·.name = .authorizationServer) := by
  induction ms with
  | nil => rfl
  | cons m ms ih =>
      unfold enableReverseProxy
      split
      next hproxy =>
        rw [List.find?_cons_of_neg (by simp [hproxy]), List.find?_cons_of_neg (by simp [hproxy])]
      next =>
        rw [List.find?_cons, List.find?_cons, ih]

theorem getModule_afterDriverPrecheck (cr : ContainerStorageModule) :
    (afterDriverPrecheck cr).getModule .authorizationServer = cr.getModule .authorizationServer := by
  unfold afterDriverPrecheck
  split
  · rw [ContainerStorageModule.getModule, ContainerStorageModule.getModule]
    exact congrArg (Option.getD · _) (find?_enableReverseProxy cr.spec.modules)
  · rfl

theorem hasModule_afterDriverPrecheck (cr : ContainerStorageModule) :
    (afterDriverPrecheck cr).hasModule .authorizationServer = cr.hasModule .authorizationServer :=
  congrArg Kind.proxy (kind_afterDriverPrecheck cr)

theorem getVersion_afterDriverPrecheck (op : OperatorConfig) (cr : ContainerStorageModule) :
    getVersion op (afterDriverPrecheck cr) = getVersion op cr := by
  have hspec : (afterDriverPrecheck cr).spec.version = cr.spec.version ∧
      (afterDriverPrecheck cr).spec.driver = cr.spec.driver := by
    unfold afterDriverPrecheck
    split <;> exact ⟨rfl, rfl⟩
  simp only [getVersion, hspec.1, hspec.2, getModule_afterDriverPrecheck,
    hasModule_afterDriverPrecheck]

/-- What the CR asks for does not depend on the precheck of its driver. -/
theorem switchesAuthorization_afterDriverPrecheck {op : OperatorConfig} :
    SwitchesAuthorization op (afterDriverPrecheck cr) ↔ SwitchesAuthorization op cr := by
  have hversion : (afterDriverPrecheck cr).spec.version = cr.spec.version := by
    unfold afterDriverPrecheck
    split <;> rfl
  have hlookup : (afterDriverPrecheck cr).lookup = cr.lookup := by
    unfold afterDriverPrecheck
    split <;> rfl
  simp only [SwitchesAuthorization, newAuthorizationVersion, hlookup, hversion,
    getVersion_afterDriverPrecheck, getModule_afterDriverPrecheck, hasModule_afterDriverPrecheck]

/-! ## Reconcile -/

/-- `SyncCSM` has been called and has returned. -/
def Synchronised (tr : List (Event Api)) : Prop :=
  ∃ csm err, (⟨.note (.synced csm err), ()⟩ : Event Api) ∈ tr

/-- Everything but the return of `SyncCSM`. -/
def NotSynced : Request → Prop
  | .note (.synced _ _) => False
  | _ => True

/-- With an error of the upgrade check, `Reconcile` does not get to `SyncCSM`. -/
theorem notSynced_of_invalid (h : (checkUpgrade rt.op (afterDriverPrecheck cr)).2 ≠ none) :
    Asks NotSynced (fun _ => True) (reconcilePrepared rt cr) := by
  have hchecks : Asks NotSynced (fun x => x.2 ≠ none) (preChecks rt cr) := by
    refine Sat.mono (quiet_preChecks rt cr) (fun q hq => ?_) fun x hx hnone => ?_
    · cases q <;> trivial
    · obtain ⟨heq, hvalid⟩ := hx.2 hnone
      rw [heq] at hvalid
      exact h hvalid
  refine Asks.bind_of hchecks fun ⟨csm, err⟩ herr => ?_
  cases err with
  | none => exact absurd rfl herr
  | some e =>
      refine .bind (.ask (.event _ _ _ _) trivial) fun _ => .bind (.ask (.lock _) trivial) fun _ => ?_
      refine .bind (.ask (.updateCSMStatus _) trivial) fun _ => ?_
      exact .bind (.ask (.unlock _) trivial) fun _ => .pure trivial

/-- A nil error of `PreChecks` vouches for all the checks exactly when the CR does not switch an
authorization server between v1 and v2, and then `Reconcile` calls `SyncCSM` only after a positive
upgrade check. -/
theorem preChecks_vouches_iff (rt : Runtime) (cr : ContainerStorageModule) :
    (∀ tr cr', Run (preChecks rt cr) tr (cr', none) →
      (ChecksPassed rt cr' tr ↔ ¬ SwitchesAuthorization rt.op cr)) ∧
    ∀ tr x, Run (reconcilePrepared rt cr) tr x → Synchronised tr →
      ((checkUpgrade rt.op (afterDriverPrecheck cr)).1 = true ↔
        ¬ SwitchesAuthorization rt.op cr) := by
  refine ⟨fun tr cr' hrun => ?_, fun tr x hrun hsync => ?_⟩
  · obtain ⟨rfl, hverdict⟩ := run_preChecks_none hrun
    rw [← switchesAuthorization_afterDriverPrecheck, ← checkUpgrade_eq_false_iff]
    constructor
    · intro hpassed hfalse
      have hupgrade := hpassed.upgrade
      rw [hfalse] at hupgrade
      cases hupgrade
    · intro hswitch
      exact hverdict.resolve_left hswitch
  · have hvalid : (checkUpgrade rt.op (afterDriverPrecheck cr)).2 = none := by
      by_contra hinvalid
      obtain ⟨csm, err, hmem⟩ := hsync
      exact ((notSynced_of_invalid hinvalid).of_run hrun).1 _ hmem
    rw [← switchesAuthorization_afterDriverPrecheck, ← checkUpgrade_eq_false_iff]
    generalize hup : checkUpgrade rt.op (afterDriverPrecheck cr) = verdict at hvalid ⊢
    obtain ⟨valid, err⟩ := verdict
    cases valid <;> simp_all

/-! ### An authorization server -/

/-- An authorization server that was installed with one version and asks for another. -/
def proxyCR (installed version : String) : ContainerStorageModule :=
  { name := "authorization", namesp := "authorization"
    annotations := some fun k => if k = configVersionKey then some installed else none
    spec := { modules :=
      [{ name := .authorizationServer, enabled := true, configVersion := version }] } }

/-- The theorem for an upgrade from v2.4.0 to v2.5.0. -/
theorem preChecks_vouches_upgrade :
    ∃ tr cr', Run (preChecks shippedRuntime (proxyCR "v2.4.0" "v2.5.0")) tr (cr', none) ∧
      ChecksPassed shippedRuntime cr' tr := by
  have hreplay : (Monitor.replay (fun _ => obliging (proxyCR "v2.4.0" "v2.5.0") {} fun _ => none)
      (preChecks shippedRuntime (proxyCR "v2.4.0" "v2.5.0"))).any
        (fun x => x.1.2.isNone) = true := by decide +kernel
  obtain ⟨⟨cr', err⟩, tr, hrun, herr⟩ := Monitor.exists_run_of_replay hreplay
  obtain rfl := Option.isNone_iff_eq_none.mp herr
  refine ⟨tr, cr', hrun, ((preChecks_vouches_iff _ _).1 tr cr' hrun).mpr ?_⟩
  rw [← checkUpgrade_eq_false_iff]
  intro hfalse
  have hupgrade : (checkUpgrade shippedRuntime.op (proxyCR "v2.4.0" "v2.5.0")).1 = true := by
    decide +kernel
  rw [hfalse] at hupgrade
  cases hupgrade

/-- The version an authorization server was installed with by a call. -/
def installedServer : Event Api → Option String
  | ⟨.action (.reconcileAuthorization false) csm, none⟩ =>
    some (csm.getModule .authorizationServer).configVersion
  | _ => none

theorem of_installedServer {e : Event Api} {version : String}
    (h : installedServer e = some version) :
    ∃ csm, e = ⟨.action (.reconcileAuthorization false) csm, none⟩ ∧
      (csm.getModule .authorizationServer).configVersion = version := by
  unfold installedServer at h
  split at h
  next csm => exact ⟨csm, rfl, Option.some.inj h⟩
  next => cases h

/-- A CR that asks a v1 server to become v2.5.0 passes the prechecks although the upgrade check says no,
without any check of its module, and `Reconcile` installs v2.5.0. -/
theorem switch_passes_preChecks :
    (∃ tr cr', Run (preChecks shippedRuntime (proxyCR "v1.14.0" "v2.5.0")) tr (cr', none) ∧
      (checkUpgrade shippedConfig (proxyCR "v1.14.0" "v2.5.0")).1 = false ∧
      ¬ ChecksPassed shippedRuntime cr' tr) ∧
    ∃ tr x csm, Run (reconcilePrepared shippedRuntime (proxyCR "v1.14.0" "v2.5.0")) tr x ∧
      (⟨.action (.reconcileAuthorization false) csm, none⟩ : Event Api) ∈ tr ∧
      (csm.getModule .authorizationServer).configVersion = "v2.5.0" := by
  have hupgrade : (checkUpgrade shippedConfig (proxyCR "v1.14.0" "v2.5.0")).1 = false := by
    decide +kernel
  constructor
  · have hreplay : (Monitor.replay (fun _ => obliging (proxyCR "v1.14.0" "v2.5.0") {} fun _ => none)
        (preChecks shippedRuntime (proxyCR "v1.14.0" "v2.5.0"))).any
          (fun x => x.1.2.isNone) = true := by decide +kernel
    obtain ⟨⟨cr', err⟩, tr, hrun, herr⟩ := Monitor.exists_run_of_replay hreplay
    obtain rfl := Option.isNone_iff_eq_none.mp herr
    refine ⟨tr, cr', hrun, hupgrade, fun hpassed => ?_⟩
    obtain ⟨rfl, -⟩ := run_preChecks_none hrun
    exact absurd (hpassed.upgrade.symm.trans hupgrade) nofun
  · have hreplay : (Monitor.replay (fun _ => obliging (proxyCR "v1.14.0" "v2.5.0") {} fun _ => none)
        (reconcilePrepared shippedRuntime (proxyCR "v1.14.0" "v2.5.0"))).any
          (fun x => x.2.any fun e => installedServer e = some "v2.5.0") = true := by decide +kernel
    obtain ⟨x, tr, hrun, htest⟩ := Monitor.exists_run_of_replay hreplay
    obtain ⟨e, hmem, he⟩ := List.any_eq_true.mp htest
    obtain ⟨csm, rfl, hversion⟩ := of_installedServer (of_decide_eq_true he)
    exact ⟨tr, x, csm, hrun, hmem, hversion⟩

end CsmOperator
