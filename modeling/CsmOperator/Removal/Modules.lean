import CsmOperator.Controllers.UnderWay
import CsmOperator.World.Cluster

/-!
# What a deletion removes besides the driver

A deleted CR can have two modules with objects of their own: the authorization server, and the reverse
proxy. `Reconcile` calls `removeModule` once for each module entry that asks for its removal, and
`removeModule` looks at neither the entry nor its flag. This module says when the two modules are
removed, and what becomes of the owner reference of a driver that is kept.
-/

namespace CsmOperator

open Interaction

variable {rt : Runtime} {key : NamespacedName} {csm cr : ContainerStorageModule}
  {tr : List (Event Api)} {x : Result × Option GoError}

/-! ## Standalone modules -/

inductive Standalone where
  | authorizationServer
  | reverseProxy
  deriving DecidableEq, Repr

namespace Standalone

def type : Standalone → ModuleType
  | authorizationServer => .authorizationServer
  | reverseProxy => .reverseProxy

/-- The action that deletes the objects of the module. -/
def removal : Standalone → Action
  | authorizationServer => .reconcileAuthorization true
  | reverseProxy => .reconcileReverseProxyServer true

/-- Some entry of the module is enabled. -/
def Enabled (m : Standalone) (csm : ContainerStorageModule) : Prop :=
  ∃ entry ∈ csm.spec.modules, entry.name = m.type ∧ entry.enabled = true

/-- The module's own entry is enabled and asks for its removal. -/
def Asked (m : Standalone) (csm : ContainerStorageModule) : Prop :=
  ∃ entry ∈ csm.spec.modules, entry.name = m.type ∧ entry.enabled = true ∧
    entry.forceRemoveModule = true

/-- The request deletes the objects of the module. -/
def Removes (m : Standalone) : Request → Prop
  | .action a _ => a = m.removal
  | _ => False

/-- The objects of the module are deleted. -/
def Removed (m : Standalone) (tr : List (Event Api)) : Prop := ∃ e ∈ tr, m.Removes e.req

theorem isSome_isModuleEnabled (m : Standalone) (csm : ContainerStorageModule) :
    (isModuleEnabled csm m.type).isSome = true ↔ m.Enabled csm := by
  simp [isModuleEnabled, Enabled]

end Standalone

/-- Some entry asks for the removal of its module. -/
def AnyFlag (csm : ContainerStorageModule) : Prop :=
  ∃ entry ∈ csm.spec.modules, entry.forceRemoveModule = true

/-- The removal of the authorization server succeeded. -/
def AuthRemoved : Event Api → Prop
  | ⟨.action a _, err⟩ => a = .reconcileAuthorization true ∧ err = none
  | _ => False

/-- The reverse proxy was found to run as a sidecar. -/
def FindsSidecar : Event Api → Prop
  | ⟨.isReverseProxySidecar, sidecar⟩ => sidecar = true
  | _ => False

@[simp] theorem authRemoved_action {a : Action} {cr : ContainerStorageModule}
    {err : Api.Resp (.action a cr)} :
    AuthRemoved ⟨.action a cr, err⟩ ↔ a = .reconcileAuthorization true ∧ err = (none : Option GoError) :=
  Iff.rfl

@[simp] theorem not_authRemoved_sidecar {r : Api.Resp .isReverseProxySidecar} :
    ¬ AuthRemoved ⟨.isReverseProxySidecar, r⟩ := fun h => h

@[simp] theorem findsSidecar_sidecar {sidecar : Bool} :
    FindsSidecar ⟨.isReverseProxySidecar, sidecar⟩ ↔ sidecar = true := Iff.rfl

@[simp] theorem not_findsSidecar_action {a : Action} {cr : ContainerStorageModule}
    {err : Api.Resp (.action a cr)} : ¬ FindsSidecar ⟨.action a cr, err⟩ := fun h => h

@[simp] theorem removes_action {m : Standalone} {a : Action} {cr : ContainerStorageModule} :
    m.Removes (.action a cr) ↔ a = m.removal := Iff.rfl

@[simp] theorem not_removes_sidecar {m : Standalone} : ¬ m.Removes .isReverseProxySidecar := fun h => h

/-! ## The loop over the modules -/

theorem run_guarded_act {c : Bool} {a : Action} {err : Option GoError}
    (h : Run (guarded c [act a csm]) tr err) : tr = if c then [⟨.action a csm, err⟩] else [] := by
  cases c with
  | false => exact (Run.ret_iff.mp h).1
  | true =>
      have hact : ∀ {t err'}, Run (act a csm) t err' → t = [⟨.action a csm, err'⟩] := by
        intro t err' hrun
        obtain ⟨r, t', rfl, hret⟩ := Run.call_iff.mp hrun
        obtain ⟨rfl, rfl⟩ := Run.ret_iff.mp hret
        rfl
      obtain ⟨e, rfl, hrun⟩ | ⟨tr₁, tr₂, rfl, hrun, hret⟩ := run_orElse h
      · exact hact hrun
      · obtain ⟨rfl, rfl⟩ := Run.ret_iff.mp hret
        rw [hact hrun]
        rfl

/-- The second half of `removeModule`. -/
theorem run_removeProxy {err : Option GoError} (h : Run (do
      if (isModuleEnabled csm .reverseProxy).isSome then
        guarded (!(← isReverseProxySidecar)) [act (.reconcileReverseProxyServer true) csm]
      else pure none) tr err) :
    (isModuleEnabled csm .reverseProxy).isSome = false ∧ tr = [] ∨
    (isModuleEnabled csm .reverseProxy).isSome = true ∧ (tr = [⟨.isReverseProxySidecar, true⟩] ∨
      tr = [⟨.isReverseProxySidecar, false⟩,
        ⟨.action (.reconcileReverseProxyServer true) csm, err⟩]) := by
  split at h
  next henabled =>
    obtain ⟨tr₁, tr₂, sidecar, rfl, hask, hrest⟩ := Run.bind_iff.mp h
    obtain ⟨r, tr', rfl, hret⟩ := Run.call_iff.mp hask
    obtain ⟨rfl, rfl⟩ := Run.ret_iff.mp hret
    have htr := run_guarded_act hrest
    match sidecar with
    | true => exact .inr ⟨henabled, .inl (by rw [htr]; rfl)⟩
    | false => exact .inr ⟨henabled, .inr (by rw [htr]; rfl)⟩
  next henabled => exact .inl ⟨Bool.eq_false_iff.mpr henabled, (Run.ret_iff.mp h).1⟩

/-- The two halves of `removeModule`, as a list of calls. -/
theorem run_removeModule_eq {err : Option GoError} (h : Run (removeModule csm) tr err) :
    ∃ tr₁ tr₂ err₁, tr = tr₁ ++ tr₂ ∧
      tr₁ = (if (isModuleEnabled csm .authorizationServer).isSome then
        [⟨.action (.reconcileAuthorization true) csm, err₁⟩] else []) ∧
      ((isModuleEnabled csm .authorizationServer).isSome = true ∧ err₁ ≠ (none : Option GoError) ∧
        tr₂ = [] ∨ err₁ = (none : Option GoError) ∧ ∃ err₂, Run (do
        if (isModuleEnabled csm .reverseProxy).isSome then
          guarded (!(← isReverseProxySidecar)) [act (.reconcileReverseProxyServer true) csm]
        else pure none) tr₂ err₂) := by
  obtain ⟨e, rfl, hauth⟩ | ⟨tr₁, tr₂, rfl, hauth, hproxy⟩ := run_orElse h
  · refine ⟨tr, [], some e, (List.append_nil _).symm, run_guarded_act hauth, .inl ⟨?_, nofun, rfl⟩⟩
    by_contra henabled
    rw [guarded, if_neg henabled] at hauth
    cases (Run.ret_iff.mp hauth).2
  · refine ⟨tr₁, tr₂, none, rfl, run_guarded_act hauth, .inr ⟨rfl, ?_⟩⟩
    obtain ⟨e, rfl, hrun⟩ | ⟨tr₃, tr₄, rfl, hrun, hret⟩ := run_orElse hproxy
    · exact ⟨_, hrun⟩
    · obtain ⟨rfl, rfl⟩ := Run.ret_iff.mp hret
      rw [List.append_nil]
      exact ⟨_, hrun⟩

/-- One call of `removeModule` removes the authorization server if it is enabled, and then the reverse
proxy if that is enabled and not a sidecar. -/
theorem run_removeModule {err : Option GoError} (h : Run (removeModule csm) tr err) :
    (Standalone.authorizationServer.Removed tr ↔ Standalone.authorizationServer.Enabled csm) ∧
    ((∀ e ∈ tr, ¬ FindsSidecar e) → (Standalone.reverseProxy.Removed tr ↔
      Standalone.reverseProxy.Enabled csm ∧
        (Standalone.authorizationServer.Enabled csm → ∃ e ∈ tr, AuthRemoved e))) := by
  rw [← Standalone.isSome_isModuleEnabled, ← Standalone.isSome_isModuleEnabled, Standalone.type,
    Standalone.type]
  obtain ⟨tr₁, tr₂, err₁, rfl, rfl, hproxy⟩ := run_removeModule_eq h
  obtain ⟨hauth, hfailed, rfl⟩ | ⟨rfl, err₂, hrun⟩ := hproxy
  · simp [hauth, hfailed, Standalone.Removed, Standalone.removal]
  · obtain ⟨hdisabled, rfl⟩ | ⟨henabled, rfl | rfl⟩ := run_removeProxy hrun
    · cases (isModuleEnabled csm .authorizationServer).isSome <;>
        simp [hdisabled, Standalone.Removed, Standalone.removal]
    · cases (isModuleEnabled csm .authorizationServer).isSome <;>
        simp [henabled, Standalone.Removed, Standalone.removal]
    · have haccepted : AuthRemoved ⟨.action (.reconcileAuthorization true) csm, none⟩ := ⟨rfl, rfl⟩
      cases (isModuleEnabled csm .authorizationServer).isSome <;>
        simp [henabled, haccepted, Standalone.Removed, Standalone.removal]

/-- So does the loop, if it is entered at all. -/
theorem run_removeModules {err : Option GoError} (h : Run (removeModules csm) tr err) :
    (Standalone.authorizationServer.Removed tr ↔
      Standalone.authorizationServer.Enabled csm ∧ AnyFlag csm) ∧
    ((∀ e ∈ tr, ¬ FindsSidecar e) → (Standalone.reverseProxy.Removed tr ↔
      (Standalone.reverseProxy.Enabled csm ∧ AnyFlag csm) ∧
        (Standalone.authorizationServer.Enabled csm → ∃ e ∈ tr, AuthRemoved e))) := by
  obtain ⟨hcalls, hfirst⟩ := run_firstError h
  have hcall : ∀ e ∈ tr, ∃ t ⊆ tr, e ∈ t ∧ (∃ err, Run (removeModule csm) t err) ∧ AnyFlag csm := by
    intro e he
    obtain ⟨p, hp, t, ht, het, hrun⟩ := hcalls e he
    obtain ⟨entry, hentry, rfl⟩ := List.mem_map.mp hp
    obtain ⟨hmem, hflag⟩ := List.mem_filter.mp hentry
    exact ⟨t, ht, het, hrun, entry, hmem, hflag⟩
  have hone : AnyFlag csm → ∃ t ⊆ tr, ∃ err, Run (removeModule csm) t err := by
    rintro ⟨entry, hentry, hflag⟩
    have hflagged : entry ∈ csm.spec.modules.filter (·.forceRemoveModule) :=
      List.mem_filter.mpr ⟨hentry, hflag⟩
    obtain ⟨e₀, es, heq⟩ := List.exists_cons_of_ne_nil (List.ne_nil_of_mem hflagged)
    exact hfirst (removeModule csm) (es.map fun _ => removeModule csm) (by rw [heq, List.map_cons])
  refine ⟨⟨?_, ?_⟩, fun hstandalone => ⟨?_, ?_⟩⟩
  · rintro ⟨e, he, hremoves⟩
    obtain ⟨t, -, het, ⟨err, hrun⟩, hentry⟩ := hcall e he
    exact ⟨(run_removeModule hrun).1.mp ⟨e, het, hremoves⟩, hentry⟩
  · rintro ⟨henabled, hflag⟩
    obtain ⟨t, ht, err, hrun⟩ := hone hflag
    obtain ⟨e, he, hremoves⟩ := (run_removeModule hrun).1.mpr henabled
    exact ⟨e, ht he, hremoves⟩
  · rintro ⟨e, he, hremoves⟩
    obtain ⟨t, ht, het, ⟨err, hrun⟩, hflag⟩ := hcall e he
    obtain ⟨henabled, hauth⟩ := ((run_removeModule hrun).2 fun e he => hstandalone e (ht he)).mp
      ⟨e, het, hremoves⟩
    refine ⟨⟨henabled, hflag⟩, fun h => ?_⟩
    obtain ⟨e', he', haccepted⟩ := hauth h
    exact ⟨e', ht he', haccepted⟩
  · rintro ⟨⟨henabled, hflag⟩, hauth⟩
    -- the iteration in which the authorization server was removed, or else the first one
    obtain ⟨t, ht, ⟨err, hrun⟩, haccepted⟩ : ∃ t ⊆ tr, (∃ err, Run (removeModule csm) t err) ∧
        (Standalone.authorizationServer.Enabled csm → ∃ e ∈ t, AuthRemoved e) := by
      by_cases h : Standalone.authorizationServer.Enabled csm
      · obtain ⟨e, he, haccepted⟩ := hauth h
        obtain ⟨t, ht, het, hrun, -⟩ := hcall e he
        exact ⟨t, ht, hrun, fun _ => ⟨e, het, haccepted⟩⟩
      · obtain ⟨t, ht, hrun⟩ := hone hflag
        exact ⟨t, ht, hrun, fun h' => (h h').elim⟩
    obtain ⟨e, he, hremoves⟩ := ((run_removeModule hrun).2 fun e he => hstandalone e (ht he)).mpr
      ⟨henabled, haccepted⟩
    exact ⟨e, ht he, hremoves⟩

/-! ## The rest of a deletion -/

/-- Requests that remove no standalone module. -/
def Apart (q : Request) : Prop := ∀ m : Standalone, ¬ m.Removes q

theorem apart_action {a : Action} {cr : ContainerStorageModule}
    (h : a ≠ .reconcileAuthorization true ∧ a ≠ .reconcileReverseProxyServer true) :
    Apart (.action a cr) := by
  intro m hm
  cases m with
  | authorizationServer => exact h.1 hm
  | reverseProxy => exact h.2 hm

theorem Checking.apart {q : Request} (h : Checking q) : Apart q := by
  cases q with
  | action a cr =>
      have hchecks : a.checks = true := h
      refine apart_action ⟨?_, ?_⟩ <;> rintro rfl <;> cases hchecks
  | _ => exact fun _ hm => hm

theorem Rejecting.apart {q : Request} (h : Rejecting q) : Apart q := by
  cases q with
  | action a cr => exact Checking.apart (q := .action a cr) h
  | _ => exact fun _ hm => hm

theorem Reporting.apart {q : Request} (h : Reporting q) : Apart q := by
  cases q with
  | action a cr => exact h.elim
  | _ => exact fun _ hm => hm

theorem Finishing.apart {q : Request} (h : Finishing q) : Apart q := by
  cases q with
  | action a cr => exact h.elim
  | _ => exact fun _ hm => hm

theorem apart_removeDriver (cr : ContainerStorageModule) :
    Asks Apart (fun _ => True) (removeDriver cr) := by
  have hact : ∀ a, a ≠ Action.reconcileAuthorization true ∧ a ≠ .reconcileReverseProxyServer true →
      Asks Apart (fun _ => True) (act a cr) := fun a ha => .act (apart_action ha)
  have hwrap : ∀ text a, a ≠ Action.reconcileAuthorization true ∧ a ≠ .reconcileReverseProxyServer true →
      Asks Apart (fun _ => True) (wrapAction text a cr) := fun text a ha => .wrapAction (apart_action ha)
  refine .guarded ?_
  simp only [List.forall_mem_cons, List.not_mem_nil, false_imp_iff, implies_true, and_true]
  refine ⟨hact _ (by simp), hact _ (by simp), .guarded ?_, .guarded ?_, ?_, .guarded ?_, .guarded ?_⟩
  · simp [hact, Asks.logError]
  · simp [hact]
  · refine .ite (.bind (.isReverseProxySidecar fun _ hm => hm) fun _ => ?_) (.pure trivial)
    exact .guarded (by simp [hwrap])
  · simp [hwrap]
  · simp [hact]

theorem apart_removeDeploymentOwnerRef (cr : ContainerStorageModule) :
    Asks Apart (fun _ => True) (removeDeploymentOwnerRef cr) := by
  refine .bind (.ask (.getDeployment _) fun _ hm => hm) fun r => ?_
  match r with
  | .error e => exact .pure trivial
  | .ok d =>
      dsimp only
      split
      · exact .pure trivial
      · exact .ask (.updateDeployment _) fun _ hm => hm

theorem apart_of_driverDone {force : Bool} (h : DriverDone csm force tr) : ∀ e ∈ tr, Apart e.req := by
  cases force with
  | true => exact ((apart_removeDriver csm).of_run h).1
  | false =>
      obtain ⟨err, hrun⟩ := h
      exact ((apart_removeDeploymentOwnerRef csm).of_run hrun).1

/-! ## Flags -/

theorem sameFlags_enableReverseProxy {ms ms' : List Module} (h : SameFlags ms ms') :
    SameFlags (enableReverseProxy ms) (enableReverseProxy ms') := by
  induction ms generalizing ms' with
  | nil =>
      obtain rfl : ms' = [] := List.map_eq_nil_iff.mp h.symm
      rfl
  | cons m ms ih =>
      cases ms' with
      | nil => cases h
      | cons m' ms' =>
          obtain ⟨hm, hms⟩ := List.cons.inj h
          have hname : m.name = m'.name := congrArg Prod.fst hm
          unfold enableReverseProxy
          by_cases hproxy : m.name = .reverseProxy
          · rw [if_pos hproxy, if_pos (hname ▸ hproxy)]
            exact congrArg₂ List.cons (Prod.ext hname rfl) hms
          · rw [if_neg hproxy, if_neg (hname ▸ hproxy)]
            exact congrArg₂ List.cons hm (ih hms)

/-- Preparation keeps what the prechecks make of the flags. -/
theorem sameFlags_of_prepare {op : OperatorConfig} (h : prepare op csm = .ok cr) :
    SameFlags (afterDriverPrecheck cr).spec.modules (afterDriverPrecheck csm).spec.modules := by
  obtain ⟨modules, rfl, hflags⟩ := prepare_spec h
  unfold afterDriverPrecheck
  by_cases hmax : csm.spec.driver.csiDriverType = .powerMax
  · rw [if_pos hmax, if_pos (show (defaultForceRemoveDriver csm).spec.driver.csiDriverType = _ from hmax)]
    exact sameFlags_enableReverseProxy hflags
  · rw [if_neg hmax, if_neg (show (defaultForceRemoveDriver csm).spec.driver.csiDriverType ≠ _ from hmax)]
    exact hflags

theorem exists_flags_iff {P : ModuleType × Bool × Bool → Prop} {ms ms' : List Module}
    (h : SameFlags ms ms') : (∃ m ∈ ms, P m.flags) ↔ ∃ m ∈ ms', P m.flags := by
  have hmap : ∀ l : List Module, (∃ m ∈ l, P m.flags) ↔ ∃ f ∈ l.map (·.flags), P f := by
    simp
  rw [hmap, hmap, h]

theorem Standalone.enabled_iff (m : Standalone)
    (h : SameFlags csm.spec.modules cr.spec.modules) : m.Enabled csm ↔ m.Enabled cr :=
  exists_flags_iff (P := fun f => f.1 = m.type ∧ f.2.1 = true) h

theorem anyFlag_iff (h : SameFlags csm.spec.modules cr.spec.modules) : AnyFlag csm ↔ AnyFlag cr :=
  exists_flags_iff (P := fun f => f.2.2 = true) h

/-- The prechecks set flags and never take one away. -/
theorem Standalone.Asked.enabled {m : Standalone} (h : m.Asked csm) :
    m.Enabled (afterDriverPrecheck csm) ∧ AnyFlag (afterDriverPrecheck csm) := by
  have hkept : ∀ ms : List Module, ∀ entry ∈ ms, entry.enabled = true → entry.forceRemoveModule = true →
      ∃ entry' ∈ enableReverseProxy ms, entry'.name = entry.name ∧ entry'.enabled = true ∧
        entry'.forceRemoveModule = true := by
    intro ms
    induction ms with
    | nil => exact fun _ hmem => (List.not_mem_nil hmem).elim
    | cons m₀ ms ih =>
        intro entry hmem henabled hflag
        unfold enableReverseProxy
        split
        · rcases List.mem_cons.mp hmem with rfl | hmem
          · exact ⟨_, List.mem_cons_self, rfl, rfl, rfl⟩
          · exact ⟨entry, List.mem_cons_of_mem _ hmem, rfl, henabled, hflag⟩
        · rcases List.mem_cons.mp hmem with rfl | hmem
          · exact ⟨entry, List.mem_cons_self, rfl, henabled, hflag⟩
          · obtain ⟨entry', hmem', hprops⟩ := ih entry hmem henabled hflag
            exact ⟨entry', List.mem_cons_of_mem _ hmem', hprops⟩
  obtain ⟨entry, hmem, hname, henabled, hflag⟩ := h
  unfold afterDriverPrecheck
  split
  · obtain ⟨entry', hmem', hname', henabled', hflag'⟩ := hkept _ entry hmem henabled hflag
    exact ⟨⟨entry', hmem', hname'.trans hname, henabled'⟩, entry', hmem', hflag'⟩
  · exact ⟨⟨entry, hmem, hname, henabled⟩, entry, hmem, hflag⟩

/-! ## When a module is removed -/

/-- No call before the removal of the module fails: the CR passes the prechecks, the driver is dealt
with, and for the reverse proxy a removal of the authorization server, if there is one, succeeds. -/
def GetsTo (rt : Runtime) (csm : ContainerStorageModule) (m : Standalone) (tr : List (Event Api)) :
    Prop :=
  ∃ cr force tr₀ tr₁ tr₂, prepare rt.op csm = .ok cr ∧ tr = tr₀ ++ (tr₁ ++ tr₂) ∧
    Run (preChecks rt cr) tr₀ (afterDriverPrecheck cr, none) ∧
    (afterDriverPrecheck cr).spec.driver.forceRemoveDriver = some force ∧
    DriverDone (afterDriverPrecheck cr) force tr₁ ∧
    (m = .reverseProxy → Standalone.authorizationServer.Enabled (afterDriverPrecheck csm) →
      ∃ e ∈ tr, AuthRemoved e)

/-- In this run the module is a standalone one. -/
def Standalone.Standing (m : Standalone) (tr : List (Event Api)) : Prop :=
  m = .reverseProxy → ∀ e ∈ tr, ¬ FindsSidecar e

theorem AuthRemoved.removes {e : Event Api} (h : AuthRemoved e) :
    Standalone.authorizationServer.Removes e.req := by
  obtain ⟨q, r⟩ := e
  cases q with
  | action a cr => exact h.1
  | _ => exact h.elim

/-- A standalone module is removed if `Reconcile` gets to it, it is enabled and some entry, of whatever
module, asks for its removal. -/
theorem removed_iff (h : Run (reconcile rt key) (⟨.getCSM key, .ok csm⟩ :: tr) x)
    (hdeleting : csm.isBeingDeleted = true) {m : Standalone} (hstanding : m.Standing tr) :
    m.Removed tr ↔ GetsTo rt csm m tr ∧ m.Enabled (afterDriverPrecheck csm) ∧
      AnyFlag (afterDriverPrecheck csm) := by
  have hnone : ∀ {t : List (Event Api)}, (∀ e ∈ t, Apart e.req) → ∀ m : Standalone, ¬ m.Removed t :=
    fun ht m ⟨e, he, hremoves⟩ => ht e he m hremoves
  obtain ⟨hreject, hfailed⟩ | ⟨cr, tr₀, tr₁, hprepare, rfl, hchecks, hdeletion⟩ :=
    run_reconcile_deleting h hdeleting
  · -- a rejected CR
    refine ⟨fun hremoved => (hnone (fun e he => (hreject e he).apart) m hremoved).elim, ?_⟩
    rintro ⟨⟨cr, force, tr₀, tr₁, tr₂, hprepare, heq, hchecks, -⟩, -⟩
    obtain ⟨tr₀', tr₁', cr', e, heq', hchecks'⟩ := hfailed cr hprepare
    cases (hchecks.append_inj hchecks' (heq.symm.trans heq')).2.1
  have hbefore : ∀ e ∈ tr₀, Apart e.req :=
    fun e he => (((checking_preChecks rt cr).of_run hchecks).1 e he).apart
  obtain ⟨tr₂, tr₃, y, rfl, hcontent, hnothing, hfinishing⟩ := run_reconcileDeletion_cleanup hdeletion
  obtain ⟨force, tr₄, tr₅, hforce, rfl, hcases⟩ := run_removeContent hcontent
  obtain ⟨e, rfl, hdriver, hreports, hy⟩ | ⟨hdone, tr₆, tr₇, err, rfl, hmodules, hreports, -, -⟩ := hcases
  · -- a driver that could not be removed
    obtain rfl := hnothing hy
    rw [List.append_nil] at *
    constructor
    · intro hremoved
      refine (hnone (fun e' he' => ?_) m hremoved).elim
      simp only [List.mem_append] at he'
      obtain he' | he' | he' := he'
      · exact hbefore e' he'
      · exact ((apart_removeDriver _).of_run hdriver).1 e' he'
      · exact (hreports e' he').apart
    · rintro ⟨⟨cr', force, tr₀', tr₁', tr₂', hprepare', heq, hchecks', hforce', hdone, -⟩, -⟩
      obtain rfl : cr' = cr := Except.ok.inj (hprepare'.symm.trans hprepare)
      obtain ⟨rfl, -, heq⟩ := hchecks.append_inj hchecks' heq
      obtain rfl : true = force := Option.some.inj (hforce.symm.trans hforce')
      cases (hdriver.append_inj hdone heq).2.1
  · -- the loop is entered
    have hsame := sameFlags_of_prepare hprepare
    obtain ⟨hauth, hproxy⟩ := run_removeModules hmodules
    have hmem : ∀ e ∈ tr₆, e ∈ tr₀ ++ (tr₄ ++ (tr₆ ++ tr₇) ++ tr₃) := fun e he => by simp [he]
    have hwhere : ∀ e ∈ tr₀ ++ (tr₄ ++ (tr₆ ++ tr₇) ++ tr₃), ¬ Apart e.req → e ∈ tr₆ := by
      intro e he hnot
      simp only [List.mem_append] at he
      obtain he | (he | he | he) | he := he
      · exact (hnot (hbefore e he)).elim
      · exact (hnot (apart_of_driverDone hdone e he)).elim
      · exact he
      · exact (hnot (hreports e he).apart).elim
      · exact (hnot (hfinishing e he).apart).elim
    have hremoved : ∀ m : Standalone, m.Removed (tr₀ ++ (tr₄ ++ (tr₆ ++ tr₇) ++ tr₃)) ↔ m.Removed tr₆ :=
      fun m => ⟨fun ⟨e, he, hm⟩ => ⟨e, hwhere e he fun happart => happart m hm, hm⟩,
        fun ⟨e, he, hm⟩ => ⟨e, hmem e he, hm⟩⟩
    have haccepted : (∃ e ∈ tr₀ ++ (tr₄ ++ (tr₆ ++ tr₇) ++ tr₃), AuthRemoved e) ↔
        ∃ e ∈ tr₆, AuthRemoved e :=
      ⟨fun ⟨e, he, hm⟩ => ⟨e, hwhere e he fun happart => happart _ hm.removes, hm⟩,
        fun ⟨e, he, hm⟩ => ⟨e, hmem e he, hm⟩⟩
    rw [hremoved, ← m.enabled_iff hsame, ← anyFlag_iff hsame]
    have hgets : GetsTo rt csm m (tr₀ ++ (tr₄ ++ (tr₆ ++ tr₇) ++ tr₃)) ↔
        (m = .reverseProxy → Standalone.authorizationServer.Enabled (afterDriverPrecheck cr) →
          ∃ e ∈ tr₆, AuthRemoved e) := by
      rw [Standalone.enabled_iff _ hsame, ← haccepted]
      constructor
      · rintro ⟨_, _, _, _, _, -, -, -, -, -, hlast⟩
        exact hlast
      · intro hlast
        exact ⟨cr, force, tr₀, tr₄, tr₆ ++ tr₇ ++ tr₃, hprepare, by simp, hchecks, hforce, hdone, hlast⟩
    rw [hgets]
    cases m with
    | authorizationServer =>
        rw [hauth]
        exact ⟨fun h => ⟨nofun, h⟩, fun h => h.2⟩
    | reverseProxy =>
        rw [hproxy fun e he => hstanding rfl e (hmem e he)]
        exact ⟨fun h => ⟨fun _ => h.2, h.1⟩, fun h => ⟨h.2, h.1 rfl⟩⟩

/-! ## The owner reference of a driver that is kept -/

def ContainerStorageModule.controllerKey (csm : ContainerStorageModule) : NamespacedName :=
  ⟨csm.namesp, csm.getControllerName⟩

/-- The calls about a Deployment. -/
def aboutDeployment (k : NamespacedName) : Event Api → Bool
  | ⟨.getDeployment k', _⟩ => k' = k
  | ⟨.updateDeployment d, _⟩ => d.key = k
  | _ => false

def lastCall (k : NamespacedName) (tr : List (Event Api)) : Option (Event Api) :=
  (tr.filter (aboutDeployment k)).getLast?

def Deployment.OwnedBy (d : Deployment) (uid : String) : Prop :=
  ∃ ref ∈ d.ownerReferences.getD [], ref.uid = uid

/-- The call shows the Deployment to be absent or without a reference to the owner. -/
def ShowsDisowned (uid : String) : Event Api → Prop
  | ⟨.getDeployment _, .ok d⟩ => ¬ d.OwnedBy uid
  | ⟨.getDeployment _, .error e⟩ => e.kind = .notFound
  | ⟨.updateDeployment d, none⟩ => ¬ d.OwnedBy uid
  | ⟨.updateDeployment _, some e⟩ => e.kind = .notFound
  | _ => False

/-- The call failed, and not because there is no such Deployment. -/
def callFailed : Event Api → Bool
  | ⟨.getDeployment _, .error e⟩ => e.kind ≠ .notFound
  | ⟨.updateDeployment _, some e⟩ => e.kind ≠ .notFound
  | _ => false

/-- Requests that are not about Deployments. -/
def Elsewhere : Request → Prop
  | .getDeployment _ | .updateDeployment _ => False
  | _ => True

theorem lastCall_append {k : NamespacedName} {tr₁ tr₂ : List (Event Api)} {e : Event Api}
    (h : lastCall k tr₁ = some e) (hrest : ∀ e ∈ tr₂, Elsewhere e.req) :
    lastCall k (tr₁ ++ tr₂) = some e := by
  have hnil : tr₂.filter (aboutDeployment k) = [] := by
    refine List.filter_eq_nil_iff.mpr fun e he => ?_
    have helse := hrest e he
    obtain ⟨q, r⟩ := e
    cases q <;> first | exact helse.elim | exact Bool.false_ne_true
  rw [lastCall, List.filter_append, hnil, List.append_nil]
  exact h

theorem lastCall_prepend {k : NamespacedName} (tr₁ : List (Event Api)) {tr₂ : List (Event Api)}
    {e : Event Api} (h : lastCall k tr₂ = some e) : lastCall k (tr₁ ++ tr₂) = some e := by
  rw [lastCall, List.filter_append, List.getLast?_append]
  have h' : (tr₂.filter (aboutDeployment k)).getLast? = some e := h
  rw [h']
  rfl

/-- What `removeDeploymentOwnerRef` is answered last decides: it asks for an update whenever there is a
reference to remove. -/
theorem run_removeDeploymentOwnerRef {err : Option GoError}
    (h : Run (removeDeploymentOwnerRef csm) tr err)
    (hserver : ∀ d, ⟨.getDeployment csm.controllerKey, .ok d⟩ ∈ tr → d.key = csm.controllerKey) :
    ∃ e, lastCall csm.controllerKey tr = some e ∧ (ShowsDisowned csm.uid e ↔ callFailed e = false) := by
  obtain ⟨tr₁, tr₂, r, rfl, hask, hrest⟩ := Run.bind_iff.mp h
  obtain ⟨r', tr', rfl, hret⟩ := Run.call_iff.mp hask
  obtain ⟨rfl, rfl⟩ := Run.ret_iff.mp hret
  have hread : ∀ r : Except GoError Deployment,
      lastCall csm.controllerKey [⟨.getDeployment csm.controllerKey, r⟩] =
        some ⟨.getDeployment csm.controllerKey, r⟩ := fun r => by simp [lastCall, aboutDeployment]
  match r with
  | .error e =>
      obtain ⟨rfl, -⟩ := Run.ret_iff.mp hrest
      exact ⟨_, hread (.error e), by simp [ShowsDisowned, callFailed]⟩
  | .ok d =>
      have hkey : d.key = csm.controllerKey := hserver d List.mem_cons_self
      dsimp only at hrest
      split at hrest
      next hlength =>
        obtain ⟨rfl, -⟩ := Run.ret_iff.mp hrest
        refine ⟨_, hread (.ok d), iff_of_true ?_ rfl⟩
        rintro ⟨ref, href, huid⟩
        have hall := List.length_filter_eq_length_iff.mp hlength ref href
        exact of_decide_eq_true hall huid
      next =>
        obtain ⟨r, tr', rfl, hret⟩ := Run.call_iff.mp hrest
        obtain ⟨rfl, -⟩ := Run.ret_iff.mp hret
        refine ⟨⟨.updateDeployment _, r⟩, lastCall_prepend [_] ?_, ?_⟩
        · simp [lastCall, aboutDeployment, Deployment.key, ← hkey]
        · match r with
          | none =>
              refine iff_of_true ?_ rfl
              rintro ⟨ref, href, huid⟩
              dsimp only at href
              split at href
              next => exact List.not_mem_nil href
              next => exact of_decide_eq_true (List.mem_filter.mp href).2 huid
          | some e => simp [ShowsDisowned, callFailed]

theorem Reporting.elsewhere {q : Request} (h : Reporting q) : Elsewhere q := by
  cases q <;> trivial

theorem Finishing.elsewhere {q : Request} (h : Finishing q) : Elsewhere q := by
  cases q <;> trivial

theorem elsewhere_removeModules (csm : ContainerStorageModule) :
    Asks Elsewhere (fun _ => True) (removeModules csm) := by
  refine .firstError fun p hp => ?_
  obtain ⟨m, -, rfl⟩ := List.mem_map.mp hp
  have hact : ∀ a, Asks Elsewhere (fun _ => True) (act a csm) :=
    fun a => .act (P := Elsewhere) (a := a) trivial
  refine .firstError ?_
  simp only [List.forall_mem_cons, List.not_mem_nil, false_imp_iff, implies_true, and_true]
  refine ⟨.guarded (by simp [hact]), ?_⟩
  refine .ite (.bind (.isReverseProxySidecar trivial) fun _ => ?_) (.pure trivial)
  exact .guarded (by simp [hact])

/-- An update of the CR that takes the finalizer away was accepted. -/
def FinalizerDropped (tr : List (Event Api)) : Prop :=
  ∃ cr cr', ⟨.updateCSM cr, .ok cr'⟩ ∈ tr ∧ cr.hasFinalizer csmFinalizerName = false

/-- With a driver that is kept, the last call about its Deployment shows whether it is disowned, unless
it failed. -/
theorem lastCall_of_kept (h : Run (reconcile rt key) (⟨.getCSM key, .ok csm⟩ :: tr) x)
    (hdeleting : csm.isBeingDeleted = true)
    (hkept : csm.spec.driver.forceRemoveDriver = some false) (hdropped : FinalizerDropped tr)
    (hserver : ∀ d, ⟨.getDeployment csm.controllerKey, .ok d⟩ ∈ tr → d.key = csm.controllerKey) :
    ∃ e, lastCall csm.controllerKey tr = some e ∧ (ShowsDisowned csm.uid e ↔ callFailed e = false) := by
  obtain ⟨hreject, -⟩ | ⟨cr, tr₀, tr₁, hprepare, rfl, -, hdeletion⟩ := run_reconcile_deleting h hdeleting
  · obtain ⟨cr, cr', hmem, -⟩ := hdropped
    exact (hreject _ hmem).elim
  obtain ⟨tr₂, tr₃, y, rfl, hcontent, -, hfinishing⟩ := run_reconcileDeletion_cleanup hdeletion
  obtain ⟨force, tr₄, tr₅, hforce, rfl, hcases⟩ := run_removeContent hcontent
  -- the CR in memory has the name, the UID and the driver of the one that was read
  obtain ⟨hcontroller, huid⟩ : (afterDriverPrecheck cr).controllerKey = csm.controllerKey ∧
      (afterDriverPrecheck cr).uid = csm.uid := by
    obtain ⟨spec, hspec⟩ := afterDriverPrecheck_eq cr
    have hdriver := driver_of_prepare hprepare
    obtain ⟨modules, rfl, -⟩ := prepare_spec hprepare
    have hname : (afterDriverPrecheck { csm with spec := { csm.spec with
        driver := (defaultForceRemoveDriver csm).spec.driver, modules } }).getControllerName =
          csm.getControllerName := by
      rw [ContainerStorageModule.getControllerName, hdriver, hspec]
      rfl
    rw [ContainerStorageModule.controllerKey, hname, hspec]
    exact ⟨rfl, rfl⟩
  obtain rfl : force = false := by
    rw [driver_of_prepare hprepare, defaultForceRemoveDriver, hkept] at hforce
    exact (Option.some.inj hforce).symm
  obtain ⟨e, hfalse, -⟩ | ⟨⟨err, hrefs⟩, tr₆, tr₇, err', rfl, hmodules, hreports, -⟩ := hcases
  · cases hfalse
  obtain ⟨e, hlast, hshows⟩ := run_removeDeploymentOwnerRef hrefs (by
    rw [hcontroller]
    exact fun d hd => hserver d (by simp [hd]))
  rw [hcontroller] at hlast
  rw [huid] at hshows
  refine ⟨e, lastCall_prepend tr₀ (lastCall_append (lastCall_append hlast ?_) ?_), hshows⟩
  · intro e he
    rcases List.mem_append.mp he with he | he
    · exact ((elsewhere_removeModules _).of_run hmodules).1 e he
    · exact (hreports e he).elsewhere
  · exact fun e he => (hfinishing e he).elsewhere

/-- **A deletion does what the CR asks for** — it removes the standalone modules that ask for it and no
others, and it releases a driver that is kept — exactly when

* every module it gets to that is enabled asks for its removal, or no entry does, and it gets to every
  module that asks for it;
* the last call about the Deployment of a kept driver did not fail. -/
theorem deletion_faithful_iff (h : Run (reconcile rt key) (⟨.getCSM key, .ok csm⟩ :: tr) x)
    (hdeleting : csm.isBeingDeleted = true)
    (hserver : ∀ d, ⟨.getDeployment csm.controllerKey, .ok d⟩ ∈ tr → d.key = csm.controllerKey) :
    ((∀ m : Standalone, m.Standing tr → (m.Removed tr ↔ m.Asked csm)) ∧
      (csm.spec.driver.forceRemoveDriver = some false → FinalizerDropped tr →
        ∃ e, lastCall csm.controllerKey tr = some e ∧ ShowsDisowned csm.uid e)) ↔
    (∀ m : Standalone, m.Standing tr →
      (GetsTo rt csm m tr → m.Enabled (afterDriverPrecheck csm) → AnyFlag (afterDriverPrecheck csm) →
        m.Asked csm) ∧
      (¬ GetsTo rt csm m tr → ¬ m.Asked csm)) ∧
    (csm.spec.driver.forceRemoveDriver = some false → FinalizerDropped tr →
      ∀ e, lastCall csm.controllerKey tr = some e → callFailed e = false) := by
  refine and_congr (forall₂_congr fun m hstanding => ?_) (forall₂_congr fun hkept hdropped => ?_)
  · have hasked : m.Asked csm → m.Enabled (afterDriverPrecheck csm) ∧
        AnyFlag (afterDriverPrecheck csm) := Standalone.Asked.enabled
    rw [removed_iff h hdeleting hstanding]
    tauto
  · obtain ⟨e, hlast, hshows⟩ := lastCall_of_kept h hdeleting hkept hdropped hserver
    rw [hlast]
    simp [hshows]

/-! ### Deletions of a kept driver and of an authorization server -/

/-- A CR that a user has deleted and whose driver is to be kept. -/
def keptIsilon : ContainerStorageModule :=
  { name := "isilon", namesp := "dell", uid := "4f2c", finalizers := [csmFinalizerName]
    deletionTimestamp := some 1
    spec := { driver := { csiDriverType := .powerScale, configVersion := "v2.17.1"
                          forceRemoveDriver := some false } } }

/-- A cluster with its controller Deployment, where updates of Deployments are answered as given. -/
def keptAnswer (update : Option GoError) : (q : Request) → Option q.Answer
  | .updateDeployment _ => some update
  | q => obliging keptIsilon
      { deployments := [{ name := "isilon-controller", namesp := "dell"
                          ownerReferences := some [⟨"isilon", "4f2c"⟩] }] } (fun _ => none) q

def dropsFinalizer : Event Api → Bool
  | ⟨.updateCSM cr, .ok _⟩ => !cr.hasFinalizer csmFinalizerName
  | _ => false

theorem finalizerDropped_of_any (h : tr.any dropsFinalizer = true) : FinalizerDropped tr := by
  obtain ⟨e, he, htest⟩ := List.any_eq_true.mp h
  unfold dropsFinalizer at htest
  split at htest
  next cr cr' =>
    rw [Bool.not_eq_true'] at htest
    exact ⟨cr, cr', he, htest⟩
  next => cases htest

/-- A Deployment is answered under its own key. -/
def answersKey : Event Api → Bool
  | ⟨.getDeployment k, .ok d⟩ => d.key = k
  | _ => true

/-- The deletion of the kept driver. -/
theorem exists_keptDeletion (update : Option GoError) (test : List (Event Api) → Bool)
    (h : (Monitor.replay (fun _ => keptAnswer update) (reconcileRead shippedRuntime keptIsilon)).any
      (fun x => x.2.any dropsFinalizer && x.2.all answersKey && test x.2) = true) :
    ∃ tr x, Run (reconcile shippedRuntime keptIsilon.key)
        (⟨.getCSM keptIsilon.key, .ok keptIsilon⟩ :: tr) x ∧ FinalizerDropped tr ∧
      (∀ d, ⟨.getDeployment keptIsilon.controllerKey, .ok d⟩ ∈ tr →
        d.key = keptIsilon.controllerKey) ∧ test tr = true := by
  obtain ⟨x, tr, hrun, hprops⟩ := Monitor.exists_run_of_replay h
  simp only [Bool.and_eq_true, List.all_eq_true] at hprops
  have hread : Run (reconcile shippedRuntime keptIsilon.key)
      (⟨.getCSM keptIsilon.key, .ok keptIsilon⟩ :: tr) x := .call hrun
  refine ⟨tr, x, hread, finalizerDropped_of_any hprops.1.1, fun d hd => ?_, hprops.2⟩
  exact of_decide_eq_true (hprops.1.2 _ hd)

/-- The theorem at a deletion that releases the Deployment. -/
theorem deletion_faithful_iff_kept :
    ∃ tr, FinalizerDropped tr ∧
      ∃ e, lastCall keptIsilon.controllerKey tr = some e ∧ ShowsDisowned "4f2c" e := by
  obtain ⟨tr, x, hrun, hdropped, hserver, htest⟩ := exists_keptDeletion none
    (fun tr => (lastCall keptIsilon.controllerKey tr).all fun e => !callFailed e) (by decide +kernel)
  refine ⟨tr, hdropped, ((deletion_faithful_iff hrun rfl hserver).mpr ⟨fun m _ => ⟨?_, ?_⟩,
    fun _ _ e he => ?_⟩).2 rfl hdropped⟩
  · rintro - ⟨entry, hentry, -⟩
    exact (List.not_mem_nil hentry).elim
  · rintro - ⟨entry, hentry, -⟩
    exact (List.not_mem_nil hentry).elim
  · rw [he] at htest
    exact (Bool.not_eq_true' _).mp htest

/-- A deleted CR of an authorization server that does not ask for its removal, next to an entry of
another module that does. -/
def deletedProxy : ContainerStorageModule :=
  { name := "authorization", namesp := "dell", finalizers := [csmFinalizerName]
    deletionTimestamp := some 1
    spec := { modules := [{ name := .authorizationServer, enabled := true, configVersion := "v2.5.0" },
      { name := .resiliency, enabled := false, forceRemoveModule := true }] } }

def removesAuthorization : Event Api → Bool
  | ⟨.action a _, _⟩ => a = .reconcileAuthorization true
  | _ => false

theorem removed_of_any (h : tr.any removesAuthorization = true) :
    Standalone.authorizationServer.Removed tr := by
  obtain ⟨⟨q, r⟩, he, htest⟩ := List.any_eq_true.mp h
  refine ⟨⟨q, r⟩, he, ?_⟩
  cases q with
  | action a cr =>
      have hremoval : a = .reconcileAuthorization true := of_decide_eq_true htest
      exact hremoval
  | _ => cases htest

/-- The authorization server is removed because of the other entry's flag; and a driver that is to be
kept stays owned by the CR when the update of its Deployment fails. -/
theorem deletion_unfaithful :
    (∃ tr x, Run (reconcile shippedRuntime deletedProxy.key)
        (⟨.getCSM deletedProxy.key, .ok deletedProxy⟩ :: tr) x ∧ deletedProxy.isBeingDeleted = true ∧
      Standalone.authorizationServer.Removed tr ∧ ¬ Standalone.authorizationServer.Asked deletedProxy) ∧
    ∃ tr x, Run (reconcile shippedRuntime keptIsilon.key)
        (⟨.getCSM keptIsilon.key, .ok keptIsilon⟩ :: tr) x ∧ keptIsilon.isBeingDeleted = true ∧
      keptIsilon.spec.driver.forceRemoveDriver = some false ∧ FinalizerDropped tr ∧
      ¬ ∃ e, lastCall keptIsilon.controllerKey tr = some e ∧ ShowsDisowned keptIsilon.uid e := by
  constructor
  · have hreplay : (Monitor.replay (fun _ => obliging deletedProxy {} fun _ => none)
        (reconcileRead shippedRuntime deletedProxy)).any
        (fun x => x.2.any removesAuthorization) = true := by decide +kernel
    obtain ⟨x, tr, hrun, htest⟩ := Monitor.exists_run_of_replay hreplay
    have hread : Run (reconcile shippedRuntime deletedProxy.key)
        (⟨.getCSM deletedProxy.key, .ok deletedProxy⟩ :: tr) x := .call hrun
    refine ⟨tr, x, hread, rfl, removed_of_any htest, ?_⟩
    rintro ⟨entry, hentry, hname, henabled, hflag⟩
    simp only [deletedProxy, List.mem_cons, List.not_mem_nil, or_false] at hentry
    rcases hentry with rfl | rfl
    · cases hflag
    · cases henabled
  · obtain ⟨tr, x, hrun, hdropped, hserver, htest⟩ := exists_keptDeletion (some ⟨.conflict, "conflict"⟩)
      (fun tr => (lastCall keptIsilon.controllerKey tr).any callFailed) (by decide +kernel)
    refine ⟨tr, x, hrun, rfl, rfl, hdropped, ?_⟩
    rintro ⟨e, hlast, hshows⟩
    obtain ⟨e', hlast', hiff⟩ := lastCall_of_kept hrun rfl rfl hdropped hserver
    obtain rfl : e = e' := Option.some.inj (hlast.symm.trans hlast')
    rw [hlast] at htest
    exact Bool.false_ne_true ((hiff.mp hshows).symm.trans htest)

end CsmOperator
