import CsmOperator.Controllers.Checks
import CsmOperator.Interaction.Implement
import CsmOperator.Modules.Closure
import CsmOperator.Modules.Prechecks
import CsmOperator.Upgrade.Verdict

/-!
# The mode of the reverse proxy

Whether the reverse proxy of a PowerMax driver runs in the pod of the driver or on its own is said by the
entry `DeployAsSidecar` in the environment of the module. The operator keeps the answer in a variable of
the process: the precheck of the module sets it, for every entry it finds, and the rest of `Reconcile`
reads it. A CR without the entry does not set it, and then what is read is the mode of the CR that was
checked last.

The workers of the operator are the threads of a pool that shares this variable. Everything else they ask
is answered in any way.
-/

namespace CsmOperator

open Go Interaction

/-! ## The environment of the module -/

/-- The component lists of the reverse proxy entries. -/
def proxies (modules : List Module) : List (List ContainerTemplate) :=
  (modules.filter (·.name = .reverseProxy)).map (·.components)

/-- The environment the precheck reads: that of the first component. -/
def firstEnvs (components : List ContainerTemplate) : List EnvVar :=
  (components.head?.map (·.envs)).getD []

/-- The entries for the mode. -/
def sidecarEnvs (cr : ContainerStorageModule) : List EnvVar :=
  ((proxies cr.spec.modules).flatMap firstEnvs).filter (·.name = deployAsSidecarEnv)

/-- The mode the CR asks for: that of the last entry, and a sidecar when there is none. -/
def ownMode (cr : ContainerStorageModule) : Bool :=
  ((sidecarEnvs cr).getLast?.map fun env => parseSidecar env.value).getD true

section Modules

variable {op : OperatorConfig} {csm cr : ContainerStorageModule} {m : Module}

theorem proxies_cons (m : Module) (ms : List Module) :
    proxies (m :: ms) = if m.name = .reverseProxy then m.components :: proxies ms else proxies ms := by
  unfold proxies
  rw [List.filter_cons]
  split_ifs <;> simp_all

theorem mem_proxies (hm : m ∈ cr.spec.modules) (hname : m.name = .reverseProxy) :
    m.components ∈ proxies cr.spec.modules :=
  List.mem_map.mpr ⟨m, List.mem_filter.mpr ⟨hm, decide_eq_true hname⟩, rfl⟩

theorem proxies_addModuleComponent (cr : ContainerStorageModule) (comp : ContainerTemplate) :
    proxies (addModuleComponent cr .observability comp).spec.modules = proxies cr.spec.modules := by
  unfold addModuleComponent
  dsimp only
  induction cr.spec.modules with
  | nil => rfl
  | cons m ms ih =>
      rw [List.map_cons, proxies_cons, proxies_cons, ih]
      split_ifs <;> simp_all

theorem proxies_loadDefaultComponents (h : loadDefaultComponents op csm = .ok cr) :
    proxies cr.spec.modules = proxies csm.spec.modules := by
  have hfold : ∀ (comps : List ContainerTemplate) (cr : ContainerStorageModule),
      proxies (comps.foldl (fun cr comp => if hasModuleComponent cr .observability comp.name then cr
        else addModuleComponent cr .observability comp) cr).spec.modules = proxies cr.spec.modules := by
    intro comps
    induction comps with
    | nil => exact fun _ => rfl
    | cons comp comps ih =>
        intro cr
        rw [List.foldl_cons, ih]
        split
        · rfl
        · exact proxies_addModuleComponent cr comp
  unfold loadDefaultComponents at h
  split at h
  · split at h
    · cases h
    · split at h
      · cases h
        exact hfold _ _
      · cases h
        rfl
  · cases h
    rfl

theorem proxies_setAuthVersion (v : String) (ms : List Module) :
    proxies (setAuthVersion v ms) = proxies ms := by
  induction ms with
  | nil => rfl
  | cons m ms ih =>
      unfold setAuthVersion
      split
      next hname => rw [proxies_cons, proxies_cons, if_neg (by simp [hname])]
      next => rw [proxies_cons, proxies_cons, ih]

/-- What `Reconcile` prepares leaves the reverse proxy alone. -/
theorem proxies_prepare (h : prepare op csm = .ok cr) :
    proxies cr.spec.modules = proxies csm.spec.modules := by
  unfold prepare at h
  split at h
  · cases h
  next csm₁ hload =>
    have hsame := proxies_loadDefaultComponents hload
    unfold resolveAuthVersion at h
    split at h
    · split at h
      · cases h
      · cases h
        rw [proxies_setAuthVersion]
        exact hsame
    · cases h
      exact hsame

theorem proxies_enableReverseProxy (ms : List Module) : proxies (enableReverseProxy ms) = proxies ms := by
  induction ms with
  | nil => rfl
  | cons m ms ih =>
      unfold enableReverseProxy
      split
      · rw [proxies_cons, proxies_cons]
      · rw [proxies_cons, proxies_cons, ih]

theorem proxies_afterDriverPrecheck (cr : ContainerStorageModule) :
    proxies (afterDriverPrecheck cr).spec.modules = proxies cr.spec.modules := by
  unfold afterDriverPrecheck
  split
  · exact proxies_enableReverseProxy _
  · rfl

/-- The precheck of PowerMax has turned the first entry on. -/
theorem exists_enabled_enableReverseProxy {ms : List Module} {components : List ContainerTemplate}
    (h : (proxies ms).head? = some components) :
    ∃ m ∈ enableReverseProxy ms, m.name = .reverseProxy ∧ m.enabled = true ∧ m.components = components := by
  induction ms with
  | nil => cases h
  | cons m ms ih =>
      rw [proxies_cons] at h
      unfold enableReverseProxy
      split_ifs at h ⊢ with hname
      · exact ⟨_, List.mem_cons_self, hname, rfl, Option.some.inj h⟩
      · obtain ⟨m', hm', hrest⟩ := ih h
        exact ⟨m', List.mem_cons_of_mem _ hm', hrest⟩

end Modules

/-! ## The precheck -/

section Precheck

variable {files : ModuleFiles} {op : OperatorConfig} {cr : ContainerStorageModule} {m : Module}
  {names names' : ProxyNames} {envs : List EnvVar} {tr : List (Event Lookups)} {q : LookupRequest}

theorem firstEnvs_of_proxyEnvs (h : proxyEnvs m = some envs) : envs = firstEnvs m.components := by
  unfold proxyEnvs at h
  unfold firstEnvs
  split at h
  next c cs hcomponents =>
    cases h
    rw [hcomponents]
    rfl
  next hcomponents =>
    split at h
    · cases h
    · cases h
      rw [hcomponents]
      rfl

/-- The loop asks for nothing but the assignments. -/
theorem pending_readProxyEnvs (h : Pending (readProxyEnvs names envs) tr q) :
    ∃ env ∈ envs, env.name = deployAsSidecarEnv ∧ q = .setDeployAsSidecar (parseSidecar env.value) := by
  induction envs generalizing names tr with
  | nil => exact (Pending.not_ret h).elim
  | cons env envs ih =>
      have hrest {names tr} (h : Pending (readProxyEnvs names envs) tr q) :
          ∃ env' ∈ env :: envs, env'.name = deployAsSidecarEnv ∧
            q = .setDeployAsSidecar (parseSidecar env'.value) :=
        (ih h).imp fun _ h => ⟨List.mem_cons_of_mem _ h.1, h.2⟩
      rw [readProxyEnvs] at h
      split at h
      next hname =>
        obtain ⟨-, rfl⟩ | ⟨r, tr', -, h⟩ := Pending.call_iff.mp h
        · exact ⟨env, List.mem_cons_self, hname, rfl⟩
        · exact hrest h
      next => exact hrest h

/-- It makes one for each entry. -/
theorem run_readProxyEnvs (h : Run (readProxyEnvs names envs) tr names') :
    ∀ env ∈ envs, env.name = deployAsSidecarEnv →
      (⟨.setDeployAsSidecar (parseSidecar env.value), ()⟩ : Event Lookups) ∈ tr := by
  induction envs generalizing names tr with
  | nil => exact fun _ hmem => (List.not_mem_nil hmem).elim
  | cons env envs ih =>
      rw [readProxyEnvs] at h
      intro env' hmem hname'
      split at h
      next hname =>
        obtain ⟨r, tr', rfl, hrest⟩ := Run.ask_bind_iff.mp h
        rcases List.mem_cons.mp hmem with rfl | hmem
        · exact List.mem_cons_self
        · exact List.mem_cons_of_mem _ (ih hrest env' hmem hname')
      next hname =>
        rcases List.mem_cons.mp hmem with rfl | hmem
        · exact absurd hname' hname
        · exact ih h env' hmem hname'

theorem not_set_checkGivenVersion {das : Bool} {moduleType : ModuleType} :
    ¬ Pending (checkGivenVersion files op moduleType m) tr (.setDeployAsSidecar das) := by
  intro h
  unfold checkGivenVersion at h
  split at h
  · unfold checkVersion at h
    split at h
    · exact Pending.not_ret h
    · split_ifs at h
      · exact Pending.not_ret h
      · obtain ⟨-, heq⟩ | ⟨r, -, -, -⟩ := Pending.call_iff.mp h
        · cases heq
        · exact r.elim
      · exact Pending.not_ret h
  · exact Pending.not_ret h

theorem not_set_lookUpSecrets {das : Bool} {namesp : String} {secrets : List String} :
    ¬ Pending (lookUpSecrets namesp secrets) tr (.setDeployAsSidecar das) := by
  induction secrets generalizing tr with
  | nil => exact Pending.not_ret
  | cons name secrets ih =>
      intro h
      obtain ⟨-, heq⟩ | ⟨r, tr', -, h⟩ := Pending.call_iff.mp h
      · cases heq
      · match r with
        | none => exact ih h
        | some e =>
            dsimp only [Prog.bind] at h
            split at h
            · exact Pending.not_ret h
            · exact ih h

theorem not_set_lookUpProxyConfigMap {das : Bool} {configMap : String} :
    ¬ Pending (lookUpProxyConfigMap cr configMap) tr (.setDeployAsSidecar das) := by
  intro h
  unfold lookUpProxyConfigMap at h
  split at h
  · exact Pending.not_ret h
  · obtain ⟨-, heq⟩ | ⟨r, tr', -, h⟩ := Pending.call_iff.mp h
    · cases heq
    · match r with
      | none => exact Pending.not_ret h
      | some e =>
          dsimp only [Prog.bind] at h
          split at h <;> exact Pending.not_ret h

/-- The precheck sets the variable for PowerMax, and to the mode of an entry. -/
theorem pending_set_reverseProxyPrecheck {das : Bool}
    (h : Pending (reverseProxyPrecheck files op m cr) tr (.setDeployAsSidecar das)) :
    cr.spec.driver.csiDriverType = .powerMax ∧ ∃ env ∈ firstEnvs m.components,
      env.name = deployAsSidecarEnv ∧ das = parseSidecar env.value := by
  unfold reverseProxyPrecheck at h
  split at h
  · exact (Pending.not_ret h).elim
  next hdriver =>
    refine ⟨not_not.mp hdriver, ?_⟩
    obtain h | ⟨tr₁, tr₂, err, -, -, h⟩ := Pending.bind_iff.mp h
    · exact (not_set_checkGivenVersion h).elim
    cases err with
    | some e => exact (Pending.not_ret h).elim
    | none =>
        obtain heq | ⟨envs, henvs, h⟩ := pending_orPanic_bind h
        · cases heq
        obtain h | ⟨tr₃, tr₄, names, -, -, h⟩ := Pending.bind_iff.mp h
        · obtain ⟨env, henv, hname, heq⟩ := pending_readProxyEnvs h
          rw [firstEnvs_of_proxyEnvs henvs] at henv
          exact ⟨env, henv, hname, LookupRequest.setDeployAsSidecar.inj heq⟩
        obtain h | ⟨tr₅, tr₆, err, -, -, h⟩ := Pending.bind_iff.mp h
        · exact (not_set_lookUpSecrets h).elim
        cases err with
        | some e => exact (Pending.not_ret h).elim
        | none => exact (not_set_lookUpProxyConfigMap h).elim

/-- A precheck that returns nil has set it for every entry. -/
theorem run_reverseProxyPrecheck (h : Run (reverseProxyPrecheck files op m cr) tr none) :
    ∀ env ∈ firstEnvs m.components, env.name = deployAsSidecarEnv →
      (⟨.setDeployAsSidecar (parseSidecar env.value), ()⟩ : Event Lookups) ∈ tr := by
  unfold reverseProxyPrecheck at h
  split at h
  · cases (Run.ret_iff.mp h).2
  · obtain ⟨tr₁, tr₂, err, rfl, -, h⟩ := Run.bind_iff.mp h
    cases err with
    | some e => cases (Run.ret_iff.mp h).2
    | none =>
        obtain ⟨envs, henvs, h⟩ := run_orPanic_bind h
        obtain ⟨tr₃, tr₄, names, rfl, hread, -⟩ := Run.bind_iff.mp h
        rw [← firstEnvs_of_proxyEnvs henvs]
        intro env henv hname
        exact List.mem_append_right _ (List.mem_append_left _ (run_readProxyEnvs hread env henv hname))

end Precheck

/-! ## The workers -/

/-- The requests of the operator, and those its prechecks make on their own. -/
abbrev ProxyApi : Interface := Api.sum Lookups

/-- The precheck of the reverse proxy is carried out; the other requests are passed on. -/
def proxyImpl (files : ModuleFiles) (op : OperatorConfig) : Implementation Api ProxyApi Unit
  | _, .action (.precheckModule m) cr =>
    if m.name = .reverseProxy then (reverseProxyPrecheck files op m cr).inr >>= fun r => .ret (r, ())
    else .call (.inl (.action (.precheckModule m) cr)) fun r => .ret (r, ())
  | _, q => .call (.inl q) fun r => .ret (r, ())

/-- A worker that reconciles a CR. -/
def proxyWorker (files : ModuleFiles) (rt : Runtime) (key : NamespacedName) : Prog ProxyApi Unit :=
  (reconcile rt key).implement (proxyImpl files rt.op) () >>= fun _ => .ret ()

/-- The variable `deployAsSidecar`, read and written by the workers. Other requests are answered as the
choice says. -/
def proxyEnv : Env ProxyApi Bool ((q : ProxyApi.Req) → Option (ProxyApi.Resp q)) where
  respond deployAsSidecar q choice := match q with
    | .inl .isReverseProxySidecar => some (deployAsSidecar, deployAsSidecar)
    | .inr (.setDeployAsSidecar das) => some ((), das)
    | q => (choice q).map (·, deployAsSidecar)
  drift _ _ := False

section Workers

variable {files : ModuleFiles} {rt : Runtime} {key : NamespacedName} {u : List (Event ProxyApi)}

/-- A request that is carried out by other ones is the precheck of a reverse proxy. -/
theorem proxyImpl_cases (op : OperatorConfig) (q : Request) :
    (proxyImpl files op () q = .call (.inl q) fun r => .ret (r, ())) ∨
      ∃ m cr, q = .action (.precheckModule m) cr ∧ m.name = .reverseProxy := by
  cases q with
  | action a cr =>
      cases a with
      | precheckModule m =>
          by_cases hname : m.name = .reverseProxy
          · exact .inr ⟨m, cr, rfl, hname⟩
          · exact .inl (if_neg hname)
      | _ => exact .inl rfl
  | _ => exact .inl rfl

theorem proxyImpl_reverseProxy {op : OperatorConfig} {m : Module} {cr : ContainerStorageModule}
    (hname : m.name = .reverseProxy) :
    proxyImpl files op () (.action (.precheckModule m) cr) =
      (reverseProxyPrecheck files op m cr).inr >>= fun r => .ret (r, ()) :=
  if_pos hname

/-- Where a worker is: in what carries out a request of `Reconcile`. -/
theorem exists_of_pending_proxyWorker {q : ProxyApi.Req} (h : Pending (proxyWorker files rt key) u q) :
    ∃ tr q' u₁ u₂, Pending (reconcile rt key) tr q' ∧ CarriedOut (proxyImpl files rt.op) () tr u₁ () ∧
      u = u₁ ++ u₂ ∧ Pending (proxyImpl files rt.op () q') u₂ q := by
  obtain h | ⟨_, _, _, -, -, h⟩ := Pending.bind_iff.mp h
  · obtain ⟨tr, q', u₁, u₂, _, hq', hcarried, heq, hpending⟩ := exists_of_pending_implement h
    exact ⟨tr, q', u₁, u₂, hq', hcarried, heq, hpending⟩
  · exact (Pending.not_ret h).elim

/-- A worker begins with the read of the CR. -/
theorem carriedOut_getCSM {csm : ContainerStorageModule} {tr : List (Event Api)} {u : List (Event ProxyApi)}
    (h : CarriedOut (proxyImpl files rt.op) () (⟨.getCSM key, .ok csm⟩ :: tr) u ()) :
    ∃ u', u = ⟨.inl (.getCSM key), .ok csm⟩ :: u' ∧ CarriedOut (proxyImpl files rt.op) () tr u' () := by
  obtain ⟨u₁, u₂, _, rfl, hrun, hrest⟩ := CarriedOut.cons_iff.mp h
  obtain ⟨r, u₃, rfl, hret⟩ := Run.call_iff.mp hrun
  obtain ⟨rfl, heq⟩ := Run.ret_iff.mp hret
  cases heq
  exact ⟨u₂, rfl, hrest⟩

/-- The first request of a worker. -/
theorem pending_proxyWorker_nil {q : ProxyApi.Req} (h : Pending (proxyWorker files rt key) [] q) :
    q = .inl (.getCSM key) := by
  obtain ⟨tr, q', u₁, u₂, hq', hcarried, heq, hpending⟩ := exists_of_pending_proxyWorker h
  obtain ⟨rfl, rfl⟩ := List.append_eq_nil_iff.mp heq.symm
  obtain ⟨rfl, rfl⟩ | ⟨csm, cr, tr', rfl, -⟩ := pending_reconcile hq'
  · obtain ⟨-, rfl⟩ | ⟨_, _, heq, -⟩ := Pending.call_iff.mp hpending
    · rfl
    · cases heq
  · obtain ⟨_, heq, -⟩ := carriedOut_getCSM hcarried
    cases heq

/-- The variable is set to the mode of an entry of the CR that was read, a PowerMax. -/
theorem pending_set_proxyWorker {das : Bool}
    (h : Pending (proxyWorker files rt key) u (.inr (.setDeployAsSidecar das))) :
    ∃ csm, u.head? = some ⟨.inl (.getCSM key), .ok csm⟩ ∧ csm.spec.driver.csiDriverType = .powerMax ∧
      ∃ env ∈ sidecarEnvs csm, das = parseSidecar env.value := by
  obtain ⟨tr, q', u₁, u₂, hq', hcarried, rfl, hpending⟩ := exists_of_pending_proxyWorker h
  obtain hpass | ⟨m, cr', rfl, hname⟩ := proxyImpl_cases rt.op q'
  · rw [hpass] at hpending
    obtain ⟨-, heq⟩ | ⟨_, _, -, h⟩ := Pending.call_iff.mp hpending
    · cases heq
    · exact (Pending.not_ret h).elim
  rw [proxyImpl_reverseProxy hname] at hpending
  obtain hpending | ⟨_, _, _, -, -, h⟩ := Pending.bind_iff.mp hpending
  swap
  · exact (Pending.not_ret h).elim
  obtain ⟨tr'', q'', -, heq, hset⟩ := pending_inr_iff.mp hpending
  cases heq
  obtain ⟨hdriver, env, henv, hentry, rfl⟩ := pending_set_reverseProxyPrecheck hset
  obtain ⟨-, heq⟩ | ⟨csm, cr, tr', rfl, hprepare, hplace⟩ := pending_reconcile hq'
  · cases heq
  obtain ⟨u', rfl, -⟩ := carriedOut_getCSM hcarried
  -- a request for a precheck is one of `PreChecks`
  obtain ⟨rfl, hm, -⟩ : PrecheckOf cr (.action (.precheckModule m) cr') := by
    rcases hplace with h | ⟨h, -⟩ | ⟨h, -⟩
    · exact h
    · cases h
    · cases h
  refine ⟨csm, rfl, ?_, env, List.mem_filter.mpr ⟨List.mem_flatMap.mpr ⟨m.components, ?_, henv⟩, ?_⟩, rfl⟩
  · rw [driver_of_prepare hprepare] at hdriver
    exact hdriver
  · rw [← proxies_prepare hprepare, ← proxies_afterDriverPrecheck]
    exact mem_proxies hm hname
  · exact decide_eq_true hentry

/-- The first reverse proxy entry says which mode is meant. -/
def SetsMode (cr : ContainerStorageModule) : Prop :=
  ∃ components, (proxies cr.spec.modules).head? = some components ∧
    ∃ env ∈ firstEnvs components, env.name = deployAsSidecarEnv

/-- Before the variable is read, a PowerMax CR of a driver that says which mode is meant has set it. -/
theorem pending_read_proxyWorker
    (h : Pending (proxyWorker files rt key) u (.inl .isReverseProxySidecar)) :
    ∃ csm, u.head? = some ⟨.inl (.getCSM key), .ok csm⟩ ∧
      (csm.spec.driver.csiDriverType = .powerMax → SetsMode csm →
        csm.hasModule .authorizationServer = false →
        ∃ das, (⟨.inr (.setDeployAsSidecar das), ()⟩ : Event ProxyApi) ∈ u) := by
  obtain ⟨tr, q', u₁, u₂, hq', hcarried, rfl, hpending⟩ := exists_of_pending_proxyWorker h
  obtain hpass | ⟨m, cr', rfl, hname⟩ := proxyImpl_cases rt.op q'
  swap
  · rw [proxyImpl_reverseProxy hname] at hpending
    obtain hpending | ⟨_, _, _, -, -, h⟩ := Pending.bind_iff.mp hpending
    · obtain ⟨_, _, -, heq, -⟩ := pending_inr_iff.mp hpending
      cases heq
    · exact (Pending.not_ret h).elim
  rw [hpass] at hpending
  obtain ⟨-, heq⟩ | ⟨_, _, -, h⟩ := Pending.call_iff.mp hpending
  swap
  · exact (Pending.not_ret h).elim
  cases heq
  obtain ⟨-, heq⟩ | ⟨csm, cr, tr', rfl, hprepare, hplace⟩ := pending_reconcile hq'
  · cases heq
  obtain ⟨u', rfl, hrest⟩ := carriedOut_getCSM hcarried
  refine ⟨csm, rfl, fun hdriver hsets hserver => ?_⟩
  obtain ⟨tr₁, tr₂, rfl, hchecks⟩ : ∃ tr₁ tr₂, tr' = tr₁ ++ tr₂ ∧
      Run (preChecks rt cr) tr₁ (afterDriverPrecheck cr, none) := by
    rcases hplace with h | ⟨-, h⟩ | ⟨-, h⟩
    · exact absurd rfl h
    · exact absurd rfl h
    · exact h
  have hmax : cr.spec.driver.csiDriverType = .powerMax := by
    obtain ⟨modules, rfl, -⟩ := prepare_spec hprepare
    exact hdriver
  obtain ⟨components, hfirst, env, henv, hentry⟩ := hsets
  rw [← proxies_prepare hprepare] at hfirst
  obtain ⟨m, hm, hname, henabled, rfl⟩ := exists_enabled_enableReverseProxy hfirst
  have hmodules : (afterDriverPrecheck cr).spec.modules = enableReverseProxy cr.spec.modules := by
    rw [afterDriverPrecheck, if_pos hmax]
  have hpassed : ModulePassed (afterDriverPrecheck cr) tr₁ m := by
    obtain ⟨-, hup | hpassed⟩ := run_preChecks_none hchecks
    · obtain ⟨_, _, -, hhas, -⟩ := checkUpgrade_eq_false_iff.mp hup
      rw [hasModule_afterDriverPrecheck] at hhas
      have hprepared : cr.hasModule .authorizationServer = csm.hasModule .authorizationServer :=
        congrArg Kind.proxy (kind_prepare hprepare)
      rw [hprepared, hserver] at hhas
      cases hhas
    · exact hpassed.modules m (hmodules ▸ hm) henabled
  obtain ⟨_, _, t, hsub, hrun⟩ := hrest.exists_run_of_mem (List.mem_append_left _ hpassed)
  rw [proxyImpl_reverseProxy hname] at hrun
  obtain ⟨t₁, t₂, r, rfl, hprecheck, hret⟩ := Run.bind_iff.mp hrun
  obtain ⟨rfl, heq⟩ := Run.ret_iff.mp hret
  cases heq
  obtain ⟨tr'', rfl, hnil⟩ := run_inr_iff.mp hprecheck
  have hset := run_reverseProxyPrecheck hnil env henv hentry
  refine ⟨parseSidecar env.value, List.mem_append_left _ (List.mem_cons_of_mem _ (hsub ?_))⟩
  exact List.mem_append_left _ (List.mem_map_of_mem hset)

end Workers

/-! ## The mode that is read -/

section Mode

variable {files : ModuleFiles} {rt : Runtime}

/-- The workers of the operator. -/
abbrev ProxyPool := Pool ProxyApi Bool NamespacedName

/-- Each worker that has read a PowerMax CR reads the mode of that CR. -/
def ReadsOwnMode (ps : ProxyPool) : Prop :=
  ∀ i key csm das, (Pool.trace ps.log i).head? = some ⟨.inl (.getCSM key), .ok csm⟩ →
    csm.spec.driver.csiDriverType = .powerMax →
    (⟨.inl .isReverseProxySidecar, das⟩ : Event ProxyApi) ∈ Pool.trace ps.log i → das = ownMode csm

/-- The CR asks for this mode; where that is not a sidecar it says so, and is the CR of a driver. -/
structure AsksFor (mode : Bool) (cr : ContainerStorageModule) : Prop where
  agrees : ∀ env ∈ sidecarEnvs cr, parseSidecar env.value = mode
  explicit : mode = false → SetsMode cr ∧ cr.hasModule .authorizationServer = false

theorem AsksFor.ownMode_eq {mode : Bool} {cr : ContainerStorageModule} (h : AsksFor mode cr) :
    ownMode cr = mode := by
  unfold ownMode
  cases hlast : (sidecarEnvs cr).getLast? with
  | some env => exact h.agrees env (List.mem_of_getLast? hlast)
  | none =>
      cases mode with
      | true => rfl
      | false =>
          obtain ⟨⟨components, hfirst, env, henv, hname⟩, -⟩ := h.explicit rfl
          have hmem : env ∈ sidecarEnvs cr :=
            List.mem_filter.mpr ⟨List.mem_flatMap.mpr ⟨components, List.mem_of_head? hfirst, henv⟩,
              decide_eq_true hname⟩
          rw [List.getLast?_eq_none_iff.mp hlast] at hmem
          cases hmem

/-- Every PowerMax CR that is read asks for this mode. -/
def OneMode (mode : Bool) (_ : ProxyPool) (move : Move ProxyApi Bool NamespacedName) : Prop :=
  ∀ i key cr, move = .act i ⟨.inl (.getCSM key), .ok cr⟩ → cr.spec.driver.csiDriverType = .powerMax →
    AsksFor mode cr

/-- What holds while all ask for one mode. -/
structure ModeKept (mode : Bool) (ps : ProxyPool) : Prop where
  asks : ∀ i key cr, (i, (⟨.inl (.getCSM key), .ok cr⟩ : Event ProxyApi)) ∈ ps.log →
    cr.spec.driver.csiDriverType = .powerMax → AsksFor mode cr
  /-- the variable has the mode once it has been set, and is true before -/
  world : ps.world = mode ∨
    ps.world = true ∧ ∀ i das, (i, (⟨.inr (.setDeployAsSidecar das), ()⟩ : Event ProxyApi)) ∉ ps.log
  reads : ReadsOwnMode ps

/-- What an answer does to the variable. -/
theorem proxyEnv_cases {w w' : Bool} {q : ProxyApi.Req} {r : ProxyApi.Resp q}
    {choice : (q : ProxyApi.Req) → Option (ProxyApi.Resp q)}
    (h : proxyEnv.respond w q choice = some (r, w')) :
    q = .inr (.setDeployAsSidecar w') ∨
      w' = w ∧ (∀ das, q ≠ .inr (.setDeployAsSidecar das)) ∧
        ∀ das, (⟨q, r⟩ : Event ProxyApi) = ⟨.inl .isReverseProxySidecar, das⟩ → das = w := by
  dsimp only [proxyEnv] at h
  split at h
  next =>
    cases h
    refine .inr ⟨rfl, nofun, fun das heq => ?_⟩
    cases heq
    rfl
  next das =>
    cases h
    exact .inl rfl
  next hread hset =>
    obtain ⟨r', -, heq⟩ := Option.map_eq_some_iff.mp h
    cases heq
    refine .inr ⟨rfl, fun das heq => hset das heq, fun das heq => ?_⟩
    exact absurd (congrArg Event.req heq) hread

variable {mode : Bool} {ps : ProxyPool} {i : Nat} {key : NamespacedName} {w : Bool}
  {q : ProxyApi.Req} {k : ProxyApi.Resp q → Prog ProxyApi Unit} {r : ProxyApi.Resp q}
  {choice : (q : ProxyApi.Req) → Option (ProxyApi.Resp q)}

/-- A worker that reads the variable is answered with its own mode. -/
theorem ModeKept.read (hkept : ModeKept mode ps)
    (hpending : Pending (proxyWorker files rt key) (Pool.trace ps.log i) (.inl .isReverseProxySidecar))
    {key' : NamespacedName} {csm : ContainerStorageModule}
    (hread : (Pool.trace ps.log i).head? = some ⟨.inl (.getCSM key'), .ok csm⟩)
    (hdriver : csm.spec.driver.csiDriverType = .powerMax) : ps.world = ownMode csm := by
  have hlog {e : Event ProxyApi} (he : e ∈ Pool.trace ps.log i) : (i, e) ∈ ps.log :=
    Pool.mem_of_mem_trace he
  have hasks := hkept.asks i key' csm (hlog (List.mem_of_head? hread)) hdriver
  rw [hasks.ownMode_eq]
  rcases hkept.world with hworld | ⟨hworld, hunset⟩
  · exact hworld
  · cases mode with
    | true => exact hworld
    | false =>
        obtain ⟨hsets, hserver⟩ := hasks.explicit rfl
        obtain ⟨csm', hread', hset⟩ := pending_read_proxyWorker hpending
        cases hread.symm.trans hread'
        obtain ⟨das, hmem⟩ := hset hdriver hsets hserver
        exact absurd (hlog hmem) (hunset i das)

/-- A value that is assigned is the mode. -/
theorem ModeKept.set (hkept : ModeKept mode ps) {das : Bool}
    (hpending : Pending (proxyWorker files rt key) (Pool.trace ps.log i) (.inr (.setDeployAsSidecar das))) :
    das = mode := by
  obtain ⟨csm, hread, hdriver, env, henv, rfl⟩ := pending_set_proxyWorker hpending
  have hmem := Pool.mem_of_mem_trace (List.mem_of_head? hread)
  exact (hkept.asks i key csm hmem hdriver).agrees env henv

theorem ModeKept.act (hkept : ModeKept mode ps)
    (hpending : Pending (proxyWorker files rt key) (Pool.trace ps.log i) q)
    (hrespond : proxyEnv.respond ps.world q choice = some (r, w)) (hok : OneMode mode ps (.act i ⟨q, r⟩)) :
    ModeKept mode (ps.afterAct i key (k r) ⟨q, r⟩ w) where
  asks j key' cr hmem hdriver := by
    rcases List.mem_append.mp hmem with hmem | hmem
    · exact hkept.asks j key' cr hmem hdriver
    · obtain ⟨rfl, heq⟩ := Prod.mk.inj (List.mem_singleton.mp hmem)
      exact hok j key' cr (by rw [heq]) hdriver
  world := by
    obtain rfl | ⟨rfl, hunset, -⟩ := proxyEnv_cases hrespond
    · exact .inl (hkept.set hpending)
    · refine hkept.world.imp_right fun ⟨hworld, hlog⟩ => ⟨hworld, fun j das hmem => ?_⟩
      rcases List.mem_append.mp hmem with hmem | hmem
      · exact hlog j das hmem
      · obtain ⟨-, heq⟩ := Prod.mk.inj (List.mem_singleton.mp hmem)
        exact hunset das (congrArg Event.req heq).symm
  reads j key' csm das hread hdriver hmem := by
    by_cases hj : j = i
    swap
    · rw [Pool.afterAct, Pool.trace_append_of_ne _ _ hj] at hread hmem
      exact hkept.reads j key' csm das hread hdriver hmem
    subst hj
    rw [Pool.afterAct, Pool.trace_append_self] at hread hmem
    cases htrace : Pool.trace ps.log j with
    | nil =>
        -- the first call of a worker is the read of the CR
        rw [htrace] at hpending hmem
        have heq := List.mem_singleton.mp hmem
        cases (congrArg Event.req heq).trans (pending_proxyWorker_nil hpending)
    | cons e tr =>
        have hread' : (Pool.trace ps.log j).head? = some ⟨.inl (.getCSM key'), .ok csm⟩ := by
          rw [htrace] at hread ⊢
          exact hread
        rcases List.mem_append.mp hmem with hmem | hmem
        · exact hkept.reads j key' csm das hread' hdriver hmem
        · have heq := List.mem_singleton.mp hmem
          obtain rfl : q = .inl .isReverseProxySidecar := (congrArg Event.req heq).symm
          obtain hset | ⟨-, -, hanswer⟩ := proxyEnv_cases hrespond
          · cases hset
          · rw [hanswer das heq.symm]
            exact hkept.read hpending hread' hdriver

end Mode

/-! ### Two drivers -/

/-- A PowerMax driver whose reverse proxy stands alone. -/
def standaloneMax : ContainerStorageModule :=
  { name := "powermax", namesp := "gold"
    spec :=
      { driver := { csiDriverType := .powerMax, configVersion := "v2.17.0" }
        modules :=
          [{ name := .reverseProxy, enabled := true
             components := [{ name := "csipowermax-reverseproxy"
                              envs := [{ name := deployAsSidecarEnv, value := "false" }] }] }] } }

/-- Another one that says nothing about its reverse proxy, and is being deleted. -/
def deletedMax : ContainerStorageModule :=
  { name := "powermax", namesp := "silver", finalizers := [csmFinalizerName], deletionTimestamp := some 1
    spec := { driver := { csiDriverType := .powerMax, configVersion := "v2.17.0" } } }

/-- The two CRs are there, nothing is installed, and all that is asked for succeeds. -/
def twoDrivers : (q : ProxyApi.Req) → Option (ProxyApi.Resp q)
  | .inl (.getCSM key) => some (.ok (if key.namesp = "gold" then standaloneMax else deletedMax))
  | .inl (.getDeployment key) => some (.error ⟨.notFound, key.name⟩)
  | .inl (.action _ _) => some none
  | .inl _ => none
  | .inr q => allFound q

/-- Start workers for the CRs, and let them move in this order. -/
def runWorkers (test : ProxyPool → Nat → Event ProxyApi → Bool) (keys : List NamespacedName)
    (order : List Nat) : ProxyPool :=
  (keys.foldl (fun ps key => ps.afterSpawn key (proxyWorker shippedFiles shippedRuntime key))
    (Pool.empty true)).play proxyEnv test (order.map (·, twoDrivers))

theorem reach_runWorkers {test : ProxyPool → Nat → Event ProxyApi → Bool}
    {Ok : ProxyPool → Move ProxyApi Bool NamespacedName → Prop}
    (htest : ∀ ps i e, test ps i e = true → Ok ps (.act i e)) (hspawn : ∀ ps key, Ok ps (.spawn key))
    (keys : List NamespacedName) (order : List Nat) :
    Pool.Reach proxyEnv (proxyWorker shippedFiles shippedRuntime) Ok (Pool.empty true)
      (runWorkers test keys order) :=
  Pool.Reach.play htest _ (Pool.Reach.spawnAll hspawn keys .refl)

/-- A worker has read the mode, and `same` says how it compares with the one its CR asks for. -/
def comparesRead (same : Bool → Bool → Bool) (tr : List (Event ProxyApi)) : Bool :=
  match tr.head? with
  | some ⟨.inl (.getCSM _), .ok csm⟩ => csm.spec.driver.csiDriverType = .powerMax && tr.any fun e =>
      match e with
      | ⟨.inl .isReverseProxySidecar, das⟩ => same das (ownMode csm)
      | _ => false
  | _ => false

theorem exists_of_comparesRead {same : Bool → Bool → Bool} {tr : List (Event ProxyApi)}
    (h : comparesRead same tr = true) : ∃ key csm das, tr.head? = some ⟨.inl (.getCSM key), .ok csm⟩ ∧
      csm.spec.driver.csiDriverType = .powerMax ∧
      (⟨.inl .isReverseProxySidecar, das⟩ : Event ProxyApi) ∈ tr ∧ same das (ownMode csm) = true := by
  unfold comparesRead at h
  split at h
  next key csm hhead =>
    obtain ⟨hdriver, hany⟩ := Bool.and_eq_true_iff.mp h
    obtain ⟨e, he, hsame⟩ := List.any_eq_true.mp hany
    split at hsame
    next das => exact ⟨key, csm, das, hhead, of_decide_eq_true hdriver, he, hsame⟩
    next => cases hsame
  next => cases h

/-- Only CRs without an entry are read. -/
def readsDefault (_ : ProxyPool) (_ : Nat) : Event ProxyApi → Bool
  | ⟨.inl (.getCSM _), .ok cr⟩ => (sidecarEnvs cr).isEmpty
  | _ => true

theorem readsDefault_sound (ps : ProxyPool) (i : Nat) (e : Event ProxyApi)
    (h : readsDefault ps i e = true) : OneMode true ps (.act i e) := by
  rintro j key cr heq -
  cases heq
  refine ⟨fun env henv => ?_, nofun⟩
  rw [List.isEmpty_iff.mp h] at henv
  cases henv

/-- A worker that deletes the second driver, alone. -/
def deletionAlone : ProxyPool := runWorkers readsDefault [deletedMax.key] (List.replicate 6 0)

/-- The first driver is checked while the second is deleted. -/
def deletionAfterCheck : ProxyPool :=
  runWorkers (fun _ _ _ => true) [standaloneMax.key, deletedMax.key] (List.replicate 4 0 ++ List.replicate 6 1)

end CsmOperator
