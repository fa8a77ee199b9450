import CsmOperator.Interaction.Monitor
import CsmOperator.Modules.Authorization
import CsmOperator.World.Cluster
import Mathlib.Data.List.Induction

/-!
# Mounts and volumes of the authorization sidecar

When the precheck has passed and the sidecar was injected, does every mount of its container name a
volume of the pod, and does every Secret among the volumes exist? The answer depends on the three
readings of the environment, on the volumes of the driver and on the Secrets that are there.
-/

namespace CsmOperator

open Go Interaction

/-! ## Reads of Secrets -/

/-- The reads of Secrets in `tr` were answered with these errors. -/
def AnsweredBy (secrets : NamespacedName → Option GoError) (tr : List (Event Lookups)) : Prop :=
  ∀ key r, (⟨.getSecret key, r⟩ : Event Lookups) ∈ tr → r = secrets key

section Reads

variable {secrets : NamespacedName → Option GoError} {tr tr' : List (Event Lookups)}
  {name namesp : String} {err : Option GoError}

theorem AnsweredBy.mono (h : AnsweredBy secrets tr') (hsub : tr ⊆ tr') : AnsweredBy secrets tr :=
  fun key r hmem => h key r (hsub hmem)

theorem AnsweredBy.append_iff :
    AnsweredBy secrets (tr ++ tr') ↔ AnsweredBy secrets tr ∧ AnsweredBy secrets tr' := by
  simp only [AnsweredBy, List.mem_append]
  grind

theorem run_getSecretOf (hans : AnsweredBy secrets tr) (h : Run (getSecretOf name namesp) tr err) :
    err = secretError (secrets ⟨namesp, name⟩) ∧ ⟨namesp, name⟩ ∈ secretReads tr := by
  obtain ⟨r, tr', rfl, hret⟩ := Run.ask_bind_iff.mp h
  obtain ⟨rfl, rfl⟩ := Run.ret_iff.mp hret
  rw [hans ⟨namesp, name⟩ r (List.mem_singleton_self _)]
  exact ⟨rfl, List.mem_singleton_self _⟩

end Reads

/-! ## Reading the environment -/

/-- The entry that counts among those with one of the names. -/
def lastNamed (names : List String) (envs : List EnvVar) : Option EnvVar :=
  envs.reverse.find? (·.name ∈ names)

/-- There is such an entry, and its value parses as true. -/
def SaysTrue (env : Option EnvVar) : Prop := ∃ e, env = some e ∧ parseBool e.value = some true

theorem skipCertValid_iff (names : List String) (envs : List EnvVar) :
    skipCertValid names envs = true ↔ SaysTrue (lastNamed names envs) := by
  induction envs using List.reverseRecOn with
  | nil => simp [skipCertValid, lastNamed, SaysTrue]
  | append_singleton envs env ih =>
      have hstep : skipCertValid names (envs ++ [env]) =
          if env.name ∈ names then (parseBool env.value).getD false else skipCertValid names envs := by
        rw [skipCertValid, List.foldl_append]
        rfl
      have hlast : lastNamed names (envs ++ [env]) =
          if env.name ∈ names then some env else lastNamed names envs := by
        rw [lastNamed, List.reverse_append, List.reverse_singleton, List.singleton_append,
          List.find?_cons]
        split <;> simp_all [lastNamed]
      rw [hstep, hlast]
      split
      · cases hb : parseBool env.value <;> simp [SaysTrue, hb]
      · exact ih

/-- The precheck starts from false and takes the same entries; all of them parse. -/
theorem scanAuthEnvs_eq {skip b : Bool} {envs : List EnvVar} (h : scanAuthEnvs skip envs = .ok b) :
    b = envs.foldl (fun skip env => if env.name ∈ [skipCertificateValidation] then
      (parseBool env.value).getD false else skip) skip := by
  induction envs generalizing skip with
  | nil => cases h; rfl
  | cons env envs ih =>
      unfold scanAuthEnvs at h
      rw [List.foldl_cons]
      split at h
      next hname =>
        split at h
        · cases h
        next b' hb' =>
          rw [ih h, if_pos (List.mem_singleton.mpr hname), hb', Option.getD_some]
      next hname =>
        split at h
        · cases h
        · rw [ih h, if_neg (List.mem_singleton.not.mpr hname)]

/-! ## What the functions have done when they return -/

section Returned

variable {files : ModuleFiles} {op : OperatorConfig} {cr : ContainerStorageModule}
  {secrets : NamespacedName → Option GoError} {tr : List (Event Lookups)}

/-- The Secret was read, and `GetSecret` had no error. -/
def FoundIn (secrets : NamespacedName → Option GoError) (tr : List (Event Lookups))
    (key : NamespacedName) : Prop :=
  secretError (secrets key) = none ∧ key ∈ secretReads tr

theorem secretReads_append (tr tr' : List (Event Lookups)) :
    secretReads (tr ++ tr') = secretReads tr ++ secretReads tr' := List.filterMap_append

theorem run_queryAuthSecrets {namesp : String} {names : List String} (hans : AnsweredBy secrets tr)
    (h : Run (queryAuthSecrets namesp names) tr none) :
    ∀ name ∈ names, FoundIn secrets tr ⟨namesp, name⟩ := by
  induction names generalizing tr with
  | nil => exact fun _ hname => (List.not_mem_nil hname).elim
  | cons name names ih =>
      obtain ⟨tr₁, tr₂, err, rfl, hget, h⟩ := Run.bind_iff.mp h
      obtain ⟨hans₁, hans₂⟩ := AnsweredBy.append_iff.mp hans
      obtain ⟨rfl, hread⟩ := run_getSecretOf hans₁ hget
      cases herr : secretError (secrets ⟨namesp, name⟩) with
      | some e =>
          rw [herr] at h
          cases (Run.ret_iff.mp h).2
      | none =>
          rw [herr] at h
          rw [List.forall_mem_cons]
          refine ⟨⟨herr, ?_⟩, fun name' hname' => ?_⟩
          · rw [secretReads_append]
            exact List.mem_append_left _ hread
          · obtain ⟨hfound, hread'⟩ := ih hans₂ h name' hname'
            refine ⟨hfound, ?_⟩
            rw [secretReads_append]
            exact List.mem_append_right _ hread'

/-- The version of the module, and whether the volume of the driver can be mounted instead. -/
def ConfigVersionOf (files : ModuleFiles) (op : OperatorConfig) (cr : ContainerStorageModule)
    (version : String) (driverSecretVersion : Bool) : Prop :=
  moduleVersion files op cr .authorization (cr.getModule .authorization) = .ok version ∧
    minVersionCheck "v2.4.0" version = (driverSecretVersion, none)

/-- The component whose environment is read. -/
def proxyComponent (cr : ContainerStorageModule) : Option ContainerTemplate :=
  ((cr.getModule .authorization).components.map requestSkip).head?

theorem run_authorizationPrecheck (hans : AnsweredBy secrets tr)
    (h : Run (authorizationPrecheck files op (cr.getModule .authorization) cr) tr none) :
    (authorizationSupportedDrivers cr.spec.driver.csiDriverType).isSome = true ∧
    ∃ proxy version ds, proxyComponent cr = some proxy ∧ ConfigVersionOf files op cr version ds ∧
      ∀ name ∈ authSecrets ds (skipCertValid [skipCertificateValidation] proxy.envs),
        FoundIn secrets tr ⟨cr.namesp, name⟩ := by
  unfold authorizationPrecheck at h
  split at h
  · cases (Run.ret_iff.mp h).2
  next hdriver =>
    refine ⟨by simpa [Option.isSome_iff_ne_none] using hdriver, ?_⟩
    obtain ⟨tr₁, tr₂, err, rfl, -, h⟩ := Run.bind_iff.mp h
    obtain ⟨-, hans₂⟩ := AnsweredBy.append_iff.mp hans
    cases err with
    | some e => cases (Run.ret_iff.mp h).2
    | none =>
        obtain ⟨proxy, hproxy, h⟩ := run_orPanic_bind h
        split at h
        · cases (Run.ret_iff.mp h).2
        next skip hscan =>
          split at h
          · cases (Run.ret_iff.mp h).2
          next version hversion =>
            split at h
            · cases (Run.ret_iff.mp h).2
            next ds hds =>
              refine ⟨proxy, version, ds, hproxy, ⟨hversion, hds⟩, fun name hname => ?_⟩
              have hskip : skip = skipCertValid [skipCertificateValidation] proxy.envs :=
                scanAuthEnvs_eq hscan
              rw [← hskip] at hname
              obtain ⟨hfound, hread⟩ := run_queryAuthSecrets hans₂ h name hname
              refine ⟨hfound, ?_⟩
              rw [secretReads_append]
              exact List.mem_append_right _ hread

/-- The error of the read of the configuration, where it is read. -/
def configError (secrets : NamespacedName → Option GoError) (namesp : String)
    (driverSecretVersion : Bool) : Option GoError :=
  if driverSecretVersion then secretError (secrets ⟨namesp, karaviAuthorizationConfigSecret⟩) else none

theorem run_queryConfigSecret {ds : Bool} {namesp : String} {err : Option GoError}
    (hans : AnsweredBy secrets tr) (h : Run (queryConfigSecret ds namesp) tr err) :
    err = configError secrets namesp ds ∧
      (ds = true → ⟨namesp, karaviAuthorizationConfigSecret⟩ ∈ secretReads tr) := by
  unfold queryConfigSecret at h
  cases ds with
  | true =>
      obtain ⟨herr, hread⟩ := run_getSecretOf hans h
      exact ⟨herr, fun _ => hread⟩
  | false => exact ⟨(Run.ret_iff.mp h).2, fun hds => by cases hds⟩

/-- The mounts of the rendered container. -/
def sidecarMounts (params : SupportedDriverParam) (err : Option GoError) (c : ContainerApply) :
    List VolumeMountApply :=
  (if err.isSome then mountDriverSecret c else c).volumeMounts.map (nameMount params)

theorem run_getAuthApplyCR {auth : AuthApply} (hans : AnsweredBy secrets tr)
    (h : Run (getAuthApplyCR files op cr) tr (.ok auth)) :
    ∃ proxy version ds c₀ c₁, proxyComponent cr = some proxy ∧ ConfigVersionOf files op cr version ds ∧
      files.container (moduleFile op .authorization version "container.yaml") cr = .ok c₀ ∧
      (∃ env, mountCertificate proxy.envs { c₀ with env } = some c₁) ∧
      auth.authModule.components.head? = some proxy ∧
      auth.container.volumeMounts =
        sidecarMounts ((authorizationSupportedDrivers cr.spec.driver.csiDriverType).getD {})
          (configError secrets cr.namesp ds) c₁ ∧
      (ds = true → ⟨cr.namesp, karaviAuthorizationConfigSecret⟩ ∈ secretReads tr) := by
  unfold getAuthApplyCR at h
  dsimp only at h
  split at h
  · cases (Run.ret_iff.mp h).2
  next version hversion =>
    split at h
    · cases (Run.ret_iff.mp h).2
    next c₀ hc₀ =>
      obtain ⟨proxy, hproxy, h⟩ := run_orPanic_bind h
      obtain ⟨env, -, h⟩ := run_orPanic_bind h
      obtain ⟨c₁, hc₁, h⟩ := run_orPanic_bind h
      split at h
      · cases (Run.ret_iff.mp h).2
      next ds hds =>
        obtain ⟨tr₁, tr₂, err, rfl, hquery, h⟩ := Run.bind_iff.mp h
        obtain ⟨hans₁, -⟩ := AnsweredBy.append_iff.mp hans
        obtain ⟨rfl, hread⟩ := run_queryConfigSecret hans₁ hquery
        obtain ⟨matched, tr₃, rfl, hrest⟩ := Run.ask_bind_iff.mp h
        obtain ⟨c₂, hc₂, hret⟩ := run_orPanic_bind hrest
        cases (Run.ret_iff.mp hret).2
        refine ⟨proxy, version, ds, c₀, c₁, hproxy, ⟨hversion, hds⟩, hc₀, ⟨env, hc₁⟩, hproxy, ?_,
          fun htrue => ?_⟩
        · exact volumeMounts_resolveProxyImage hc₂
        · rw [secretReads_append]
          exact List.mem_append_left _ (hread htrue)

/-- The volumes that come with the container. -/
def sidecarVolumes (skip : Bool) (err : Option GoError) (vols : List VolumeApply) : List VolumeApply :=
  let vols := if skip then swapRemove (fun v => v.name = proxyRootCertificate) vols else vols
  if err.isSome then swapRemove (fun v => v.name = karaviAuthorizationConfigSecret) vols else vols

theorem run_getAuthApplyVolumes {proxy : ContainerTemplate} {vols : List VolumeApply} {version : String}
    {ds : Bool} (hconf : ConfigVersionOf files op cr version ds) (hans : AnsweredBy secrets tr)
    (h : Run (getAuthApplyVolumes files op cr proxy) tr (.ok vols)) :
    ∃ vols₀, files.volumes (moduleFile op .authorization version "volumes.yaml") = .ok vols₀ ∧
      vols = sidecarVolumes (skipCertValid [skipCertificateValidation] proxy.envs)
        (configError secrets cr.namesp ds) vols₀ := by
  unfold getAuthApplyVolumes at h
  rw [hconf.1] at h
  dsimp only at h
  split at h
  · cases (Run.ret_iff.mp h).2
  next vols₀ hvols₀ =>
    rw [hconf.2] at h
    obtain ⟨tr₁, tr₂, err, rfl, hquery, hrest⟩ := Run.bind_iff.mp h
    obtain ⟨rfl, -⟩ := run_queryConfigSecret (AnsweredBy.append_iff.mp hans).1 hquery
    cases (Run.ret_iff.mp hrest).2
    exact ⟨vols₀, hvols₀, rfl⟩

/-- What a pod has that the sidecar was injected into. -/
theorem run_authInject {w w' : WorkloadApply} (hans : AnsweredBy secrets tr)
    (h : Run (authInject files op w cr) tr (.ok w')) :
    ∃ proxy version ds c₀ c₁ vols₀ c, proxyComponent cr = some proxy ∧
      ConfigVersionOf files op cr version ds ∧
      files.container (moduleFile op .authorization version "container.yaml") cr = .ok c₀ ∧
      (∃ env, mountCertificate proxy.envs { c₀ with env } = some c₁) ∧
      files.volumes (moduleFile op .authorization version "volumes.yaml") = .ok vols₀ ∧
      w'.containers = w.containers ++ [c] ∧
      c.volumeMounts =
        sidecarMounts ((authorizationSupportedDrivers cr.spec.driver.csiDriverType).getD {})
          (configError secrets cr.namesp ds) c₁ ∧
      w'.volumes = w.volumes ++
        sidecarVolumes (skipCertValid [skipCertificateValidation] proxy.envs)
          (configError secrets cr.namesp ds) vols₀ ∧
      (ds = true → ⟨cr.namesp, karaviAuthorizationConfigSecret⟩ ∈ secretReads tr) := by
  obtain ⟨tr₁, tr₂, result, rfl, hauth, hrest⟩ := Run.bind_iff.mp h
  obtain ⟨hans₁, hans₂⟩ := AnsweredBy.append_iff.mp hans
  cases result with
  | error e => cases (Run.ret_iff.mp hrest).2
  | ok auth =>
      obtain ⟨proxy, version, ds, c₀, c₁, hproxy, hconf, hc₀, hc₁, hhead, hmounts, hread⟩ :=
        run_getAuthApplyCR hans₁ hauth
      obtain ⟨c, hc, hrest⟩ := run_orPanic_bind hrest
      obtain ⟨proxy', hproxy', hrest⟩ := run_orPanic_bind hrest
      obtain rfl : proxy' = proxy := Option.some.inj (hproxy'.symm.trans hhead)
      obtain ⟨tr₃, tr₄, result, rfl, hvols, hret⟩ := Run.bind_iff.mp hrest
      cases result with
      | error e => cases (Run.ret_iff.mp hret).2
      | ok vols =>
          obtain ⟨vols₀, hvols₀, rfl⟩ :=
            run_getAuthApplyVolumes hconf (AnsweredBy.append_iff.mp hans₂).1 hvols
          cases (Run.ret_iff.mp hret).2
          refine ⟨proxy', version, ds, c₀, c₁, vols₀, c, hproxy, hconf, hc₀, hc₁, hvols₀, rfl,
            (updateContainerApply_frame hc).2.trans hmounts, rfl, fun htrue => ?_⟩
          rw [secretReads_append]
          exact List.mem_append_left _ (hread htrue)

end Returned

/-! ## The fragments -/

/-- The fragments the repository ships for the sidecar: what it mounts, and the volumes, by name and
Secret. They are the same for all versions. -/
def shippedMounts : List String :=
  [karaviAuthorizationConfigSecret, proxyRootCertificate, defaultDriverConfigParamsVolumeMount]

def shippedVolumes : List VolumeApply :=
  [{ name := karaviAuthorizationConfigSecret, secretName := some karaviAuthorizationConfigSecret },
    { name := proxyRootCertificate, secretName := some proxyRootCertificate }]

structure ShipsAuthorization (files : ModuleFiles) (op : OperatorConfig) : Prop where
  container {version cr c} :
    files.container (moduleFile op .authorization version "container.yaml") cr = .ok c →
      c.volumeMounts.map (·.name) = shippedMounts
  volumes {version vols} :
    files.volumes (moduleFile op .authorization version "volumes.yaml") = .ok vols →
      vols = shippedVolumes

theorem names_mountCertificate {envs : List EnvVar} {c c' : ContainerApply}
    (hnames : c.volumeMounts.map (·.name) = shippedMounts) (h : mountCertificate envs c = some c') :
    c'.volumeMounts.map (·.name) =
      if skipCertValid [insecure, skipCertificateValidation] envs then
        [karaviAuthorizationConfigSecret, defaultDriverConfigParamsVolumeMount]
      else shippedMounts := by
  unfold mountCertificate at h
  split at h
  next hskip =>
    obtain ⟨mounts, hmounts, rfl⟩ := Option.map_eq_some_iff.mp h
    have hmap := swapRemoveAll_map (fun m : VolumeMountApply => m.name)
      (fun name => decide (name = proxyRootCertificate)) c.volumeMounts
    rw [hmounts, hnames] at hmap
    rw [if_pos hskip]
    exact (Option.some.inj hmap).symm
  next hskip =>
    cases h
    rw [if_neg hskip]
    exact hnames

/-- The name a placeholder is given. -/
def mountName (params : SupportedDriverParam) (name : String) : String :=
  if name = defaultDriverConfigParamsVolumeMount then params.driverConfigParamsVolumeMount
  else if name = defaultDriverConfigVolumeMount then params.driverConfigVolumeMount
  else name

theorem names_sidecarMounts (params : SupportedDriverParam) (err : Option GoError) (c : ContainerApply) :
    (sidecarMounts params err c).map (·.name) =
      (if err.isSome then replaceFirst (fun name => decide (name = karaviAuthorizationConfigSecret))
          defaultDriverConfigVolumeMount (c.volumeMounts.map (·.name))
        else c.volumeMounts.map (·.name)).map (mountName params) := by
  have hname : ∀ m : VolumeMountApply, (nameMount params m).name = mountName params m.name := by
    intro m
    unfold nameMount mountName
    split_ifs <;> rfl
  rw [sidecarMounts, List.map_map, Function.comp_def]
  simp only [hname]
  split
  · rw [← map_replaceFirst (fun m : VolumeMountApply => m.name)
      (fun name => decide (name = karaviAuthorizationConfigSecret)) { name := defaultDriverConfigVolumeMount }
      c.volumeMounts, List.map_map]
    rfl
  · rw [List.map_map]
    rfl

/-- The volumes that stay of the shipped ones. -/
theorem sidecarVolumes_shipped (skip : Bool) (err : Option GoError) :
    sidecarVolumes skip err shippedVolumes =
      (if err.isSome then [] else [{ name := karaviAuthorizationConfigSecret
                                     secretName := some karaviAuthorizationConfigSecret }]) ++
        (if skip then [] else [{ name := proxyRootCertificate
                                 secretName := some proxyRootCertificate }]) := by
  cases err <;> cases skip <;> rfl

/-- The volumes of the drivers have names of their own. -/
theorem supported_names {t : DriverType} {params : SupportedDriverParam}
    (h : authorizationSupportedDrivers t = some params) :
    params.driverConfigParamsVolumeMount ∉ shippedVolumes.map (·.name) ∧
      params.driverConfigVolumeMount ∉ shippedVolumes.map (·.name) := by
  cases t <;> simp only [authorizationSupportedDrivers, Option.some.injEq, reduceCtorEq] at h <;>
    subst h <;> decide

/-- The mounts of the shipped container resolve among the volumes `names` of the driver and those that
come with it. -/
theorem mounts_resolve_iff {t : DriverType} {params : SupportedDriverParam}
    (h : authorizationSupportedDrivers t = some params) (skipMount skip : Bool) (err : Option GoError)
    (names : List String) :
    (∀ name ∈ (if err.isSome then
          replaceFirst (fun name => decide (name = karaviAuthorizationConfigSecret))
            defaultDriverConfigVolumeMount
            (if skipMount then [karaviAuthorizationConfigSecret, defaultDriverConfigParamsVolumeMount]
              else shippedMounts)
        else if skipMount then [karaviAuthorizationConfigSecret, defaultDriverConfigParamsVolumeMount]
          else shippedMounts).map (mountName params),
      name ∈ names ++ (sidecarVolumes skip err shippedVolumes).map (·.name)) ↔
    params.driverConfigParamsVolumeMount ∈ names ∧
      (err.isSome = true → params.driverConfigVolumeMount ∈ names) ∧
      (skip = true → skipMount = true ∨ proxyRootCertificate ∈ names) := by
  obtain ⟨hparams, hconfig⟩ := supported_names h
  simp only [shippedVolumes, List.map_cons, List.map_nil, List.mem_cons, List.not_mem_nil, or_false,
    not_or] at hparams hconfig
  -- the placeholders are those of the shipped mounts, and one of them is put in
  have hk : mountName params karaviAuthorizationConfigSecret = karaviAuthorizationConfigSecret := by
    simp [mountName, karaviAuthorizationConfigSecret, defaultDriverConfigParamsVolumeMount,
      defaultDriverConfigVolumeMount]
  have hc : mountName params proxyRootCertificate = proxyRootCertificate := by
    simp [mountName, proxyRootCertificate, defaultDriverConfigParamsVolumeMount,
      defaultDriverConfigVolumeMount]
  have hp : mountName params defaultDriverConfigParamsVolumeMount =
      params.driverConfigParamsVolumeMount := if_pos rfl
  have hd : mountName params defaultDriverConfigVolumeMount = params.driverConfigVolumeMount := by
    simp [mountName, defaultDriverConfigParamsVolumeMount, defaultDriverConfigVolumeMount]
  have hne : proxyRootCertificate ≠ karaviAuthorizationConfigSecret := by decide
  rw [sidecarVolumes_shipped]
  cases err <;> cases skipMount <;> cases skip <;>
    simp [shippedMounts, replaceFirst, hk, hc, hp, hd, hne, hparams, hconfig] <;> tauto

/-! ## Closure -/

/-- Every mount of the container that was added to `w` names a volume of the pod. -/
def MountsResolve (w w' : WorkloadApply) : Prop :=
  ∀ c, w'.containers = w.containers ++ [c] →
    ∀ m ∈ c.volumeMounts, m.name ∈ w'.volumes.map (·.name)

/-- Every Secret among the volumes that were added to `w` was read, and is there. -/
def SecretsFound (secrets : NamespacedName → Option GoError) (namesp : String)
    (tr : List (Event Lookups)) (w w' : WorkloadApply) : Prop :=
  ∀ vols, w'.volumes = w.volumes ++ vols → ∀ v ∈ vols, ∀ secret, v.secretName = some secret →
    secrets ⟨namesp, secret⟩ = none ∧ ⟨namesp, secret⟩ ∈ secretReads tr

/-- No read failed: an error says that the object is not there. -/
def Settled (r : Option GoError) : Prop := ∀ e, r = some e → e.kind = .notFound

/-- When mounts and volumes fit. The driver has the volumes that are mounted from it; the older name of
the flag does not overrule the newer one; and the Secrets that are mounted could be read. -/
structure SidecarFits (files : ModuleFiles) (op : OperatorConfig)
    (secrets : NamespacedName → Option GoError) (cr : ContainerStorageModule) (w : WorkloadApply) :
    Prop where
  params : ∀ params, authorizationSupportedDrivers cr.spec.driver.csiDriverType = some params →
    params.driverConfigParamsVolumeMount ∈ w.volumes.map (·.name)
  driverSecret : ∀ params, authorizationSupportedDrivers cr.spec.driver.csiDriverType = some params →
    ∀ version, ConfigVersionOf files op cr version true →
    ∀ e, secrets ⟨cr.namesp, karaviAuthorizationConfigSecret⟩ = some e → e.kind = .notFound →
      params.driverConfigVolumeMount ∈ w.volumes.map (·.name)
  certificate : ∀ proxy, proxyComponent cr = some proxy →
    SaysTrue (lastNamed [skipCertificateValidation] proxy.envs) →
    SaysTrue (lastNamed [insecure, skipCertificateValidation] proxy.envs) ∨
      proxyRootCertificate ∈ w.volumes.map (·.name)
  configSettled : Settled (secrets ⟨cr.namesp, karaviAuthorizationConfigSecret⟩)
  certificateSettled : ∀ proxy, proxyComponent cr = some proxy →
    ¬ SaysTrue (lastNamed [skipCertificateValidation] proxy.envs) →
    Settled (secrets ⟨cr.namesp, proxyRootCertificate⟩)

theorem secretError_isSome_iff (r : Option GoError) :
    (secretError r).isSome = true ↔ ∃ e, r = some e ∧ e.kind = .notFound := by
  cases r with
  | none => simp [secretError]
  | some e => by_cases h : e.kind = .notFound <;> simp [secretError, h]

theorem settled_iff {r : Option GoError} (h : secretError r = none) : Settled r ↔ r = none := by
  have hkind := (secretError_isSome_iff r).not.mp (by simp [h])
  constructor
  · intro hsettled
    cases r with
    | none => rfl
    | some e => exact absurd ⟨e, rfl, hsettled e rfl⟩ hkind
  · rintro rfl
    exact fun _ he => by cases he

section Closure

variable {files : ModuleFiles} {op : OperatorConfig} {cr : ContainerStorageModule}
  {secrets : NamespacedName → Option GoError} {tr tr' : List (Event Lookups)} {w w' : WorkloadApply}
  {ds skip : Bool}

/-- The Secrets of the shipped volumes that stay, when those that the precheck asks for were found and
the configuration was read for the versions that can do without. -/
theorem secretsFound_iff {namesp : String}
    (hpre : ∀ name ∈ authSecrets ds skip, FoundIn secrets tr ⟨namesp, name⟩)
    (hread : ds = true → ⟨namesp, karaviAuthorizationConfigSecret⟩ ∈ secretReads tr')
    (hvols : w'.volumes = w.volumes ++
      sidecarVolumes skip (configError secrets namesp ds) shippedVolumes) :
    SecretsFound secrets namesp (tr ++ tr') w w' ↔
      Settled (secrets ⟨namesp, karaviAuthorizationConfigSecret⟩) ∧
        (skip = false → Settled (secrets ⟨namesp, proxyRootCertificate⟩)) := by
  -- what the two kinds of volumes contribute
  have hconfig : (configError secrets namesp ds).isSome = false →
      secretError (secrets ⟨namesp, karaviAuthorizationConfigSecret⟩) = none ∧
        ⟨namesp, karaviAuthorizationConfigSecret⟩ ∈ secretReads (tr ++ tr') := by
    intro herr
    rw [secretReads_append, List.mem_append]
    cases ds with
    | true => exact ⟨by simpa [configError] using herr, .inr (hread rfl)⟩
    | false =>
        obtain ⟨hfound, hmem⟩ := hpre karaviAuthorizationConfigSecret (by simp [authSecrets])
        exact ⟨hfound, .inl hmem⟩
  have hmissing : (configError secrets namesp ds).isSome = true →
      Settled (secrets ⟨namesp, karaviAuthorizationConfigSecret⟩) := by
    intro herr
    cases ds with
    | true =>
        obtain ⟨e, he, hkind⟩ := (secretError_isSome_iff _).mp herr
        rintro e' he'
        rw [he] at he'
        cases he'
        exact hkind
    | false => cases herr
  have hcert : skip = false →
      secretError (secrets ⟨namesp, proxyRootCertificate⟩) = none ∧
        ⟨namesp, proxyRootCertificate⟩ ∈ secretReads (tr ++ tr') := by
    rintro rfl
    obtain ⟨hfound, hmem⟩ := hpre proxyRootCertificate (by simp [authSecrets])
    rw [secretReads_append, List.mem_append]
    exact ⟨hfound, .inl hmem⟩
  rw [sidecarVolumes_shipped] at hvols
  unfold SecretsFound
  rw [hvols]
  simp only [List.append_cancel_left_eq, forall_eq']
  rw [List.forall_mem_append]
  refine and_congr ?_ ?_
  · cases herr : (configError secrets namesp ds).isSome with
    | true => simp [hmissing herr]
    | false =>
        obtain ⟨hfound, hmem⟩ := hconfig herr
        simp [settled_iff hfound, hmem]
  · cases skip with
    | true => simp
    | false =>
        obtain ⟨hfound, hmem⟩ := hcert rfl
        simp [settled_iff hfound, hmem]

/-- **Closure of the authorization sidecar.** The precheck has passed, the sidecar was injected, and all
reads of Secrets were answered alike. Then the mounts of the sidecar resolve and its Secrets are there
exactly when `SidecarFits` holds. -/
theorem sidecar_closed (files : ModuleFiles) (op : OperatorConfig) (cr : ContainerStorageModule)
    (secrets : NamespacedName → Option GoError) (w w' : WorkloadApply) (tr tr' : List (Event Lookups))
    (hfiles : ShipsAuthorization files op) (hans : AnsweredBy secrets (tr ++ tr'))
    (hpre : Run (authorizationPrecheck files op (cr.getModule .authorization) cr) tr none)
    (hinj : Run (authInjectDeployment files op w cr) tr' (.ok w')) :
    MountsResolve w w' ∧ SecretsFound secrets cr.namesp (tr ++ tr') w w' ↔
      SidecarFits files op secrets cr w := by
  obtain ⟨hans₁, hans₂⟩ := AnsweredBy.append_iff.mp hans
  obtain ⟨hdriver, proxy, version, ds, hproxy, hconf, hfound⟩ := run_authorizationPrecheck hans₁ hpre
  obtain ⟨params, hparams⟩ := Option.isSome_iff_exists.mp hdriver
  obtain ⟨proxy', version', ds', c₀, c₁, vols₀, c, hproxy', hconf', hc₀, ⟨env, hc₁⟩, hvols₀,
    hcontainers, hmounts, hvols, hread⟩ := run_authInject hans₂ hinj
  -- both runs read the same component and the same version
  obtain rfl : proxy' = proxy := Option.some.inj (hproxy'.symm.trans hproxy)
  obtain rfl : version' = version := Except.ok.inj (hconf'.1.symm.trans hconf.1)
  obtain rfl : ds' = ds := congrArg Prod.fst (hconf'.2.symm.trans hconf.2)
  rw [hfiles.volumes hvols₀] at hvols
  rw [hparams, Option.getD_some] at hmounts
  have hshipped := hfiles.container hc₀
  have hresolve : MountsResolve w w' ↔
      ∀ name ∈ c.volumeMounts.map (·.name), name ∈ w'.volumes.map (·.name) := by
    simp [MountsResolve, hcontainers]
  rw [hresolve, secretsFound_iff hfound hread hvols, hmounts, names_sidecarMounts,
    names_mountCertificate (by exact hshipped) hc₁, hvols, List.map_append,
    mounts_resolve_iff hparams, ← Bool.not_eq_true, skipCertValid_iff, skipCertValid_iff]
  constructor
  · rintro ⟨⟨hp, hd, hc⟩, hconfig, hcert⟩
    refine ⟨fun p hp' => ?_, fun p hp' version hversion e he hkind => ?_, fun q hq => ?_, hconfig,
      fun q hq => ?_⟩
    · rw [hparams] at hp'; cases hp'; exact hp
    · rw [hparams] at hp'; cases hp'
      obtain rfl := Except.ok.inj (hconf'.1.symm.trans hversion.1)
      obtain rfl : ds' = true := congrArg Prod.fst (hconf'.2.symm.trans hversion.2)
      exact hd ((secretError_isSome_iff _).mpr ⟨e, he, hkind⟩)
    · rw [hproxy'] at hq; cases hq; exact hc
    · rw [hproxy'] at hq; cases hq; exact hcert
  · intro h
    refine ⟨⟨h.params params hparams, fun herr => ?_, h.certificate _ hproxy'⟩, h.configSettled,
      h.certificateSettled _ hproxy'⟩
    cases ds' with
    | true =>
        obtain ⟨e, he, hkind⟩ := (secretError_isSome_iff _).mp herr
        exact h.driverSecret params hparams _ hconf' e he hkind
    | false => cases herr

end Closure

/-! ### A module with the older flag -/

/-- The shipped fragments, and the versions of the module for PowerScale. -/
def shippedFiles : ModuleFiles where
  readDir _ := .ok ["v2.3.0", "v2.4.0", "v2.5.0"]
  versionValues _ := .ok [("powerscale", [("v2.15.0", [("authorization", "v2.3.0")]),
    ("v2.16.0", [("authorization", "v2.4.0")]), ("v2.17.0", [("authorization", "v2.5.0")])])]
  container _ _ := .ok
    { name := karaviProxy
      image := some "quay.io/dell/container-storage-modules/csm-authorization-sidecar:v2.4.0"
      imagePullPolicy := some "IfNotPresent"
      env := [{ name := "PROXY_HOST", value := some "" }, { name := insecure, value := some "true" }]
      volumeMounts := shippedMounts.map fun name => { name } }
  volumes _ := .ok shippedVolumes

theorem shipsAuthorization (op : OperatorConfig) : ShipsAuthorization shippedFiles op where
  container h := by cases h; rfl
  volumes h := by cases h; rfl

/-- A PowerScale CR with the authorization module and this environment. -/
def proxiedIsilon (envs : List EnvVar) : ContainerStorageModule :=
  { name := "isilon", namesp := "dell"
    spec :=
      { driver := { csiDriverType := .powerScale, configVersion := "v2.16.0" }
        modules := [{ name := .authorization, enabled := true
                      components := [{ name := karaviProxy, envs }] }] } }

/-- The pod of the driver: the volumes that the sidecar can mount. -/
def isilonWorkload : WorkloadApply :=
  { volumes := [{ name := "csi-isilon-config-params" }, { name := "isilon-configs" }] }

/-- Every Secret that was read is there. -/
def readsSucceed (tr : List (Event Lookups)) : Bool :=
  tr.all fun e => match e with
    | ⟨.getSecret _, r⟩ => Option.isNone (α := GoError) r
    | _ => true

theorem AnsweredBy.of_readsSucceed {tr : List (Event Lookups)} (h : readsSucceed tr = true) :
    AnsweredBy (fun _ => none) tr :=
  fun _ _ hmem => Option.isNone_iff_eq_none.mp (List.all_eq_true.mp h _ hmem)

/-- The precheck passes and the sidecar is injected, when every Secret is there; `test` looks at the
resulting pod. -/
theorem exists_sidecar (cr : ContainerStorageModule) (w : WorkloadApply) (test : WorkloadApply → Bool)
    (hpre : ((Monitor.replay (fun _ => allFound)
      (authorizationPrecheck shippedFiles shippedConfig (cr.getModule .authorization) cr)).any fun x =>
        decide (x.1 = none) && readsSucceed x.2) = true)
    (hinj : ((Monitor.replay (fun _ => allFound)
      (authInjectDeployment shippedFiles shippedConfig w cr)).any fun x =>
        x.1.toOption.any test && readsSucceed x.2) = true) :
    ∃ tr tr' w', AnsweredBy (fun _ => none) (tr ++ tr') ∧
      Run (authorizationPrecheck shippedFiles shippedConfig (cr.getModule .authorization) cr) tr none ∧
      Run (authInjectDeployment shippedFiles shippedConfig w cr) tr' (.ok w') ∧ test w' = true := by
  obtain ⟨err, tr, hrun, htest⟩ := Monitor.exists_run_of_replay hpre
  obtain ⟨herr, hreads⟩ := (Bool.and_eq_true ..).mp htest
  obtain rfl := of_decide_eq_true herr
  obtain ⟨result, tr', hrun', htest'⟩ := Monitor.exists_run_of_replay hinj
  obtain ⟨hresult, hreads'⟩ := (Bool.and_eq_true ..).mp htest'
  cases result with
  | error e => cases hresult
  | ok w' =>
      exact ⟨tr, tr', w', AnsweredBy.append_iff.mpr
        ⟨.of_readsSucceed hreads, .of_readsSucceed hreads'⟩, hrun, hrun', hresult⟩

/-- The flag under its newer name alone: the mounts resolve. -/
theorem sidecar_closed_isilon :
    ∃ tr tr' w',
      Run (authorizationPrecheck shippedFiles shippedConfig
        ((proxiedIsilon [⟨skipCertificateValidation, "false"⟩]).getModule .authorization)
        (proxiedIsilon [⟨skipCertificateValidation, "false"⟩])) tr none ∧
      Run (authInjectDeployment shippedFiles shippedConfig isilonWorkload
        (proxiedIsilon [⟨skipCertificateValidation, "false"⟩])) tr' (.ok w') ∧
      MountsResolve isilonWorkload w' ∧ SecretsFound (fun _ => none) "dell" (tr ++ tr') isilonWorkload w' := by
  obtain ⟨tr, tr', w', hans, hpre, hinj, -⟩ := exists_sidecar
    (proxiedIsilon [⟨skipCertificateValidation, "false"⟩]) isilonWorkload (fun _ => true)
    (by decide +kernel) (by decide +kernel)
  refine ⟨tr, tr', w', hpre, hinj, ?_⟩
  refine (sidecar_closed _ _ _ _ _ _ _ _ (shipsAuthorization _) hans hpre hinj).mpr
    ⟨?_, ?_, ?_, ?_, ?_⟩
  · rintro _ ⟨⟩
    decide
  · rintro _ ⟨⟩ _ _ _ ⟨⟩
  · rintro _ ⟨⟩ ⟨e, he, htrue⟩
    cases he
    cases htrue
  · rintro _ ⟨⟩
  · rintro _ - - _ ⟨⟩

/-- An `INSECURE` after it that is false keeps the mount of the root certificate; the volume is gone. -/
theorem certificate_mount_unresolved :
    ∃ tr tr' w',
      Run (authorizationPrecheck shippedFiles shippedConfig
        ((proxiedIsilon [⟨skipCertificateValidation, "true"⟩, ⟨insecure, "false"⟩]).getModule
          .authorization)
        (proxiedIsilon [⟨skipCertificateValidation, "true"⟩, ⟨insecure, "false"⟩])) tr none ∧
      Run (authInjectDeployment shippedFiles shippedConfig isilonWorkload
        (proxiedIsilon [⟨skipCertificateValidation, "true"⟩, ⟨insecure, "false"⟩])) tr' (.ok w') ∧
      AnsweredBy (fun _ => none) (tr ++ tr') ∧ ¬ MountsResolve isilonWorkload w' := by
  obtain ⟨tr, tr', w', hans, hpre, hinj, htest⟩ := exists_sidecar
    (proxiedIsilon [⟨skipCertificateValidation, "true"⟩, ⟨insecure, "false"⟩]) isilonWorkload
    (fun w' => decide (w'.containers.map (fun c => c.volumeMounts.map (·.name)) =
        [[karaviAuthorizationConfigSecret, proxyRootCertificate, "csi-isilon-config-params"]]) &&
      decide (proxyRootCertificate ∉ w'.volumes.map (·.name)))
    (by decide +kernel) (by decide +kernel)
  refine ⟨tr, tr', w', hpre, hinj, hans, fun hresolve => ?_⟩
  obtain ⟨hmounts, hvols⟩ := (Bool.and_eq_true ..).mp htest
  obtain ⟨c, hc, hnames⟩ := List.map_eq_singleton_iff.mp (of_decide_eq_true hmounts)
  have hmem : proxyRootCertificate ∈ c.volumeMounts.map (·.name) := by rw [hnames]; decide
  obtain ⟨m, hm, hname⟩ := List.mem_map.mp hmem
  exact of_decide_eq_true hvols (hname ▸ hresolve c hc m hm)

end CsmOperator
