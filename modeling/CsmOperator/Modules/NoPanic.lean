import CsmOperator.Controllers.Sync
import CsmOperator.Interaction.Avoids
import CsmOperator.Modules.Closure
import CsmOperator.Modules.Prechecks
import CsmOperator.OperatorUtils.ModuleStatus

/-!
# Where the operator panics

The schema of the CR allows a module without components, with an empty list of them, and components that
do not say whether they are enabled. The code that goes over modules takes the first component without
looking whether there is one, and follows the pointer of the flag. Here it is worked out for which CRs the
prechecks and the status checks of the modules, and two functions they share with the rest of the
operator, come to do so.
-/

namespace CsmOperator

open Go Interaction

/-! ## Programs that do not panic -/

section Rules

variable {α β : Type}

/-- Whatever is found, the program does not panic. -/
abbrev PanicFree (p : LookupOp α) : Prop := Avoids (I := Lookups) (fun _ => True) .panic p

theorem panicFree_orPanic_bind_iff {x : Option α} {f : α → LookupOp β} :
    PanicFree (orPanic x >>= f) ↔ ∃ a, x = some a ∧ PanicFree (f a) := by
  cases x with
  | none =>
      refine ⟨fun h => ?_, nofun⟩
      exact absurd rfl (Avoids.call_iff.mp h).1
  | some a => exact ⟨fun h => ⟨a, rfl, h⟩, fun ⟨_, h, hf⟩ => by cases h; exact hf⟩

theorem panicFree_ask_bind {q : LookupRequest} {f : q.Answer → LookupOp β} (hq : q ≠ .panic)
    (hf : ∀ r, PanicFree (f r)) : PanicFree (Prog.ask (I := Lookups) q >>= f) :=
  Avoids.ask_bind_iff.mpr ⟨hq, fun r _ => hf r⟩

theorem panicFree_lookUpSecrets (namesp : String) (names : List String) :
    PanicFree (lookUpSecrets namesp names) := by
  induction names with
  | nil => exact .pure _
  | cons name names ih =>
      refine panicFree_ask_bind nofun fun r => ?_
      match r with
      | none => exact ih
      | some e =>
          dsimp only
          split
          · exact .pure _
          · exact ih

theorem panicFree_getSecretOf (name namesp : String) : PanicFree (getSecretOf name namesp) :=
  panicFree_ask_bind nofun fun _ => .pure _

theorem panicFree_queryAuthSecrets (namesp : String) (names : List String) :
    PanicFree (queryAuthSecrets namesp names) := by
  induction names with
  | nil => exact .pure _
  | cons name names ih =>
      refine .bind (panicFree_getSecretOf name namesp) fun err => ?_
      cases err with
      | none => exact ih
      | some e => exact .pure _

end Rules

/-! ## Versions -/

/-- The folders of the modules are not empty. -/
def HasFolders (files : ModuleFiles) : Prop := ∀ path, files.readDir path ≠ .ok []

/-- The version that the CR gives, if any, is in the folder of the module. -/
def AcceptsVersion (files : ModuleFiles) (op : OperatorConfig) (moduleType : ModuleType) (m : Module) : Prop :=
  m.configVersion ≠ "" → ∃ names,
    files.readDir (op.configDirectory ++ "/moduleconfig/" ++ moduleType.text ++ "/") = .ok names ∧
      m.configVersion ∈ names

section Versions

variable {files : ModuleFiles} {op : OperatorConfig} {cr : ContainerStorageModule} {m : Module}

theorem checkVersion_eq (hfolders : HasFolders files) (moduleType givenVersion configPath : String) :
    ∃ err, checkVersion files moduleType givenVersion configPath = pure err ∧
      (err = none ↔ ∃ names,
        files.readDir (configPath ++ "/moduleconfig/" ++ moduleType ++ "/") = .ok names ∧
          givenVersion ∈ names) := by
  unfold checkVersion
  cases hdir : files.readDir (configPath ++ "/moduleconfig/" ++ moduleType ++ "/") with
  | error e => exact ⟨_, rfl, by simp⟩
  | ok names =>
      dsimp only
      split_ifs with hmem hempty
      · exact ⟨_, rfl, by simp [hmem]⟩
      · exact absurd (hempty ▸ hdir) (hfolders _)
      · exact ⟨_, rfl, by simp [hmem]⟩

theorem checkGivenVersion_eq (hfolders : HasFolders files) (op : OperatorConfig) (moduleType : ModuleType)
    (m : Module) :
    ∃ err, checkGivenVersion files op moduleType m = pure err ∧
      (err = none ↔ AcceptsVersion files op moduleType m) := by
  unfold checkGivenVersion AcceptsVersion
  split_ifs with hversion
  · rw [forall_prop_of_true hversion]
    exact checkVersion_eq hfolders _ _ _
  · exact ⟨none, rfl, by simp [hversion]⟩

/-- What comes after the check of the version is reached when the version is accepted. -/
theorem panicFree_checkGivenVersion_bind_iff (hfolders : HasFolders files) {moduleType : ModuleType}
    {f : Option GoError → LookupOp (Option GoError)} (hf : ∀ e, PanicFree (f (some e))) :
    PanicFree (checkGivenVersion files op moduleType m >>= f) ↔
      (AcceptsVersion files op moduleType m → PanicFree (f none)) := by
  obtain ⟨err, heq, hiff⟩ := checkGivenVersion_eq hfolders op moduleType m
  rw [heq, ← hiff, pure_bind]
  cases err with
  | none => exact ⟨fun h _ => h, fun h => h rfl⟩
  | some e => exact ⟨fun _ => nofun, fun _ => hf e⟩

end Versions

/-! ## Prechecks -/

section Prechecks

variable {files : ModuleFiles} {op : OperatorConfig} {cr : ContainerStorageModule} {m : Module}
  {jsonToYAML : String → Except String (List StorageArrayConfig)}

theorem panicFree_precheckCerts (d : CertPrecheck) : PanicFree (precheckCerts d op cr) := by
  unfold precheckCerts
  split
  · exact .pure _
  · refine panicFree_ask_bind nofun fun missing => ?_
    split
    · exact .pure _
    · dsimp only
      split
      · exact .pure _
      · exact panicFree_lookUpSecrets _ _

theorem panicFree_precheckPowerFlex : PanicFree (precheckPowerFlex op jsonToYAML cr) := by
  unfold precheckPowerFlex
  dsimp only
  split
  · exact .pure _
  split
  · exact .pure _
  refine panicFree_ask_bind nofun fun missing => ?_
  split
  · exact .pure _
  refine panicFree_ask_bind nofun fun credSecret => ?_
  split
  · exact .pure _
  · exact panicFree_lookUpSecrets _ _

theorem panicFree_precheckDeployment (hfolders : HasFolders files) (moduleType : ModuleType)
    (title : String) : PanicFree (precheckDeployment files op moduleType title m cr) := by
  unfold precheckDeployment
  split
  · exact .pure _
  · obtain ⟨err, heq, -⟩ := checkGivenVersion_eq hfolders op moduleType m
    rw [heq]
    exact .pure _

theorem panicFree_precheckCluster {name : String} {precheck : LookupOp (Option GoError)}
    (h : PanicFree precheck) : PanicFree (precheckCluster name precheck) := by
  refine .bind h fun err => ?_
  cases err with
  | none => exact .pure _
  | some e => exact .pure _

theorem panicFree_replicationPrecheck (hfolders : HasFolders files) :
    PanicFree (replicationPrecheck files op jsonToYAML m cr) := by
  refine .bind (panicFree_precheckDeployment hfolders _ _) fun err => ?_
  cases err with
  | some e => exact .pure _
  | none =>
      dsimp only
      split
      · exact panicFree_precheckCluster (panicFree_precheckCerts _)
      · exact panicFree_precheckCluster panicFree_precheckPowerFlex
      · exact panicFree_precheckCluster (panicFree_precheckCerts _)
      · exact .pure _

theorem panicFree_authorizationServerPrecheck (hfolders : HasFolders files) :
    PanicFree (authorizationServerPrecheck files op m cr) := by
  unfold authorizationServerPrecheck
  split
  · exact .pure _
  next authVersion _ =>
    obtain ⟨err, heq, -⟩ := checkVersion_eq hfolders "authorization" authVersion op.configDirectory
    rw [heq, pure_bind]
    split
    · exact .pure _
    split
    · exact .pure _
    split
    · exact .pure _
    split
    · exact .pure _
    · exact panicFree_lookUpSecrets _ _

/-- The precheck of the authorization module takes the first component. -/
theorem panicFree_authorizationPrecheck_iff (hfolders : HasFolders files) :
    PanicFree (authorizationPrecheck files op m cr) ↔
      ((authorizationSupportedDrivers cr.spec.driver.csiDriverType).isSome →
        AcceptsVersion files op .authorization m → m.components ≠ []) := by
  unfold authorizationPrecheck
  split_ifs with hdriver
  · refine ⟨fun _ hsome => ?_, fun _ => .pure _⟩
    rw [Option.isNone_iff_eq_none.mp hdriver] at hsome
    cases hsome
  · have hsome : (authorizationSupportedDrivers cr.spec.driver.csiDriverType).isSome := by
      simpa [Option.isSome_iff_ne_none] using hdriver
    rw [forall_prop_of_true hsome, panicFree_checkGivenVersion_bind_iff hfolders (by exact fun _ => .pure _)]
    refine forall_congr' fun _ => ?_
    rw [panicFree_orPanic_bind_iff]
    constructor
    · rintro ⟨proxy, hhead, -⟩ hnil
      rw [hnil] at hhead
      cases hhead
    · intro hne
      obtain ⟨proxy, hproxy⟩ : ∃ proxy, (m.components.map requestSkip).head? = some proxy := by
        cases hcomponents : m.components with
        | nil => exact absurd hcomponents hne
        | cons c cs => exact ⟨requestSkip c, rfl⟩
      refine ⟨proxy, hproxy, ?_⟩
      split
      · exact .pure _
      split
      · exact .pure _
      split
      · exact .pure _
      · exact panicFree_queryAuthSecrets _ _

theorem panicFree_readProxyEnvs (names : ProxyNames) (envs : List EnvVar) :
    PanicFree (readProxyEnvs names envs) := by
  induction envs generalizing names with
  | nil => exact .pure _
  | cons env envs ih =>
      unfold readProxyEnvs
      split
      · exact panicFree_ask_bind nofun fun _ => ih _
      · exact ih _

theorem panicFree_lookUpProxyConfigMap (configMap : String) :
    PanicFree (lookUpProxyConfigMap cr configMap) := by
  unfold lookUpProxyConfigMap
  split
  · exact .pure _
  · refine panicFree_ask_bind nofun fun r => ?_
    match r with
    | none => exact .pure _
    | some e =>
        dsimp only
        split
        · exact .pure _
        · exact .pure _

/-- The precheck of the reverse proxy takes the first component of a list that is not nil. -/
theorem panicFree_reverseProxyPrecheck_iff (hfolders : HasFolders files) :
    PanicFree (reverseProxyPrecheck files op m cr) ↔
      (cr.spec.driver.csiDriverType = .powerMax → AcceptsVersion files op .reverseProxy m →
        m.components = [] → m.emptyComponents = false) := by
  unfold reverseProxyPrecheck
  split_ifs with hdriver
  · exact ⟨fun _ h => absurd h hdriver, fun _ => .pure _⟩
  · rw [forall_prop_of_true (not_not.mp hdriver),
      panicFree_checkGivenVersion_bind_iff hfolders (by exact fun _ => .pure _)]
    refine forall_congr' fun _ => ?_
    rw [panicFree_orPanic_bind_iff]
    refine (exists_congr fun envs => and_iff_left ?_).trans ?_
    · refine .bind (panicFree_readProxyEnvs _ _) fun names => ?_
      refine .bind (panicFree_lookUpSecrets _ _) fun err => ?_
      cases err with
      | none => exact panicFree_lookUpProxyConfigMap _
      | some e => exact .pure _
    · unfold proxyEnvs
      cases m.components with
      | cons c cs => simp
      | nil => cases m.emptyComponents <;> simp

end Prechecks

/-! ## The sidecar -/

/-- The shipped fragment of the sidecar has an image, and every reference in its environment is complete. -/
structure ShipsSidecar (files : ModuleFiles) (op : OperatorConfig) : Prop extends
    ShipsAuthorization files op where
  image {version cr c} :
    files.container (moduleFile op .authorization version "container.yaml") cr = .ok c → c.image.isSome
  env {version cr c} :
    files.container (moduleFile op .authorization version "container.yaml") cr = .ok c →
      ∀ e ∈ c.env, e.keep.isSome

/-- The fragment of the sidecar is found for the CR. -/
def FindsFragment (files : ModuleFiles) (op : OperatorConfig) (cr : ContainerStorageModule) : Prop :=
  ∃ version c, moduleVersion files op cr .authorization (cr.getModule .authorization) = .ok version ∧
    files.container (moduleFile op .authorization version "container.yaml") cr = .ok c

section Sidecar

variable {files : ModuleFiles} {op : OperatorConfig} {cr : ContainerStorageModule} {c : ContainerApply}

theorem isSome_replaceAllApplyCustomEnvs {env : List EnvVarApply} (h : ∀ e ∈ env, e.keep.isSome)
    (commonEnv nrEnv : List EnvVar) : (replaceAllApplyCustomEnvs env commonEnv nrEnv).isSome := by
  have hreplace : ∀ e ∈ env, (e.replace (commonEnv ++ nrEnv)).isSome := by
    intro e he
    unfold EnvVarApply.replace
    dsimp only
    split
    · rfl
    · exact h e he
  unfold replaceAllApplyCustomEnvs
  clear h
  induction env with
  | nil => rfl
  | cons e env ih =>
      obtain ⟨he, hrest⟩ := List.forall_mem_cons.mp hreplace
      obtain ⟨e', he'⟩ := Option.isSome_iff_exists.mp he
      obtain ⟨env', henv'⟩ := Option.isSome_iff_exists.mp (ih hrest)
      rw [List.mapM_cons, he', henv']
      rfl

theorem isSome_mountCertificate (hmounts : c.volumeMounts.map (·.name) = shippedMounts)
    (envs : List EnvVar) : (mountCertificate envs c).isSome := by
  unfold mountCertificate
  split
  · have hmap := swapRemoveAll_map (fun m : VolumeMountApply => m.name)
      (fun name => decide (name = proxyRootCertificate)) c.volumeMounts
    rw [hmounts] at hmap
    rw [Option.isSome_map, ← Option.isSome_map (f := List.map fun m : VolumeMountApply => m.name), ← hmap]
    rfl
  · rfl

theorem image_mountCertificate {envs : List EnvVar} {c' : ContainerApply}
    (h : mountCertificate envs c = some c') : c'.image = c.image := by
  unfold mountCertificate at h
  split at h
  · obtain ⟨_, -, rfl⟩ := Option.map_eq_some_iff.mp h
    rfl
  · cases h
    rfl

theorem isSome_resolveProxyImage {matched : VersionSpec} (himage : c.image.isSome) :
    (resolveProxyImage cr matched c).isSome := by
  unfold resolveProxyImage
  split_ifs
  · rfl
  · unfold ContainerApply.storeResolved
    rwa [Option.isSome_map]
  · rfl

theorem panicFree_queryConfigSecret (driverSecretVersion : Bool) (namesp : String) :
    PanicFree (queryConfigSecret driverSecretVersion namesp) := by
  unfold queryConfigSecret
  split
  · exact panicFree_getSecretOf _ _
  · exact .pure _

/-- Rendering the sidecar takes the first component of the module. -/
theorem panicFree_getAuthApplyCR_iff (hships : ShipsSidecar files op) :
    PanicFree (getAuthApplyCR files op cr) ↔
      (FindsFragment files op cr → (cr.getModule .authorization).components ≠ []) := by
  unfold getAuthApplyCR FindsFragment
  dsimp only
  split
  next e hversion =>
    refine ⟨?_, fun _ => .pure _⟩
    rintro - ⟨_, _, h, -⟩
    cases hversion.symm.trans h
  next version hversion =>
    split
    next e hfile =>
      refine ⟨?_, fun _ => .pure _⟩
      rintro - ⟨_, _, h, hc⟩
      cases hversion.symm.trans h
      cases hfile.symm.trans hc
    next c hfile =>
      rw [forall_prop_of_true ⟨version, c, hversion, hfile⟩, panicFree_orPanic_bind_iff]
      constructor
      · rintro ⟨proxy, hhead, -⟩ hnil
        rw [hnil] at hhead
        cases hhead
      · intro hne
        cases hcomponents : (cr.getModule .authorization).components with
        | nil => exact absurd hcomponents hne
        | cons proxy rest =>
            refine ⟨requestSkip proxy, rfl, panicFree_orPanic_bind_iff.mpr ?_⟩
            obtain ⟨env, henv⟩ := Option.isSome_iff_exists.mp
              (isSome_replaceAllApplyCustomEnvs (hships.env hfile) _ _)
            refine ⟨env, henv, panicFree_orPanic_bind_iff.mpr ?_⟩
            obtain ⟨c', hc'⟩ := Option.isSome_iff_exists.mp
              (isSome_mountCertificate (c := { c with env }) (hships.container (c := c) hfile) _)
            refine ⟨c', hc', ?_⟩
            have himage : c'.image.isSome := by
              rw [image_mountCertificate hc']
              exact hships.image (c := c) hfile
            split
            · exact .pure _
            · refine .bind (panicFree_queryConfigSecret _ _) fun err => ?_
              refine panicFree_ask_bind nofun fun matched => panicFree_orPanic_bind_iff.mpr ?_
              refine (Option.isSome_iff_exists.mp (isSome_resolveProxyImage ?_)).imp
                fun _ h => ⟨h, .pure _⟩
              dsimp only
              split
              · exact himage
              · exact himage

end Sidecar

/-! ## Status checks and flags -/

/-- The API server fills in the replicas of a Deployment. -/
def RepliesComplete (e : Event Api) : Prop := match e with
  | ⟨.listDeployments _, r⟩ =>
    ∀ deployments : List Deployment, r = Except.ok deployments → ∀ d ∈ deployments, d.replicas.isSome
  | _ => True

/-- The program does not panic, as long as Deployments have replicas. -/
abbrev PanicFreeOp {α : Type} (p : Op α) : Prop := Avoids (I := Api) RepliesComplete .panic p

/-- The component says whether it is enabled. -/
def ContainerTemplate.HasFlag (c : ContainerTemplate) : Prop := c.enabled.isSome

section Flags

variable {α : Type} {op : OperatorConfig} {cr : ContainerStorageModule}

theorem panicFreeOp_deref_bind_iff {β : Type} {x : Option α} {f : α → Op β} :
    PanicFreeOp (deref x >>= f) ↔ ∃ a, x = some a ∧ PanicFreeOp (f a) := by
  cases x with
  | none =>
      refine ⟨fun h => ?_, nofun⟩
      exact absurd rfl (Avoids.call_iff.mp h).1
  | some a => exact ⟨fun h => ⟨a, rfl, h⟩, fun ⟨_, h, hf⟩ => by cases h; exact hf⟩

theorem anyComponent_eq_pure {name : String → Bool} {cs : List ContainerTemplate}
    (h : ∀ c ∈ cs, name c.name → c.HasFlag) : ∃ b, anyComponent name cs = pure b := by
  induction cs with
  | nil => exact ⟨false, rfl⟩
  | cons c cs ih =>
      obtain ⟨hc, hcs⟩ := List.forall_mem_cons.mp h
      obtain ⟨later, hlater⟩ := ih hcs
      unfold anyComponent
      split
      next hname =>
        obtain ⟨here, hhere⟩ := Option.isSome_iff_exists.mp (hc hname)
        rw [hhere, hlater]
        exact ⟨here || later, rfl⟩
      next =>
        rw [hlater]
        exact ⟨false || later, rfl⟩

theorem hasFlag_of_panicFreeOp {name : String → Bool} {cs : List ContainerTemplate}
    (h : PanicFreeOp (anyComponent name cs)) : ∀ c ∈ cs, name c.name → c.HasFlag := by
  induction cs with
  | nil => exact fun _ hmem => (List.not_mem_nil hmem).elim
  | cons c cs ih =>
      unfold anyComponent at h
      rw [List.forall_mem_cons]
      split at h
      next hname =>
        obtain ⟨here, hhere, hrest⟩ := panicFreeOp_deref_bind_iff.mp h
        exact ⟨fun _ => Option.isSome_iff_exists.mpr ⟨here, hhere⟩, ih (Avoids.bind_iff.mp hrest).1⟩
      next hname =>
        exact ⟨fun h => absurd h hname, ih (Avoids.bind_iff.mp (pure_bind (m := Prog Api) false _ ▸ h)).1⟩

/-- What follows is reached when all flags that are followed are there. -/
theorem panicFreeOp_anyComponent_bind_iff {name : String → Bool} {cs : List ContainerTemplate}
    {f : Bool → Op α} {P : Prop} (hf : ∀ b, PanicFreeOp (f b) ↔ P) :
    PanicFreeOp (anyComponent name cs >>= f) ↔ (∀ c ∈ cs, name c.name → c.HasFlag) ∧ P := by
  constructor
  · intro h
    obtain ⟨hcomponents, -⟩ := Avoids.bind_iff.mp h
    have hflags := hasFlag_of_panicFreeOp hcomponents
    obtain ⟨b, hb⟩ := anyComponent_eq_pure hflags
    rw [hb, pure_bind] at h
    exact ⟨hflags, (hf b).mp h⟩
  · rintro ⟨hflags, hP⟩
    obtain ⟨b, hb⟩ := anyComponent_eq_pure hflags
    rw [hb, pure_bind]
    exact (hf b).mpr hP

theorem panicFreeOp_scanDeployments {table : List WatchedName} {deployments : List Deployment}
    (h : ∀ d ∈ deployments, d.replicas.isSome) : PanicFreeOp (scanDeployments table deployments) := by
  induction deployments with
  | nil => exact .pure _
  | cons d ds ih =>
      obtain ⟨hd, hds⟩ := List.forall_mem_cons.mp h
      unfold scanDeployments
      split
      · obtain ⟨replicas, hreplicas⟩ := Option.isSome_iff_exists.mp hd
        refine panicFreeOp_deref_bind_iff.mpr ⟨replicas, hreplicas, ?_⟩
        split
        · exact ih hds
        · exact .pure _
      · exact ih hds

theorem panicFreeOp_listDeployments_bind {namesp : String} {f : Except GoError (List Deployment) → Op α}
    (herr : ∀ e, PanicFreeOp (f (.error e)))
    (hok : ∀ deployments, (∀ d ∈ deployments, d.replicas.isSome) → PanicFreeOp (f (.ok deployments))) :
    PanicFreeOp (listDeployments namesp >>= f) := by
  refine Avoids.ask_bind_iff.mpr ⟨nofun, fun r hr => ?_⟩
  match r, hr with
  | .error e, _ => exact herr e
  | .ok deployments, hr => exact hok deployments (hr deployments rfl)

/-- The components whose flags the Observability check follows. -/
def observabilityNames (cr : ContainerStorageModule) : List String :=
  ["topology", "otel-collector", "cert-manager",
    "metrics-" ++ (driverFolder cr.spec.driver.csiDriverType).text]

theorem panicFreeOp_observabilityStatusCheck_iff :
    PanicFreeOp (observabilityStatusCheck op cr) ↔
      ∀ c ∈ moduleComponents cr .observability, c.name ∈ observabilityNames cr → c.HasFlag := by
  unfold observabilityStatusCheck
  dsimp only
  refine (panicFreeOp_anyComponent_bind_iff fun _ => panicFreeOp_anyComponent_bind_iff fun _ =>
    panicFreeOp_anyComponent_bind_iff fun _ => panicFreeOp_anyComponent_bind_iff fun _ =>
      iff_true_intro ?_).trans ?_
  · split
    · exact .pure _
    · refine panicFreeOp_listDeployments_bind (fun _ => .pure _) fun deployments h => ?_
      refine .bind (panicFreeOp_scanDeployments h) fun ready => ?_
      split
      · refine panicFreeOp_listDeployments_bind (fun _ => .pure _) fun deployments h => ?_
        exact .bind (panicFreeOp_scanDeployments h) fun _ => .pure _
      · exact .pure _
  · simp only [observabilityNames, List.mem_cons, List.not_mem_nil, or_false, or_imp,
      forall_and, decide_eq_true_eq, and_true]

/-- The components whose flags the check of the authorization server follows. -/
def authProxyNames : List String := ["ingress-nginx", "nginx-gateway-fabric", "nginx", "cert-manager"]

theorem panicFreeOp_authProxyStatusCheck_iff :
    PanicFreeOp (authProxyStatusCheck cr) ↔
      ∀ c ∈ moduleComponents cr .authorizationServer, c.name ∈ authProxyNames → c.HasFlag := by
  unfold authProxyStatusCheck
  dsimp only
  refine (panicFreeOp_anyComponent_bind_iff fun _ => panicFreeOp_anyComponent_bind_iff fun _ =>
    panicFreeOp_anyComponent_bind_iff fun _ => iff_true_intro ?_).trans ?_
  · refine panicFreeOp_listDeployments_bind (fun _ => .pure _) fun deployments h => ?_
    exact .bind (panicFreeOp_scanDeployments h) fun _ => .pure _
  · simp only [authProxyNames, List.mem_cons, List.not_mem_nil, or_false, or_imp, forall_and,
      decide_eq_true_eq, Bool.or_eq_true, and_true, and_assoc]

/-- Every component of the name without a flag comes after one that is enabled. -/
def FlagsPrecedeFor (name : String) (cs : List ContainerTemplate) : Prop :=
  ∀ before c after, cs = before ++ c :: after → c.name = name → ¬ c.HasFlag →
    ∃ d ∈ before, d.name = name ∧ d.enabled = some true

theorem flagsPrecedeFor_cons_iff {name : String} {c : ContainerTemplate} {cs : List ContainerTemplate} :
    FlagsPrecedeFor name (c :: cs) ↔
      if c.name = name then c.HasFlag ∧ (c.enabled = some true ∨ FlagsPrecedeFor name cs)
      else FlagsPrecedeFor name cs := by
  constructor
  · intro h
    have hrest : FlagsPrecedeFor name cs ∨ c.name = name ∧ c.enabled = some true := by
      by_contra hcon
      obtain ⟨hnot, hc⟩ := not_or.mp hcon
      refine hnot fun before d after hcs hd hflag => ?_
      obtain ⟨d', hmem, hd'⟩ := h (c :: before) d after (by rw [hcs]; rfl) hd hflag
      rcases List.mem_cons.mp hmem with rfl | hmem
      · exact absurd hd' hc
      · exact ⟨d', hmem, hd'⟩
    split_ifs with hname
    · refine ⟨?_, hrest.symm.imp_left And.right⟩
      by_contra hflag
      obtain ⟨_, hmem, -⟩ := h [] c cs rfl hname hflag
      cases hmem
    · exact hrest.resolve_right fun hc => hname hc.1
  · intro h before d after hcs hd hflag
    rcases List.cons_eq_append_iff.mp hcs with ⟨rfl, heq⟩ | ⟨before', rfl, hcs'⟩
    · cases heq
      rw [if_pos hd] at h
      exact absurd h.1 hflag
    · have hrest (hcs : FlagsPrecedeFor name cs) :
          ∃ d' ∈ c :: before', d'.name = name ∧ d'.enabled = some true :=
        (hcs before' d after hcs' hd hflag).imp fun _ h => ⟨List.mem_cons_of_mem _ h.1, h.2⟩
      split_ifs at h with hname
      · exact h.2.elim (fun htrue => ⟨c, List.mem_cons_self, hname, htrue⟩) hrest
      · exact hrest h

theorem panicFreeOp_go_iff {name : String} {cs : List ContainerTemplate} :
    PanicFreeOp (isModuleComponentEnabled.go name cs) ↔ FlagsPrecedeFor name cs := by
  induction cs with
  | nil =>
      refine ⟨fun _ before c after h => ?_, fun _ => .pure _⟩
      exact absurd h.symm (List.append_ne_nil_of_right_ne_nil _ (List.cons_ne_nil _ _))
  | cons c cs ih =>
      rw [flagsPrecedeFor_cons_iff, ← ih, isModuleComponentEnabled.go]
      split_ifs with hname
      · rw [panicFreeOp_deref_bind_iff, ContainerTemplate.HasFlag]
        cases c.enabled with
        | none => simp
        | some b =>
            cases b with
            | false => simp
            | true => exact ⟨fun _ => ⟨rfl, .inl rfl⟩, fun _ => ⟨true, rfl, .pure _⟩⟩
      · rfl

/-- Every component without a flag comes after one of the same name that is enabled. -/
def FlagsPrecede (cs : List ContainerTemplate) : Prop := ∀ name, FlagsPrecedeFor name cs

theorem panicFreeOp_isModuleComponentEnabled_iff {mod : ModuleType} :
    (∀ name, PanicFreeOp (isModuleComponentEnabled cr mod name)) ↔
      ∀ m, isModuleEnabled cr mod = some m → FlagsPrecede m.components := by
  unfold isModuleComponentEnabled
  cases isModuleEnabled cr mod with
  | none => exact ⟨fun _ => nofun, fun _ _ => .pure _⟩
  | some m => simp only [Option.some.injEq, forall_eq', panicFreeOp_go_iff, FlagsPrecede]

end Flags

/-! ## All of them -/

section All

variable (files : ModuleFiles) (op : OperatorConfig)
  (jsonToYAML : String → Except String (List StorageArrayConfig)) (cr : ContainerStorageModule)

/-- None of the functions panics on the CR. -/
structure NeverPanics : Prop where
  prechecks : ∀ m ∈ cr.spec.modules, m.enabled →
    ∀ p, modulePrecheck files op jsonToYAML m cr = some p → PanicFree p
  observability : PanicFreeOp (observabilityStatusCheck op cr)
  authProxy : PanicFreeOp (authProxyStatusCheck cr)
  componentEnabled : ∀ mod name, PanicFreeOp (isModuleComponentEnabled cr mod name)
  sidecar : PanicFree (getAuthApplyCR files op cr)

/-- The module has a first component where one is taken. -/
structure HasFirst (m : Module) : Prop where
  authorization : m.name = .authorization →
    (authorizationSupportedDrivers cr.spec.driver.csiDriverType).isSome →
      AcceptsVersion files op .authorization m → m.components ≠ []
  reverseProxy : m.name = .reverseProxy → cr.spec.driver.csiDriverType = .powerMax →
    AcceptsVersion files op .reverseProxy m → m.components = [] → m.emptyComponents = false

/-- Lists have a first component where one is taken, and components have a flag where it is followed. -/
structure HasComponents : Prop where
  modules : ∀ m ∈ cr.spec.modules, m.enabled → HasFirst files op cr m
  observability : ∀ c ∈ moduleComponents cr .observability, c.name ∈ observabilityNames cr → c.HasFlag
  authProxy : ∀ c ∈ moduleComponents cr .authorizationServer, c.name ∈ authProxyNames → c.HasFlag
  flags : ∀ mod m, isModuleEnabled cr mod = some m → FlagsPrecede m.components
  sidecar : FindsFragment files op cr → (cr.getModule .authorization).components ≠ []

variable {files op jsonToYAML cr}

theorem panicFree_modulePrecheck_iff (hfolders : HasFolders files) {m : Module} :
    (∀ p, modulePrecheck files op jsonToYAML m cr = some p → PanicFree p) ↔ HasFirst files op cr m := by
  unfold modulePrecheck
  constructor
  · intro h
    refine ⟨fun hname => ?_, fun hname => ?_⟩
    · exact (panicFree_authorizationPrecheck_iff hfolders).mp (h _ (by rw [hname]))
    · exact (panicFree_reverseProxyPrecheck_iff hfolders).mp (h _ (by rw [hname]))
  · intro h p hp
    split at hp <;> cases hp
    next hname => exact (panicFree_authorizationPrecheck_iff hfolders).mpr (h.authorization hname)
    next => exact panicFree_authorizationServerPrecheck hfolders
    next => exact panicFree_replicationPrecheck hfolders
    next => exact panicFree_precheckDeployment hfolders _ _
    next => exact panicFree_precheckDeployment hfolders _ _
    next hname => exact (panicFree_reverseProxyPrecheck_iff hfolders).mpr (h.reverseProxy hname)

/-- **Panics on what the schema allows.** The prechecks and status checks of the modules, the look-up of
a component and the rendering of the sidecar are free of panics exactly when lists have a first component
where one is taken and components have a flag where it is followed. -/
theorem neverPanics_iff (files : ModuleFiles) (op : OperatorConfig)
    (jsonToYAML : String → Except String (List StorageArrayConfig)) (cr : ContainerStorageModule)
    (hfolders : HasFolders files) (hships : ShipsSidecar files op) :
    NeverPanics files op jsonToYAML cr ↔ HasComponents files op cr := by
  constructor
  · intro h
    exact
      { modules := fun m hm hen => (panicFree_modulePrecheck_iff hfolders).mp (h.prechecks m hm hen)
        observability := panicFreeOp_observabilityStatusCheck_iff.mp h.observability
        authProxy := panicFreeOp_authProxyStatusCheck_iff.mp h.authProxy
        flags := fun mod => panicFreeOp_isModuleComponentEnabled_iff.mp (h.componentEnabled mod)
        sidecar := (panicFree_getAuthApplyCR_iff hships).mp h.sidecar }
  · intro h
    exact
      { prechecks := fun m hm hen => (panicFree_modulePrecheck_iff hfolders).mpr (h.modules m hm hen)
        observability := panicFreeOp_observabilityStatusCheck_iff.mpr h.observability
        authProxy := panicFreeOp_authProxyStatusCheck_iff.mpr h.authProxy
        componentEnabled := fun mod => panicFreeOp_isModuleComponentEnabled_iff.mpr (h.flags mod)
        sidecar := (panicFree_getAuthApplyCR_iff hships).mpr h.sidecar }

end All

/-! ### A module without components -/

theorem shipsSidecar (op : OperatorConfig) : ShipsSidecar shippedFiles op where
  toShipsAuthorization := shipsAuthorization op
  image h := by cases h; rfl
  env h := by cases h; simp [EnvVarApply.keep]

theorem hasFolders_shipped : HasFolders shippedFiles := fun _ => nofun

/-- A PowerScale CR that enables the authorization module with these components. -/
def authorizedIsilon (components : List ContainerTemplate) : ContainerStorageModule :=
  { name := "isilon", namesp := "dell"
    spec :=
      { driver := { csiDriverType := .powerScale, configVersion := "v2.16.0" }
        modules := [{ name := .authorization, enabled := true, components }] } }

/-- A module that is enabled and says nothing about its components. -/
theorem bareAuthorization_panics :
    ¬ NeverPanics shippedFiles shippedConfig (fun _ => .ok []) (authorizedIsilon []) := by
  intro h
  have hfirst := (panicFree_modulePrecheck_iff hasFolders_shipped).mp
    (h.prechecks _ List.mem_cons_self rfl)
  exact hfirst.authorization rfl rfl (fun hne => absurd rfl hne) rfl

def enabledProxy : ContainerTemplate := { name := karaviProxy, enabled := some true }

/-- With the proxy component, and its flag, the functions go through. -/
theorem enabledProxy_neverPanics :
    NeverPanics shippedFiles shippedConfig (fun _ => .ok []) (authorizedIsilon [enabledProxy]) := by
  refine (neverPanics_iff shippedFiles shippedConfig (fun _ => .ok []) _ hasFolders_shipped
    (shipsSidecar shippedConfig)).mpr ?_
  have honly : ∀ m ∈ (authorizedIsilon [enabledProxy]).spec.modules,
      m = { name := .authorization, enabled := true, components := [enabledProxy] } :=
    fun m hm => List.mem_singleton.mp hm
  refine ⟨fun m hm _ => ?_, fun _ hc => ?_, fun _ hc => ?_, fun mod m hm => ?_, fun _ => nofun⟩
  · rw [honly m hm]
    exact ⟨fun _ _ _ => nofun, nofun⟩
  · cases hc
  · cases hc
  · rw [honly m (List.mem_of_find?_eq_some hm)]
    intro name before c after hcs _ hflag
    have hmem : c ∈ [enabledProxy] :=
      (show [enabledProxy] = _ from hcs) ▸ List.mem_append_right _ List.mem_cons_self
    rw [List.mem_singleton.mp hmem] at hflag
    exact absurd rfl hflag

end CsmOperator
