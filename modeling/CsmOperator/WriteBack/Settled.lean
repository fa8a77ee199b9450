import CsmOperator.OperatorUtils.DefaultComponents
import CsmOperator.WriteBack.Edits

/-!
# The CR that is written back

`Reconcile` changes the CR that it has read in six places before `oldStandAloneModuleCleanup` stores it. The
stored CR is read again by the next reconcile. Here the changes are put together: a CR that was written back
is not changed any more, and what it holds of the driver's Secret is the address of the MDM, where the user has
listed a container that takes it.
-/

namespace CsmOperator

open Go Interaction

/-- The CR as it is stored. An upgrade that is invalid without an error is accepted and leaves out the prechecks
of the modules. -/
def writtenBack (op : OperatorConfig) (mdmVar : String) (checked : Bool) (cr : ContainerStorageModule) :
    Except GoError ContainerStorageModule :=
  match prepare op cr with
  | .error e => .error e
  | .ok csm =>
    let csm := afterDriverPrecheck csm
    .ok (driverConfigWritten mdmVar (if checked then skipRequested csm else csm))

/-! ## Entries of one type -/

/-- The entries of a type, in their order. -/
def entries (t : ModuleType) (ms : List Module) : List Module := ms.filter (·.name = t)

/-- Only entries of the type have changed, and they keep their name. -/
def EditsOnly (t : ModuleType) : List Module → List Module → Prop :=
  List.Forall₂ fun m m' => m'.name = m.name ∧ (m.name ≠ t → m' = m)

section Entries

variable {t u : ModuleType} {ms ms' : List Module} {cr cr' : ContainerStorageModule}

theorem entries_of_editsOnly (h : EditsOnly t ms ms') (hne : u ≠ t) : entries u ms' = entries u ms := by
  induction h with
  | nil => rfl
  | cons hm _ ih =>
      obtain ⟨hname, hsame⟩ := hm
      rename_i m m' ms ms' _
      unfold entries at ih ⊢
      by_cases hu : m.name = u
      · rw [hsame (hu ▸ hne), List.filter_cons, List.filter_cons, ih]
      · rw [List.filter_cons_of_neg (by simpa [hname] using hu), List.filter_cons_of_neg (by simpa using hu), ih]

theorem editsOnly_map {f : Module → Module} (h : ∀ m, (f m).name = m.name ∧ (m.name ≠ t → f m = m))
    (ms : List Module) : EditsOnly t ms (ms.map f) := by
  rw [EditsOnly, List.forall₂_map_right_iff]
  exact List.forall₂_same.mpr fun m _ => h m

theorem editsOnly_refl (ms : List Module) : EditsOnly t ms ms :=
  List.forall₂_same.mpr fun _ _ => ⟨rfl, fun _ => rfl⟩

theorem editsOnly_setAuthVersion (v : String) (ms : List Module) :
    EditsOnly .authorizationServer ms (setAuthVersion v ms) := by
  induction ms with
  | nil => exact .nil
  | cons m ms ih =>
      unfold setAuthVersion
      split
      next hm => exact .cons ⟨rfl, fun hne => absurd hm hne⟩ (editsOnly_refl ms)
      next => exact .cons ⟨rfl, fun _ => rfl⟩ ih

theorem editsOnly_enableReverseProxy (ms : List Module) : EditsOnly .reverseProxy ms (enableReverseProxy ms) := by
  induction ms with
  | nil => exact .nil
  | cons m ms ih =>
      unfold enableReverseProxy
      split
      next hm => exact .cons ⟨rfl, fun hne => absurd hm hne⟩ (editsOnly_refl ms)
      next => exact .cons ⟨rfl, fun _ => rfl⟩ ih

theorem editsOnly_skipRequested (ms : List Module) : EditsOnly .authorization ms (ms.map (·.skipRequested)) := by
  refine editsOnly_map (fun m => ?_) ms
  unfold Module.skipRequested
  split
  next hm => exact ⟨rfl, fun hne => absurd hm.1 hne⟩
  next => exact ⟨rfl, fun _ => rfl⟩

/-! What the operator reads of a module is a matter of its entries. -/

variable (h : entries t cr'.spec.modules = entries t cr.spec.modules)
include h

theorem getModule_of_entries : cr'.getModule t = cr.getModule t := by
  unfold ContainerStorageModule.getModule
  rw [← List.head?_filter, ← List.head?_filter]
  exact congrArg (fun ms : List Module => ms.head?.getD _) h

theorem hasModule_of_entries : cr'.hasModule t = cr.hasModule t := by
  have hany (ms : List Module) : ms.any (·.name = t) = !(entries t ms).isEmpty := by
    rw [Bool.eq_iff_iff]
    simp [entries]
  unfold ContainerStorageModule.hasModule
  rw [hany, hany, h]

theorem isModuleEnabled_of_entries : isModuleEnabled cr' t = isModuleEnabled cr t := by
  have hfind (ms : List Module) :
      ms.find? (fun m => m.name = t && m.enabled) = (entries t ms).find? (·.enabled) := by
    rw [entries, List.find?_filter]
    simp
  unfold isModuleEnabled
  rw [hfind, hfind, h]

end Entries

/-! ## Done twice -/

section Twice

variable {name value : String} {envs : List EnvVar} {sel : ContainerTemplate → Bool} {g : List EnvVar → List EnvVar}
  {mdmVar : String} {cr : ContainerStorageModule}

theorem any_replaceFirst (name value : String) (envs : List EnvVar) :
    (replaceFirst (·.name = name) ⟨name, value⟩ envs).any (·.name = name) = envs.any (·.name = name) := by
  induction envs with
  | nil => rfl
  | cons env envs ih =>
      unfold replaceFirst
      split
      next h => simp [h]
      next h => rw [List.any_cons, List.any_cons, ih]

theorem overwriteEnv_overwriteEnv (name value : String) (envs : List EnvVar) :
    overwriteEnv name value (overwriteEnv name value envs) = overwriteEnv name value envs := by
  unfold overwriteEnv
  induction envs with
  | nil => rfl
  | cons env envs ih =>
      by_cases h : env.name = name
      · simp [replaceFirst, h]
      · simpa [replaceFirst, h] using ih

theorem replaceFirst_append_singleton {α : Type} {p : α → Bool} {y : α} {xs : List α} (h : xs.any p = false) :
    replaceFirst p y (xs ++ [y]) = xs ++ [y] := by
  induction xs with
  | nil => simp [replaceFirst]
  | cons x xs ih =>
      rw [List.any_cons, Bool.or_eq_false_iff] at h
      rw [List.cons_append, replaceFirst, h.1, ih h.2]
      rfl

theorem setEnv_setEnv (name value : String) (envs : List EnvVar) :
    setEnv name value (setEnv name value envs) = setEnv name value envs := by
  by_cases h : envs.any (·.name = name) = true
  · have hset : setEnv name value envs = overwriteEnv name value envs := if_pos h
    have hany : (overwriteEnv name value envs).any (·.name = name) = true := (any_replaceFirst ..).trans h
    rw [hset, setEnv, if_pos hany]
    exact overwriteEnv_overwriteEnv name value envs
  · -- the variable that was added is the only one
    have hset : setEnv name value envs = envs ++ [⟨name, value⟩] := if_neg h
    have hany : (envs ++ [(⟨name, value⟩ : EnvVar)]).any (·.name = name) = true := by simp
    rw [hset, setEnv, if_pos hany]
    exact replaceFirst_append_singleton (by simpa using h)

theorem addEnvIfMissing_twice (name value : String) (envs : List EnvVar) :
    addEnvIfMissing name value (addEnvIfMissing name value envs) = addEnvIfMissing name value envs := by
  have hany : (addEnvIfMissing name value envs).any (·.name = name) = true := by
    unfold addEnvIfMissing
    split
    · assumption
    · simp
  rw [addEnvIfMissing, if_pos hany]

theorem onEnvs_onEnvs (hsel : ∀ c envs, sel { c with envs } = sel c) (hg : ∀ envs, g (g envs) = g envs)
    (c : ContainerTemplate) : onEnvs sel g (onEnvs sel g c) = onEnvs sel g c := by
  by_cases h : sel c = true
  · have hon : onEnvs sel g c = { c with envs := g c.envs } := if_pos h
    rw [hon, onEnvs, hsel, if_pos h]
    exact congrArg (fun envs => { c with envs }) (hg c.envs)
  · have hon : onEnvs sel g c = c := if_neg h
    rw [hon, hon]

theorem map_onEnvs_twice (hsel : ∀ c envs, sel { c with envs } = sel c) (hg : ∀ envs, g (g envs) = g envs)
    (cs : List ContainerTemplate) : (cs.map (onEnvs sel g)).map (onEnvs sel g) = cs.map (onEnvs sel g) := by
  rw [List.map_map]
  exact List.map_congr_left fun c _ => onEnvs_onEnvs hsel hg c

theorem Module.skipRequested_twice (m : Module) : m.skipRequested.skipRequested = m.skipRequested := by
  by_cases h : m.name = .authorization ∧ m.enabled
  · have hskip : m.skipRequested = { m with
        components := m.components.map
          (onEnvs isKaraviProxy (addEnvIfMissing skipCertificateValidation "true")) } := if_pos h
    rw [hskip, Module.skipRequested, if_pos h]
    refine congrArg (fun components => { m with components }) ?_
    exact map_onEnvs_twice (fun _ _ => rfl) (addEnvIfMissing_twice _ _) m.components
  · have hskip : m.skipRequested = m := if_neg h
    rw [hskip, hskip]

theorem sdcWritten_twice (mdmVar : String) (cr : ContainerStorageModule) :
    sdcWritten mdmVar (sdcWritten mdmVar cr) = sdcWritten mdmVar cr := by
  let sel : ContainerTemplate → Bool := fun c => isSdc c && sdcEnabled cr
  have hinit : _ = cr.spec.driver.initContainers.map (onEnvs sel (overwriteEnv "MDM" mdmVar)) :=
    map_onEnvs_twice (fun _ _ => rfl) (overwriteEnv_overwriteEnv "MDM" mdmVar) cr.spec.driver.initContainers
  have hside : _ = cr.spec.driver.sideCars.map (onEnvs isSdcMonitor (setEnv "MDM" mdmVar)) :=
    map_onEnvs_twice (fun _ _ => rfl) (setEnv_setEnv "MDM" mdmVar) cr.spec.driver.sideCars
  exact congrArg₂ (fun initContainers sideCars => { cr with
    spec := { cr.spec with driver := { cr.spec.driver with initContainers, sideCars } } }) hinit hside

def ContainerStorageModule.withNode (cr : ContainerStorageModule) (node : Option ContainerTemplate) :
    ContainerStorageModule :=
  { cr with spec := { cr.spec with driver := { cr.spec.driver with node } } }

theorem authEnvWritten_twice (cr : ContainerStorageModule) :
    authEnvWritten (authEnvWritten cr) = authEnvWritten cr := by
  by_cases h : cr.hasModule .authorization = true
  · have hwritten (node : Option ContainerTemplate) : authEnvWritten (cr.withNode node) = cr.withNode (node.map
        (onEnvs (fun _ => true) (setEnv "X_CSM_AUTH_ENABLED" (toString (cr.getModule .authorization).enabled)))) :=
      if_pos h
    have hcr : authEnvWritten cr = _ := hwritten cr.spec.driver.node
    rw [hcr, hwritten, Option.map_map]
    congr 2
    exact funext (onEnvs_onEnvs (fun _ _ => rfl) (setEnv_setEnv _ _))
  · have hwritten : authEnvWritten cr = cr := if_neg h
    rw [hwritten, hwritten]

theorem driverConfigWritten_twice (mdmVar : String) (cr : ContainerStorageModule) :
    driverConfigWritten mdmVar (driverConfigWritten mdmVar cr) = driverConfigWritten mdmVar cr := by
  by_cases hflex : cr.spec.driver.csiDriverType = .powerFlex
  · have hwritten : driverConfigWritten mdmVar cr = sdcWritten mdmVar cr := if_pos hflex
    have htype : (sdcWritten mdmVar cr).spec.driver.csiDriverType = .powerFlex := hflex
    rw [hwritten, driverConfigWritten, if_pos htype, sdcWritten_twice]
  · by_cases hstore : cr.spec.driver.csiDriverType = .powerStore
    · have hwritten : driverConfigWritten mdmVar cr = authEnvWritten cr := by
        rw [driverConfigWritten, if_neg hflex, if_pos hstore]
      have htype : (authEnvWritten cr).spec.driver.csiDriverType = .powerStore := by
        unfold authEnvWritten
        split <;> exact hstore
      rw [hwritten, driverConfigWritten, if_neg (by rw [htype]; decide), if_pos htype, authEnvWritten_twice]
    · have hwritten : driverConfigWritten mdmVar cr = cr := by
        rw [driverConfigWritten, if_neg hflex, if_neg hstore]
      rw [hwritten, hwritten]

end Twice

/-- Rendering the driver changes the containers of the driver. -/
theorem driverConfigWritten_eq (mdmVar : String) (cr : ContainerStorageModule) :
    ∃ initContainers sideCars node, driverConfigWritten mdmVar cr =
      { cr with spec := { cr.spec with driver := { cr.spec.driver with initContainers, sideCars, node } } } := by
  unfold driverConfigWritten
  split
  · exact ⟨_, _, cr.spec.driver.node, rfl⟩
  · split
    · unfold authEnvWritten
      split
      · exact ⟨cr.spec.driver.initContainers, cr.spec.driver.sideCars, _, rfl⟩
      · exact ⟨cr.spec.driver.initContainers, cr.spec.driver.sideCars, cr.spec.driver.node, rfl⟩
    · exact ⟨cr.spec.driver.initContainers, cr.spec.driver.sideCars, cr.spec.driver.node, rfl⟩

/-! ## A CR that is not changed any more -/

/-- The default components are there, or the module is off. -/
def DefaultsLoaded (op : OperatorConfig) (cr : ContainerStorageModule) : Prop :=
  cr.hasModule .observability = true →
    ∃ comps, getDefaultComponents op cr.getDriverType .observability = .ok comps ∧
      ((isModuleEnabled cr .observability).isSome = true →
        ∀ comp ∈ comps, hasModuleComponent cr .observability comp.name = true)

/-- What comes before the prechecks of the modules has nothing left to do. -/
structure Prechecked (op : OperatorConfig) (cr : ContainerStorageModule) : Prop where
  forceRemove : cr.spec.driver.forceRemoveDriver.isSome = true
  defaults : DefaultsLoaded op cr
  version : cr.hasModule .authorizationServer = true →
    getVersion op cr = .ok (cr.getModule .authorizationServer).configVersion
  proxy : cr.spec.driver.csiDriverType = .powerMax → cr.hasModule .reverseProxy = true →
    (cr.getModule .reverseProxy).enabled = true ∧ (cr.getModule .reverseProxy).forceRemoveModule = true

/-- The proxies of the modules have their variable. -/
def Skipped (cr : ContainerStorageModule) : Prop := ∀ m ∈ cr.spec.modules, m.skipRequested = m

/-- None of the changes has anything left to do. -/
structure AtRest (op : OperatorConfig) (mdmVar : String) (cr : ContainerStorageModule) : Prop extends
    Prechecked op cr where
  skip : Skipped cr
  driver : driverConfigWritten mdmVar cr = cr

section AtRest

variable {op : OperatorConfig} {mdmVar : String} {cr cr' csm w : ContainerStorageModule}

theorem setAuthVersion_eq_self {v : String} {ms : List Module}
    (h : ∀ m, ms.find? (·.name = .authorizationServer) = some m → m.configVersion = v) :
    setAuthVersion v ms = ms := by
  induction ms with
  | nil => rfl
  | cons m ms ih =>
      unfold setAuthVersion
      split
      next hm =>
        rw [← h m (List.find?_cons_of_pos (by simpa using hm))]
      next hm =>
        rw [ih fun m' hm' => h m' ((List.find?_cons_of_neg (by simpa using hm)).trans hm')]

theorem enableReverseProxy_eq_self {ms : List Module}
    (h : ∀ m, ms.find? (·.name = .reverseProxy) = some m → m.enabled = true ∧ m.forceRemoveModule = true) :
    enableReverseProxy ms = ms := by
  induction ms with
  | nil => rfl
  | cons m ms ih =>
      unfold enableReverseProxy
      split
      next hm =>
        obtain ⟨henabled, hforce⟩ := h m (List.find?_cons_of_pos (by simpa using hm))
        refine congrArg (· :: ms) ?_
        cases m
        cases henabled
        cases hforce
        rfl
      next hm =>
        rw [ih fun m' hm' => h m' ((List.find?_cons_of_neg (by simpa using hm)).trans hm')]

/-- The first entry, where there is one. -/
theorem getModule_of_find? {t : ModuleType} {m : Module} (h : cr.spec.modules.find? (·.name = t) = some m) :
    cr.hasModule t = true ∧ cr.getModule t = m := by
  refine ⟨?_, by rw [ContainerStorageModule.getModule, h, Option.getD_some]⟩
  have hm := List.find?_some h
  exact List.any_eq_true.mpr ⟨m, List.mem_of_find?_eq_some h, hm⟩

theorem Prechecked.eq_self (h : Prechecked op cr) : prepare op cr = .ok cr ∧ afterDriverPrecheck cr = cr := by
  have hforce : defaultForceRemoveDriver cr = cr := by
    obtain ⟨b, hb⟩ := Option.isSome_iff_exists.mp h.forceRemove
    have hsame : some (cr.spec.driver.forceRemoveDriver.getD true) = cr.spec.driver.forceRemoveDriver := by
      rw [hb, Option.getD_some]
    unfold defaultForceRemoveDriver
    rw [hsame]
  have hload : loadDefaultComponents op cr = .ok cr := by
    unfold loadDefaultComponents
    split
    next hobs =>
      obtain ⟨comps, hcomps, hall⟩ := h.defaults hobs
      rw [hcomps]
      dsimp only
      split
      next henabled => exact congrArg Except.ok (foldl_addIfMissing_eq_self (hall henabled))
      next => rfl
    next => rfl
  have hversion : resolveAuthVersion op cr = .ok cr := by
    unfold resolveAuthVersion
    split
    next hauth =>
      rw [h.version hauth]
      dsimp only
      rw [setAuthVersion_eq_self fun m hm => by rw [(getModule_of_find? hm).2]]
    next => rfl
  constructor
  · unfold prepare
    rw [hforce, hload]
    exact hversion
  · unfold afterDriverPrecheck
    split
    next htype =>
      rw [enableReverseProxy_eq_self fun m hm => ?_]
      obtain ⟨hhas, rfl⟩ := getModule_of_find? hm
      exact h.proxy htype hhas
    next => rfl

theorem Skipped.eq_self (h : Skipped cr) : skipRequested cr = cr := by
  unfold skipRequested
  rw [List.map_congr_left h, List.map_id']

/-- A settled CR is written back as it is. -/
theorem AtRest.writtenBack_eq (h : AtRest op mdmVar cr) (checked : Bool) :
    writtenBack op mdmVar checked cr = .ok cr := by
  obtain ⟨hprepare, hproxy⟩ := h.toPrechecked.eq_self
  unfold writtenBack
  rw [hprepare]
  dsimp only
  rw [hproxy, h.skip.eq_self, ite_self, h.driver]

/-- Whether a CR is settled is a matter of its spec. -/
theorem AtRest.of_spec (h : AtRest op mdmVar cr) (hspec : cr'.spec = cr.spec) : AtRest op mdmVar cr' := by
  have hcr : cr' = { cr' with spec := cr.spec } := by rw [← hspec]
  obtain ⟨⟨hforce, hdefaults, hversion, hproxy⟩, hskip, hdriver⟩ := h
  have hwritten : driverConfigWritten mdmVar { cr' with spec := cr.spec } =
      { cr' with spec := (driverConfigWritten mdmVar cr).spec } := by
    unfold driverConfigWritten
    split
    · rfl
    · split
      · by_cases hauth : cr.hasModule .authorization = true
        · rw [show authEnvWritten cr = _ from if_pos hauth]
          exact if_pos hauth
        · rw [show authEnvWritten cr = _ from if_neg hauth]
          exact if_neg hauth
      · rfl
  rw [hcr]
  refine ⟨⟨hforce, hdefaults, hversion, hproxy⟩, hskip, ?_⟩
  rw [hwritten, hdriver]

/-! ### What was written back is settled -/

theorem getVersion_of_entries (hversion : cr'.spec.version = cr.spec.version)
    (htype : cr'.spec.driver.csiDriverType = cr.spec.driver.csiDriverType)
    (hconfig : cr'.spec.driver.configVersion = cr.spec.driver.configVersion)
    (hentries : entries .authorizationServer cr'.spec.modules = entries .authorizationServer cr.spec.modules) :
    getVersion op cr' = getVersion op cr := by
  unfold getVersion
  rw [hversion, htype, hconfig, hasModule_of_entries hentries, getModule_of_entries hentries]

/-- The first entry gets the version. -/
theorem find?_setAuthVersion (v : String) (ms : List Module) :
    (setAuthVersion v ms).find? (·.name = .authorizationServer) =
      (ms.find? (·.name = .authorizationServer)).map fun m => { m with configVersion := v } := by
  induction ms with
  | nil => rfl
  | cons m ms ih =>
      unfold setAuthVersion
      split
      next hm =>
        rw [List.find?_cons_of_pos (by simpa using hm), List.find?_cons_of_pos (by simpa using hm)]
        rfl
      next hm =>
        rw [List.find?_cons_of_neg (by simpa using hm), List.find?_cons_of_neg (by simpa using hm), ih]

theorem find?_reverseProxy_enabled (ms : List Module) :
    (enableReverseProxy ms).find? (·.name = .reverseProxy) =
      (ms.find? (·.name = .reverseProxy)).map fun m => { m with enabled := true, forceRemoveModule := true } := by
  induction ms with
  | nil => rfl
  | cons m ms ih =>
      unfold enableReverseProxy
      split
      next hm =>
        rw [List.find?_cons_of_pos (by simpa using hm), List.find?_cons_of_pos (by simpa using hm)]
        rfl
      next hm =>
        rw [List.find?_cons_of_neg (by simpa using hm), List.find?_cons_of_neg (by simpa using hm), ih]

theorem defaultsLoaded_of_load (h : loadDefaultComponents op cr = .ok cr') : DefaultsLoaded op cr' := by
  rcases loadDefaultComponents_cases h with ⟨hdisabled, rfl⟩ | ⟨comps, more, hcomps, rfl, hall⟩
  · intro hobs
    unfold loadDefaultComponents at h
    rw [if_pos hobs] at h
    cases hcomps : getDefaultComponents op cr'.getDriverType .observability with
    | error e =>
        rw [hcomps] at h
        cases h
    | ok comps =>
        refine ⟨comps, rfl, fun henabled => ?_⟩
        rw [hdisabled] at henabled
        cases henabled
  · exact fun _ => ⟨comps, hcomps, fun _ => hall⟩

theorem DefaultsLoaded.congr (h : DefaultsLoaded op cr)
    (htype : cr'.spec.driver.csiDriverType = cr.spec.driver.csiDriverType)
    (hentries : entries .observability cr'.spec.modules = entries .observability cr.spec.modules) :
    DefaultsLoaded op cr' := by
  unfold DefaultsLoaded hasModuleComponent at h ⊢
  rw [hasModule_of_entries hentries, isModuleEnabled_of_entries hentries, getModule_of_entries hentries,
    show cr'.getDriverType = cr.getDriverType from htype]
  exact h

/-- The version that the authorization server gets is the one that the CR asks for with it. -/
theorem getVersion_resolved {v : String} (hv : getVersion op cr = .ok v)
    (hauth : cr.hasModule .authorizationServer = true)
    (hcr' : cr' = { cr with spec := { cr.spec with modules := setAuthVersion v cr.spec.modules } }) :
    getVersion op cr' = .ok v ∧ (cr'.getModule .authorizationServer).configVersion = v := by
  have hmodule : (cr'.getModule .authorizationServer).configVersion = v := by
    rw [hcr', ContainerStorageModule.getModule, find?_setAuthVersion]
    obtain ⟨m, hm, hname⟩ := List.any_eq_true.mp hauth
    cases hfind : cr.spec.modules.find? (·.name = .authorizationServer) with
    | none => exact absurd hname (List.find?_eq_none.mp hfind m hm)
    | some m' => rfl
  refine ⟨?_, hmodule⟩
  have hhas : cr'.hasModule .authorizationServer = true := by
    obtain ⟨m, hm, hname⟩ := List.any_eq_true.mp hauth
    cases hfind : cr.spec.modules.find? (·.name = .authorizationServer) with
    | none => exact absurd hname (List.find?_eq_none.mp hfind m hm)
    | some m' =>
        refine (getModule_of_find? (m := { m' with configVersion := v }) ?_).1
        rw [hcr', find?_setAuthVersion, hfind]
        rfl
  unfold getVersion at hv ⊢
  rw [hhas, hmodule]
  rw [hauth] at hv
  rw [hcr']
  dsimp only
  split
  next hversion =>
    rw [if_pos hversion] at hv
    exact hv
  next hversion =>
    rw [if_neg hversion] at hv
    dsimp only at hv
    split
    · rfl
    next hconfig =>
      rw [if_neg hconfig] at hv
      exact hv

theorem resolveAuthVersion_ok (h : resolveAuthVersion op cr = .ok cr') :
    (∃ modules, cr' = { cr with spec := { cr.spec with modules } }) ∧
      EditsOnly .authorizationServer cr.spec.modules cr'.spec.modules ∧
      (cr'.hasModule .authorizationServer = true →
        getVersion op cr' = .ok (cr'.getModule .authorizationServer).configVersion) := by
  unfold resolveAuthVersion at h
  split at h
  next hauth =>
    cases hv : getVersion op cr with
    | error e =>
        rw [hv] at h
        cases h
    | ok v =>
        rw [hv] at h
        have hcr' := (Except.ok.inj h).symm
        obtain ⟨hversion, hmodule⟩ := getVersion_resolved hv hauth hcr'
        refine ⟨⟨_, hcr'⟩, ?_, fun _ => by rw [hversion, hmodule]⟩
        rw [hcr']
        exact editsOnly_setAuthVersion v cr.spec.modules
  next hauth =>
    cases h
    exact ⟨⟨cr.spec.modules, rfl⟩, editsOnly_refl _, fun h => absurd h hauth⟩

/-- The reverse proxy of a PowerMax is on. -/
theorem afterDriverPrecheck_ok (cr : ContainerStorageModule) :
    (∃ modules, afterDriverPrecheck cr = { cr with spec := { cr.spec with modules } }) ∧
      EditsOnly .reverseProxy cr.spec.modules (afterDriverPrecheck cr).spec.modules ∧
      (cr.spec.driver.csiDriverType = .powerMax → (afterDriverPrecheck cr).hasModule .reverseProxy = true →
        ((afterDriverPrecheck cr).getModule .reverseProxy).enabled = true ∧
          ((afterDriverPrecheck cr).getModule .reverseProxy).forceRemoveModule = true) := by
  by_cases htype : cr.spec.driver.csiDriverType = .powerMax
  · have hafter : afterDriverPrecheck cr =
        { cr with spec := { cr.spec with modules := enableReverseProxy cr.spec.modules } } := if_pos htype
    refine ⟨⟨_, hafter⟩, ?_, fun _ hhas => ?_⟩
    · rw [hafter]
      exact editsOnly_enableReverseProxy cr.spec.modules
    · rw [hafter] at hhas ⊢
      obtain ⟨m, hm, hname⟩ := List.any_eq_true.mp hhas
      have hfind := find?_reverseProxy_enabled cr.spec.modules
      cases hfirst : cr.spec.modules.find? (·.name = .reverseProxy) with
      | none =>
          rw [hfirst] at hfind
          exact absurd hname (List.find?_eq_none.mp hfind m hm)
      | some m' =>
          rw [hfirst] at hfind
          rw [ContainerStorageModule.getModule, hfind]
          exact ⟨rfl, rfl⟩
  · have hafter : afterDriverPrecheck cr = cr := if_neg htype
    rw [hafter]
    exact ⟨⟨cr.spec.modules, rfl⟩, editsOnly_refl _, fun h => absurd h htype⟩

/-- The entries of the authorization proxy and the containers of the driver do not matter to it. -/
theorem Prechecked.congr (h : Prechecked op cr) (hversion : cr'.spec.version = cr.spec.version)
    (htype : cr'.spec.driver.csiDriverType = cr.spec.driver.csiDriverType)
    (hconfig : cr'.spec.driver.configVersion = cr.spec.driver.configVersion)
    (hforce : cr'.spec.driver.forceRemoveDriver = cr.spec.driver.forceRemoveDriver)
    (hentries : ∀ t, t ≠ .authorization → entries t cr'.spec.modules = entries t cr.spec.modules) :
    Prechecked op cr' := by
  refine ⟨?_, ?_, fun hauth => ?_, fun hmax hhas => ?_⟩
  · rw [hforce]
    exact h.forceRemove
  · exact h.defaults.congr htype (hentries _ (by decide))
  · have hserver := hentries .authorizationServer (by decide)
    rw [getVersion_of_entries hversion htype hconfig hserver, getModule_of_entries hserver]
    exact h.version (hasModule_of_entries hserver ▸ hauth)
  · have hproxy := hentries .reverseProxy (by decide)
    rw [getModule_of_entries hproxy]
    exact h.proxy (htype ▸ hmax) (hasModule_of_entries hproxy ▸ hhas)

theorem prechecked_of_prepare (h : prepare op cr = .ok csm) : Prechecked op (afterDriverPrecheck csm) := by
  unfold prepare at h
  cases hload : loadDefaultComponents op (defaultForceRemoveDriver cr) with
  | error e =>
      rw [hload] at h
      cases h
  | ok loaded =>
  rw [hload] at h
  have hdefaults := defaultsLoaded_of_load hload
  obtain ⟨_, hloaded, -⟩ := loadDefaultComponents_eq hload
  obtain ⟨⟨_, hcsm⟩, hresolved, hversion⟩ := resolveAuthVersion_ok h
  obtain ⟨⟨_, hafter⟩, hproxied, hproxy⟩ := afterDriverPrecheck_ok csm
  -- the entries that the precheck of the driver leaves
  have hentries {t : ModuleType} (ht : t ≠ .reverseProxy) :
      entries t (afterDriverPrecheck csm).spec.modules = entries t csm.spec.modules :=
    entries_of_editsOnly hproxied ht
  have hdriver := afterDriverPrecheck_driver csm
  refine ⟨?_, ?_, fun hauth => ?_, fun hmax hhas => ?_⟩
  · rw [hdriver, hcsm, hloaded]
    rfl
  · refine hdefaults.congr ?_ ((hentries (by decide)).trans (entries_of_editsOnly hresolved (by decide)))
    rw [hdriver, hcsm]
  · have hserver := hentries (t := .authorizationServer) (by decide)
    have hspec : (afterDriverPrecheck csm).spec.version = csm.spec.version := by rw [hafter]
    rw [getVersion_of_entries hspec (by rw [hdriver]) (by rw [hdriver]) hserver, getModule_of_entries hserver]
    exact hversion (hasModule_of_entries hserver ▸ hauth)
  · exact hproxy (hdriver ▸ hmax) hhas

theorem Prechecked.skipRequested (h : Prechecked op cr) : Prechecked op (skipRequested cr) :=
  h.congr rfl rfl rfl rfl fun _ ht => entries_of_editsOnly (editsOnly_skipRequested _) ht

theorem skipped_skipRequested (cr : ContainerStorageModule) : Skipped (skipRequested cr) := by
  intro m hm
  obtain ⟨m', -, rfl⟩ := List.mem_map.mp hm
  exact m'.skipRequested_twice

theorem Prechecked.driverConfigWritten (h : Prechecked op cr) : Prechecked op (driverConfigWritten mdmVar cr) := by
  obtain ⟨_, _, _, hwritten⟩ := driverConfigWritten_eq mdmVar cr
  rw [hwritten]
  exact h.congr rfl rfl rfl rfl fun _ _ => rfl

theorem Skipped.driverConfigWritten (h : Skipped cr) : Skipped (driverConfigWritten mdmVar cr) := by
  obtain ⟨_, _, _, hwritten⟩ := driverConfigWritten_eq mdmVar cr
  rw [hwritten]
  exact h

theorem atRest_writtenBack (h : writtenBack op mdmVar true cr = .ok w) : AtRest op mdmVar w := by
  unfold writtenBack at h
  cases hprepare : prepare op cr with
  | error e =>
      rw [hprepare] at h
      cases h
  | ok csm =>
      rw [hprepare] at h
      obtain rfl : _ = w := Except.ok.inj h
      exact ⟨(prechecked_of_prepare hprepare).skipRequested.driverConfigWritten,
        (skipped_skipRequested _).driverConfigWritten, driverConfigWritten_twice ..⟩

end AtRest

/-- The user has listed a container whose variable `MDM` the operator fills in. The init container needs to have
the variable, since what is appended to its copy is lost. -/
def TakesMDM (cr : ContainerStorageModule) : Prop :=
  cr.spec.driver.csiDriverType = .powerFlex ∧
    ((∃ c ∈ cr.spec.driver.initContainers, (isSdc c && sdcEnabled cr) = true ∧ c.envs.any (·.name = "MDM")) ∨
      ∃ c ∈ cr.spec.driver.sideCars, isSdcMonitor c = true)

section Secret

variable {name value value' : String} {envs : List EnvVar} {cr csm : ContainerStorageModule} {op : OperatorConfig}
  {mdmVar mdmVar' : String}

theorem find?_overwriteEnv (h : envs.any (·.name = name) = true) :
    (overwriteEnv name value envs).find? (·.name = name) = some ⟨name, value⟩ := by
  unfold overwriteEnv
  induction envs with
  | nil => cases h
  | cons env envs ih =>
      by_cases hname : env.name = name
      · simp [replaceFirst, hname]
      · have hrest : envs.any (·.name = name) = true := by simpa [hname] using h
        simpa [replaceFirst, hname] using ih hrest

theorem find?_setEnv (name value : String) (envs : List EnvVar) :
    (setEnv name value envs).find? (·.name = name) = some ⟨name, value⟩ := by
  unfold setEnv
  split
  next h => exact find?_overwriteEnv h
  next h =>
    have hnone : envs.find? (·.name = name) = none := by
      rw [List.find?_eq_none]
      simpa using h
    rw [List.find?_append, hnone]
    simp

/-- The variable shows the value it was given. -/
theorem value_inj_of_find? {envs' : List EnvVar} (heq : envs = envs')
    (h : envs.find? (·.name = name) = some ⟨name, value⟩)
    (h' : envs'.find? (·.name = name) = some ⟨name, value'⟩) : value = value' := by
  rw [heq, h'] at h
  injection h with h
  injection h with _ h
  exact h.symm

/-- Two lists of containers that were given different things agree only where a container cannot tell. -/
theorem onEnvs_eq_of_map {sel : ContainerTemplate → Bool} {g g' : List EnvVar → List EnvVar}
    {cs : List ContainerTemplate} (h : cs.map (onEnvs sel g) = cs.map (onEnvs sel g')) {c : ContainerTemplate}
    (hc : c ∈ cs) (hsel : sel c = true) : g c.envs = g' c.envs := by
  have hc : onEnvs sel g c = onEnvs sel g' c := List.map_inj_left.mp h c hc
  rw [onEnvs, onEnvs, if_pos hsel, if_pos hsel] at hc
  exact congrArg ContainerTemplate.envs hc

theorem map_onEnvs_congr {sel : ContainerTemplate → Bool} {g g' : List EnvVar → List EnvVar}
    {cs : List ContainerTemplate} (h : ∀ c ∈ cs, sel c = true → g c.envs = g' c.envs) :
    cs.map (onEnvs sel g) = cs.map (onEnvs sel g') := by
  refine List.map_congr_left fun c hc => ?_
  by_cases hsel : sel c = true
  · rw [onEnvs, onEnvs, if_pos hsel, if_pos hsel, h c hc hsel]
  · rw [onEnvs, onEnvs, if_neg hsel, if_neg hsel]

theorem driverConfigWritten_inj (htakes : TakesMDM cr)
    (h : driverConfigWritten mdmVar cr = driverConfigWritten mdmVar' cr) : mdmVar = mdmVar' := by
  obtain ⟨hflex, hcontainers⟩ := htakes
  rw [driverConfigWritten, driverConfigWritten, if_pos hflex, if_pos hflex] at h
  rcases hcontainers with ⟨c, hc, hsel, hany⟩ | ⟨c, hc, hsel⟩
  · have hinit := congrArg (·.spec.driver.initContainers) h
    exact value_inj_of_find? (onEnvs_eq_of_map hinit hc hsel) (find?_overwriteEnv hany) (find?_overwriteEnv hany)
  · have hside := congrArg (·.spec.driver.sideCars) h
    exact value_inj_of_find? (onEnvs_eq_of_map hside hc hsel) (find?_setEnv ..) (find?_setEnv ..)

theorem driverConfigWritten_of_not_takes (mdmVar mdmVar' : String) (h : ¬TakesMDM cr) :
    driverConfigWritten mdmVar cr = driverConfigWritten mdmVar' cr := by
  unfold driverConfigWritten
  split
  next hflex =>
    have hinit : (sdcWritten mdmVar cr).spec.driver.initContainers =
        (sdcWritten mdmVar' cr).spec.driver.initContainers := by
      refine map_onEnvs_congr fun c hc hsel => ?_
      have hnone : c.envs.any (·.name = "MDM") = false := by
        rw [Bool.eq_false_iff]
        exact fun hany => h ⟨hflex, .inl ⟨c, hc, hsel, hany⟩⟩
      exact (replaceFirst_of_not_any hnone).trans (replaceFirst_of_not_any hnone).symm
    have hside : (sdcWritten mdmVar cr).spec.driver.sideCars = (sdcWritten mdmVar' cr).spec.driver.sideCars :=
      map_onEnvs_congr fun c hc hsel => absurd ⟨hflex, .inr ⟨c, hc, hsel⟩⟩ h
    exact congrArg₂ (fun initContainers sideCars => { cr with
      spec := { cr.spec with driver := { cr.spec.driver with initContainers, sideCars } } }) hinit hside
  next => rfl

/-- What comes before does not touch the containers of the driver. -/
theorem takesMDM_of_driver {cr' : ContainerStorageModule}
    (h : cr'.spec.driver = (defaultForceRemoveDriver cr).spec.driver) : TakesMDM cr' ↔ TakesMDM cr := by
  unfold TakesMDM sdcEnabled
  rw [h]
  rfl

/-- **Where the Secret goes.** Of the driver's Secret the stored CR holds the address of the MDM, and that exactly
if the user has listed a container that takes it: then CRs stored with different addresses differ, and otherwise
the Secret leaves no trace in the CR. -/
theorem mdm_stored_iff (hprepare : prepare op cr = .ok csm) (hne : mdmVar ≠ mdmVar') (checked : Bool) :
    writtenBack op mdmVar checked cr ≠ writtenBack op mdmVar' checked cr ↔ TakesMDM cr := by
  unfold writtenBack
  rw [hprepare]
  dsimp only
  have hdriver : (if checked then skipRequested (afterDriverPrecheck csm) else afterDriverPrecheck csm).spec.driver =
      (defaultForceRemoveDriver cr).spec.driver := by
    rw [← driver_of_prepare hprepare]
    cases checked <;> rfl
  rw [← takesMDM_of_driver hdriver]
  generalize (if checked then skipRequested (afterDriverPrecheck csm) else afterDriverPrecheck csm) = cr'
  constructor
  · intro hdiffer
    by_contra hnot
    exact hdiffer (congrArg Except.ok (driverConfigWritten_of_not_takes mdmVar mdmVar' hnot))
  · intro htakes heq
    exact hne (driverConfigWritten_inj htakes (Except.ok.inj heq))

/-- The sidecar shows the address. -/
theorem mdm_stored_iff_flex :
    writtenBack topologyAndMetrics "10.0.0.1" true flexCR ≠ writtenBack topologyAndMetrics "10.0.0.2" true flexCR :=
  (mdm_stored_iff rfl (by decide) true).mpr ⟨rfl, .inr ⟨_, List.mem_singleton_self _, rfl⟩⟩

end Secret

end CsmOperator
